/-
# What a report says about drawing

The checks look at every curve of an outcome, the engine only up to the first whose
parentheses do not balance.  They agree nevertheless: a report has a finding with the
code `fplot::formula::structure` exactly if the engine refuses the batch
(`structure_mem_report_iff`), and its errors are the rows that were set aside together
with the curves that the engine would refuse (`errors_report`).  In an outcome of rows
these are the rows that are not blank and cannot be drawn (`errors_report_ofRows`).
-/

import CurveSheet.Diagnostic.Check
import CurveSheet.Engine.Draw
import CurveSheet.Proofs.Plot.Isolation

namespace CurveSheet

open Plot

/-! ### What becomes of a row on its own -/

namespace Plot

/-- The row gives a curve, and the engine takes its formula. -/
def Row.isDrawn (row : Row) : Bool :=
  match row.spec? with
  | .ok (some spec) => (Engine.formulaFault? spec.formula).isNone
  | _ => false

end Plot

namespace Engine

/-- The curve is one that the engine refuses. -/
def isRefused (spec : Spec) : Bool := (imbalance? spec.formula.toList).isSome

theorem formulaFault?_isSome (spec : Spec) :
    (formulaFault? spec.formula).isSome = isRefused spec := by
  rw [formulaFault?, Option.isSome_map, isRefused]

/-- **The engine stops at the first refused curve if there is one.** -/
theorem firstFault?_eq_none_iff {specs : List Spec} :
    firstFault? specs = none ↔ ∀ spec ∈ specs, isRefused spec = false := by
  rw [firstFault?, List.findSome?_eq_none_iff]
  refine forall₂_congr fun spec _ => ?_
  rw [← formulaFault?_isSome, Option.isSome_eq_false_iff, Option.isNone_iff_eq_none]

/-- Drawing succeeds exactly if no curve is refused. -/
theorem exists_draw_eq_ok_iff (canvas : Canvas) {outcome : Outcome} :
    (∃ document, draw (render canvas) outcome = .ok document) ↔
      ∀ spec ∈ outcome.batch.specs, isRefused spec = false := by
  rw [← firstFault?_eq_none_iff, draw, render]
  cases firstFault? outcome.batch.specs with
  | none => exact ⟨fun _ => rfl, fun _ => ⟨_, rfl⟩⟩
  | some fault => exact ⟨fun ⟨_, h⟩ => (nomatch h), fun h => (nomatch h)⟩

end Engine

namespace Check

open Engine

/-- The code of findings about parentheses. -/
def structureCode : String := "fplot::formula::structure"

/-! ### The four checks -/

theorem isSome_structureDiagnostic? (spec : Spec) :
    (structureDiagnostic? spec).isSome = isRefused spec := by
  rw [structureDiagnostic?, Option.isSome_map, isRefused]

theorem of_structureDiagnostic? {spec : Spec} {d : Diagnostic}
    (h : structureDiagnostic? spec = some d) : d.severity = .error ∧ d.code = structureCode := by
  obtain ⟨imbalance, -, rfl⟩ := Option.map_eq_some_iff.1 h
  exact ⟨rfl, rfl⟩

theorem of_explicitDiagnostic? {spec : Spec} {d : Diagnostic}
    (h : explicitDiagnostic? spec = some d) : d.severity = .warning ∧ d.code ≠ structureCode := by
  rw [explicitDiagnostic?, Option.ite_none_right_eq_some] at h
  obtain ⟨-, h⟩ := h
  cases h
  exact ⟨rfl, (by decide : "fplot::formula::explicit-y" ≠ structureCode)⟩

theorem of_mem_emptyDiagnostics {outcome : Outcome} {d : Diagnostic}
    (h : d ∈ emptyDiagnostics outcome) : d.severity = .warning ∧ d.code ≠ structureCode := by
  unfold emptyDiagnostics at h
  split at h
  · rw [List.mem_singleton.1 h]
    exact ⟨rfl, by decide⟩
  · exact absurd h List.not_mem_nil

/-- No row error has the code of parentheses. -/
theorem code_failureDiagnostic_ne (failure : RowFailure) :
    (failureDiagnostic failure).code ≠ structureCode := by
  change failure.fault.code ≠ structureCode
  cases failure.fault with
  | equation => exact (by decide : "fplot::row::equation" ≠ structureCode)
  | comparison => exact (by decide : "fplot::row::comparison" ≠ structureCode)

/-! ### The report as a whole -/

/-- Sorting moves the findings of the checks and does no more. -/
theorem report_perm (outcome : Outcome) : (report outcome).diagnostics.Perm
    (outcome.failures.map failureDiagnostic ++
      outcome.batch.specs.filterMap structureDiagnostic? ++
      outcome.batch.specs.filterMap explicitDiagnostic? ++ emptyDiagnostics outcome) :=
  List.mergeSort_perm _ _

/-- **A report speaks of parentheses exactly if the engine refuses a curve.** -/
theorem structure_mem_report_iff (outcome : Outcome) :
    (∃ d ∈ (report outcome).diagnostics, d.code = structureCode) ↔
      ∃ spec ∈ outcome.batch.specs, isRefused spec = true := by
  constructor
  · rintro ⟨d, hd, hcode⟩
    rw [(report_perm outcome).mem_iff] at hd
    simp only [List.mem_append, List.mem_map, List.mem_filterMap] at hd
    rcases hd with ((⟨failure, -, rfl⟩ | ⟨spec, hspec, h⟩) | ⟨spec, -, h⟩) | h
    · exact absurd hcode (code_failureDiagnostic_ne failure)
    · exact ⟨spec, hspec, by rw [← isSome_structureDiagnostic?, h, Option.isSome_some]⟩
    · exact absurd hcode (of_explicitDiagnostic? h).2
    · exact absurd hcode (of_mem_emptyDiagnostics h).2
  · rintro ⟨spec, hspec, h⟩
    rw [← isSome_structureDiagnostic?, Option.isSome_iff_exists] at h
    obtain ⟨d, hd⟩ := h
    refine ⟨d, (report_perm outcome).mem_iff.2 ?_, (of_structureDiagnostic? hd).2⟩
    simp only [List.mem_append, List.mem_filterMap]
    exact .inl (.inl (.inr ⟨spec, hspec, hd⟩))

/-- **The errors of a report are the rows set aside and the curves refused.** -/
theorem errors_report (outcome : Outcome) :
    (report outcome).errors =
      outcome.failures.length + outcome.batch.specs.countP isRefused := by
  have hfailures : (outcome.failures.map failureDiagnostic).countP (·.severity == .error) =
      outcome.failures.length := by
    rw [List.countP_map, ← List.countP_true]
    rfl
  have hstructure : (outcome.batch.specs.filterMap structureDiagnostic?).countP
      (·.severity == .error) = outcome.batch.specs.countP isRefused := by
    rw [List.countP_eq_length.2, List.length_filterMap_eq_countP]
    · exact List.countP_congr fun spec _ => by rw [isSome_structureDiagnostic?]
    · intro d hd
      obtain ⟨spec, -, h⟩ := List.mem_filterMap.1 hd
      rw [(of_structureDiagnostic? h).1]
      rfl
  have hexplicit : (outcome.batch.specs.filterMap explicitDiagnostic?).countP
      (·.severity == .error) = 0 := by
    rw [List.countP_eq_zero]
    intro d hd
    obtain ⟨spec, -, h⟩ := List.mem_filterMap.1 hd
    rw [(of_explicitDiagnostic? h).1]
    decide
  have hempty : (emptyDiagnostics outcome).countP (·.severity == .error) = 0 := by
    rw [List.countP_eq_zero]
    intro d hd
    rw [(of_mem_emptyDiagnostics hd).1]
    decide
  rw [Report.errors, Report.count, ← List.countP_eq_length_filter, (report_perm outcome).countP_eq,
    List.countP_append, List.countP_append, List.countP_append, hfailures, hstructure, hexplicit,
    hempty, Nat.add_zero]

/-! ### Outcomes of rows -/

/-- What became of a row is counted as an error exactly if the row cannot be drawn. -/
theorem failure_add_refused (row : Row) (index : Nat) :
    (if (row.result index).failure?.isSome then 1 else 0) +
        (if ((row.result index).spec?.map isRefused).getD false then 1 else 0) =
      if !row.isBlank && !row.isDrawn then 1 else 0 := by
  have hblank := Row.spec?_eq_none_iff row
  unfold Row.result Row.isDrawn
  cases h : row.spec? with
  | error fault =>
    have : row.isBlank = false := by simpa [h] using hblank
    simp [this, RowResult.failure?, RowResult.spec?]
  | ok spec? =>
    cases spec? with
    | none => simp [hblank.1 h, RowResult.failure?, RowResult.spec?]
    | some spec =>
      have : row.isBlank = false := by simpa [h] using hblank
      simp [this, RowResult.failure?, RowResult.spec?, ← formulaFault?_isSome]

theorem countP_resultsFrom (rows : List Row) (start : Nat) :
    ((resultsFrom start rows).filterMap RowResult.failure?).length +
        ((resultsFrom start rows).filterMap RowResult.spec?).countP isRefused =
      rows.countP fun row => !row.isBlank && !row.isDrawn := by
  rw [List.length_filterMap_eq_countP, List.countP_filterMap]
  induction rows generalizing start with
  | nil => rfl
  | cons row rows ih =>
    have hrow := failure_add_refused row start
    have hrows := ih (start + 1)
    simp only [resultsFrom, List.countP_cons]
    omega

/-- **The errors of an outcome of rows are the rows that cannot be drawn**, blank ones apart. -/
theorem errors_report_ofRows (rows : List Row) (x y : AxisRange) :
    (report (Outcome.ofRows rows x y)).errors =
      rows.countP fun row => !row.isBlank && !row.isDrawn := by
  rw [errors_report]
  exact countP_resultsFrom rows 0

end Check
end CurveSheet
