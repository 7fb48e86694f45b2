/-
# Everything once and in order

A report lists the rows that were set aside, in the order of their numbers, then the curves that
the engine refuses, then the explicit curves that use `y`, the curves in the order of the batch,
and at last, if there is neither a curve nor a failure, that there is nothing to plot (`Lists`).
Only findings about rows have a row, so sorting moves them alone
(`diagnostics_report_eq`), and in an outcome of rows they stand in their order already
(`isStableSort_failures_ofRows`).

Colours, hints and ranges do not matter: outcomes with the same failures and the same formulas, each
of the same kind, have the same report (`report_congr`).
-/

import CurveSheet.Proofs.Diagnostic.Order
import CurveSheet.Proofs.Diagnostic.Report
import Mathlib.Data.List.Forall2

namespace CurveSheet
namespace Check

open Engine Plot

/-! ### What there is to find -/

/-- The curve is an explicit one whose formula uses `y`. -/
def usesY (spec : Spec) : Bool := spec.kind == .explicit && mentions 'y' spec.formula.toList

/-- The finding is the error about a row that was set aside. -/
def IsFailureError (failure : RowFailure) (d : Diagnostic) : Prop :=
  d = ⟨.error, failure.fault.code, "`" ++ failure.text ++ "`: " ++ failure.fault.message,
    some failure.row, some failure.fault.help⟩

/-- The finding is the error about a formula whose parentheses do not balance. -/
def IsStructureError (spec : Spec) (d : Diagnostic) : Prop :=
  ∃ imbalance, imbalance? spec.formula.toList = some imbalance ∧
    d = ⟨.error, structureCode, imbalance.message spec.formula, none,
      some "Balance the parentheses in the formula"⟩

/-- The finding is the warning about an explicit formula that uses `y`. -/
def IsExplicitWarning (spec : Spec) (d : Diagnostic) : Prop :=
  d = ⟨.warning, "fplot::formula::explicit-y",
    "`" ++ spec.formula ++ "` uses y but is not an equation", none,
    some "Write it as an equation, e.g. x^2 + y^2 = 9"⟩

/-- The warning that there is nothing to plot. -/
def emptyWarning : Diagnostic :=
  ⟨.warning, "fplot::batch::empty", "no formulas to plot", none,
    some "Add a formula such as sin(x)"⟩

/-- A list of findings says everything about an outcome once and in order, with the failures in an
order of their own. -/
inductive Lists (outcome : Outcome) (failures : List RowFailure) : List Diagnostic → Prop where
  | intro {failed refused explicit blank : List Diagnostic}
    (hfailed : List.Forall₂ IsFailureError failures failed)
    (hrefused : List.Forall₂ IsStructureError (outcome.batch.specs.filter isRefused) refused)
    (hexplicit : List.Forall₂ IsExplicitWarning (outcome.batch.specs.filter usesY) explicit)
    (hblank : blank =
      if outcome.batch.specs = [] ∧ outcome.failures = [] then [emptyWarning] else []) :
    Lists outcome failures (failed ++ refused ++ explicit ++ blank)

/-! ### The findings of a check -/

/-- A check that finds one thing at some elements finds one thing at each of them, in order. -/
theorem forall₂_filter_filterMap {α β : Type*} {R : α → β → Prop} {p : α → Bool}
    {check : α → Option β} (hp : ∀ a, (check a).isSome = p a)
    (hR : ∀ a b, check a = some b → R a b) (l : List α) :
    List.Forall₂ R (l.filter p) (l.filterMap check) := by
  induction l with
  | nil => exact .nil
  | cons a l ih =>
    have ha := hp a
    rw [List.filter_cons, List.filterMap_cons, ← ha]
    cases hcheck : check a with
    | none => exact ih
    | some b => exact .cons (hR a b hcheck) ih

theorem isSome_explicitDiagnostic? (spec : Spec) :
    (explicitDiagnostic? spec).isSome = usesY spec := by
  unfold explicitDiagnostic? usesY
  split <;> simp_all

theorem isStructureError_of {spec : Spec} {d : Diagnostic}
    (h : structureDiagnostic? spec = some d) : IsStructureError spec d := by
  obtain ⟨imbalance, himbalance, rfl⟩ := Option.map_eq_some_iff.1 h
  exact ⟨imbalance, himbalance, rfl⟩

theorem isExplicitWarning_of {spec : Spec} {d : Diagnostic}
    (h : explicitDiagnostic? spec = some d) : IsExplicitWarning spec d := by
  rw [explicitDiagnostic?, Option.ite_none_right_eq_some] at h
  exact (Option.some.inj h.2).symm

theorem emptyDiagnostics_eq (outcome : Outcome) : emptyDiagnostics outcome =
    if outcome.batch.specs = [] ∧ outcome.failures = [] then [emptyWarning] else [] := by
  simp only [emptyDiagnostics, Outcome.isBlank, Bool.and_eq_true, List.isEmpty_iff]
  rfl

/-- The findings about curves and about the batch as a whole. -/
def batchFindings (outcome : Outcome) : List Diagnostic :=
  outcome.batch.specs.filterMap structureDiagnostic? ++
    outcome.batch.specs.filterMap explicitDiagnostic? ++ emptyDiagnostics outcome

/-- They are about no row. -/
theorem place_of_mem_batchFindings {outcome : Outcome} {d : Diagnostic}
    (h : d ∈ batchFindings outcome) : d.place = ⊤ := by
  simp only [batchFindings, List.mem_append, List.mem_filterMap, emptyDiagnostics_eq] at h
  rcases h with (⟨spec, -, h⟩ | ⟨spec, -, h⟩) | h
  · obtain ⟨imbalance, -, rfl⟩ := isStructureError_of h
    rfl
  · rw [isExplicitWarning_of h]
    rfl
  · split at h
    · rw [List.mem_singleton.1 h]
      rfl
    · exact absurd h List.not_mem_nil

theorem lists_findings (outcome : Outcome) (failures : List RowFailure) :
    Lists outcome failures (failures.map failureDiagnostic ++ batchFindings outcome) := by
  have hfailed : List.Forall₂ IsFailureError failures (failures.map failureDiagnostic) := by
    rw [List.forall₂_map_right_iff]
    exact List.forall₂_same.2 fun failure _ => rfl
  rw [batchFindings, ← List.append_assoc, ← List.append_assoc]
  exact .intro hfailed
    (forall₂_filter_filterMap isSome_structureDiagnostic? (fun _ _ => isStructureError_of) _)
    (forall₂_filter_filterMap isSome_explicitDiagnostic? (fun _ _ => isExplicitWarning_of) _)
    (emptyDiagnostics_eq outcome)

/-! ### The order of a report -/

/-- **Sorting moves the findings about rows alone.** -/
theorem diagnostics_report_eq {outcome : Outcome} {failures : List RowFailure}
    (h : IsStableSort RowFailure.row outcome.failures failures) :
    (report outcome).diagnostics = failures.map failureDiagnostic ++ batchFindings outcome := by
  have hrows : IsStableSort Diagnostic.place (outcome.failures.map failureDiagnostic)
      (failures.map failureDiagnostic) :=
    h.map WithTop.coe_strictMono fun _ => rfl
  have hbatch : IsStableSort Diagnostic.place (batchFindings outcome) (batchFindings outcome) :=
    .of_ascending <| List.pairwise_of_forall_mem_list fun a _ b hb => by
      rw [place_of_mem_batchFindings hb]
      exact le_top
  have hall := hrows.append hbatch fun a _ b hb => by
    rw [place_of_mem_batchFindings hb]
    exact le_top
  have hsort := Report.isStableSort_sort ⟨outcome.failures.map failureDiagnostic ++
    batchFindings outcome⟩
  rw [hsort.eq_iff.1 hall, report, batchFindings, ← List.append_assoc, ← List.append_assoc]

/-- The failures of an outcome can be put into the order of their rows. -/
theorem exists_isStableSort_failures (failures : List RowFailure) :
    ∃ sorted, IsStableSort RowFailure.row failures sorted := by
  have hle (a b : RowFailure) : decide (a.row ≤ b.row) = true ↔ a.row ≤ b.row :=
    decide_eq_true_iff
  exact ⟨_, isStableSort_mergeSort hle failures⟩

/-- The failures of rows are in their order already. -/
theorem isStableSort_failures_ofRows (rows : List Row) (x y : AxisRange) :
    IsStableSort RowFailure.row (Outcome.ofRows rows x y).failures
      (Outcome.ofRows rows x y).failures :=
  .of_ascending ((List.pairwise_map.1 (pairwise_failures 0 rows).1).imp Nat.le_of_lt)

/-! ### What a report depends on -/

/-- The formula of a curve and its kind. -/
def formulaAndKind (spec : Spec) : String × Formula.Kind := (spec.formula, spec.kind)

/-- **A report does not see colours, hints or ranges.** -/
theorem report_congr {outcome outcome' : Outcome} (hfailures : outcome.failures = outcome'.failures)
    (hspecs : outcome.batch.specs.map formulaAndKind = outcome'.batch.specs.map formulaAndKind) :
    report outcome = report outcome' := by
  -- a check sees of a curve what it sees of the curve without a colour and a hint
  have hsame (check : Spec → Option Diagnostic)
      (hcheck : ∀ spec, check spec = check ⟨spec.formula, spec.kind, ⟨""⟩, none⟩) :
      outcome.batch.specs.filterMap check = outcome'.batch.specs.filterMap check := by
    have hpairs (specs : List Spec) : specs.filterMap check =
        (specs.map formulaAndKind).filterMap fun pair => check ⟨pair.1, pair.2, ⟨""⟩, none⟩ := by
      rw [List.filterMap_map]
      exact List.filterMap_congr fun spec _ => hcheck spec
    rw [hpairs, hspecs, ← hpairs]
  have hempty : outcome.batch.specs = [] ↔ outcome'.batch.specs = [] := by
    rw [← List.map_eq_nil_iff (f := formulaAndKind), hspecs, List.map_eq_nil_iff]
  have hblank : emptyDiagnostics outcome = emptyDiagnostics outcome' := by
    simp only [emptyDiagnostics_eq, hempty, hfailures]
  rw [report, report, hfailures, hblank, hsame structureDiagnostic? fun _ => rfl,
    hsame explicitDiagnostic? fun _ => rfl]

/-- **A report says everything once and in order.**  Whatever failures an outcome has, its report
lists them stably sorted by their rows, then the curves that the engine refuses, then the explicit
curves that use `y`, and that there is nothing to plot exactly if so.  The failures of rows are
listed in their own order.  Nothing but the failures, the formulas and their kinds matters: not the
colours of the curves, not how they are to be drawn, and not the ranges. -/
theorem report_lists_findings :
    (∀ outcome, ∃ failures, IsStableSort RowFailure.row outcome.failures failures ∧
      Lists outcome failures (report outcome).diagnostics) ∧
    (∀ rows x y, Lists (Outcome.ofRows rows x y) (Outcome.ofRows rows x y).failures
      (report (Outcome.ofRows rows x y)).diagnostics) ∧
    ∀ outcome outcome', outcome.failures = outcome'.failures →
      outcome.batch.specs.map formulaAndKind = outcome'.batch.specs.map formulaAndKind →
        report outcome = report outcome' := by
  refine ⟨fun outcome => ?_, fun rows x y => ?_, fun outcome outcome' => report_congr⟩
  · obtain ⟨failures, hfailures⟩ := exists_isStableSort_failures outcome.failures
    refine ⟨failures, hfailures, ?_⟩
    rw [diagnostics_report_eq hfailures]
    exact lists_findings outcome failures
  · rw [diagnostics_report_eq (isStableSort_failures_ofRows rows x y)]
    exact lists_findings _ _

/-- Three failures about two rows, and a curve about which there are two findings, with whatever
colours, hints and ranges. -/
theorem report_lists_findings_two_rows :
    let narrow : AxisRange := ⟨⟨true, 1, by decide⟩, ⟨false, 1, by decide⟩, by decide⟩
    let wide : AxisRange := ⟨⟨true, 2, by decide⟩, ⟨false, 2, by decide⟩, by decide⟩
    let chained : RowFailure := ⟨2, "a=b=c", .equation 2⟩
    let compared : RowFailure := ⟨0, "y <= x", .comparison "<="⟩
    let doubled : RowFailure := ⟨2, "x==y", .equation 2⟩
    let failures := [chained, compared, doubled]
    let outcome : Outcome :=
      ⟨⟨[.explicit "(y" ⟨"red"⟩, .implicit "x - (1)" ⟨"red"⟩], narrow, narrow⟩, failures⟩
    let other : Outcome :=
      ⟨⟨[⟨"(y", .explicit, .forRow 0, none⟩, ⟨"x - (1)", .implicit, .forRow 1, some .polyline⟩],
        wide, narrow⟩, failures⟩
    Lists outcome [compared, chained, doubled] (report outcome).diagnostics ∧
      report outcome = report other := by
  intro narrow wide chained compared doubled failures outcome other
  obtain ⟨hlists, -, hsame⟩ := report_lists_findings
  obtain ⟨sorted, hsorted, houtcome⟩ := hlists outcome
  have horder : IsStableSort RowFailure.row outcome.failures [compared, chained, doubled] :=
    ⟨by decide, .of_forall_mem (by decide)⟩
  rw [← hsorted.eq_iff.1 horder] at houtcome
  exact ⟨houtcome, hsame outcome other rfl rfl⟩

end Check
end CurveSheet
