/-
# Rows do not touch each other

The outcome of rows is put together from what every row gives by itself
(`Row.gives_result`): nothing if it is blank, else one curve in its colour or one
failure at its place.  The rows behind a place are only counted on
(`resultsFrom_add`), so an outcome can be cut between any two rows
(`ofRows_append`), and whatever happens to one row, the others give what they gave
before (`row_isolation`).
-/

import CurveSheet.Plot.Batch
import Mathlib.Data.List.Basic
import Mathlib.Data.List.TakeWhile

namespace CurveSheet

/-! ### Blank texts -/

namespace Text

theorem trimChars_eq_nil_iff (text : List Char) :
    trimChars text = [] ↔ text.all isBlank = true := by
  rw [trimChars, trimEndChars, trimStartChars, List.reverse_eq_nil_iff, List.dropWhile_eq_nil_iff,
    List.all_eq_true]
  constructor
  · intro h c hc
    rw [← List.takeWhile_append_dropWhile (p := isBlank) (l := text), List.mem_append] at hc
    rcases hc with hc | hc
    · exact List.mem_takeWhile_imp hc
    · exact h c (List.mem_reverse.2 hc)
  · intro h c hc
    exact h c ((List.dropWhile_sublist _).subset (List.mem_reverse.1 hc))

theorem isEmpty_trim (text : String) : (trim text).isEmpty = isBlankText text := by
  rw [Bool.eq_iff_iff, isBlankText, ← trimChars_eq_nil_iff, String.isEmpty_iff, trim,
    String.ofList_eq_empty_iff]

end Text

namespace Plot

open Formula

/-! ### One row -/

/-- The row has nothing in it but blanks. -/
def Row.isBlank (row : Row) : Bool := (Text.trim row.text).isEmpty

/-- What a row at a place gives to an outcome: nothing, a curve in its colour, or a failure. -/
inductive Row.Gives (row : Row) (place : Nat) : List Spec → List RowFailure → Prop where
  | nothing (blank : Text.isBlankText row.text = true) : row.Gives place [] []
  | curve (spec : Spec) (built : row.spec? = .ok (some spec)) (colour : spec.colour = row.colour) :
    row.Gives place [spec] []
  | failure (fault : RowError) (failed : row.spec? = .error fault) :
    row.Gives place [] [⟨place, Text.trim row.text, fault⟩]

/-- Blank rows and only they leave nothing. -/
theorem Row.spec?_eq_none_iff (row : Row) : row.spec? = .ok none ↔ row.isBlank = true := by
  unfold spec? isBlank
  dsimp only
  split
  · simp_all
  · split <;> simp_all

theorem Row.isBlank_eq (row : Row) : row.isBlank = Text.isBlankText row.text :=
  Text.isEmpty_trim row.text

/-- A row is blank, or has a specification, or fails. -/
theorem Row.spec?_cases (row : Row) :
    (row.isBlank = true ∧ row.spec? = .ok none) ∨
      (row.isBlank = false ∧ ∃ spec, row.spec? = .ok (some spec)) ∨
      (row.isBlank = false ∧ ∃ fault, row.spec? = .error fault) := by
  cases hblank : row.isBlank with
  | true => exact .inl ⟨rfl, row.spec?_eq_none_iff.2 hblank⟩
  | false =>
    cases h : row.spec? with
    | error fault => exact .inr (.inr ⟨rfl, fault, rfl⟩)
    | ok spec? =>
      cases spec? with
      | none => rw [row.spec?_eq_none_iff.1 h] at hblank; cases hblank
      | some spec => exact .inr (.inl ⟨rfl, spec, rfl⟩)

/-- A row with something in it has the specification of what its normal form is classified as, in
its own colour. -/
theorem Row.spec?_eq_some_iff {row : Row} {spec : Spec} :
    row.spec? = .ok (some spec) ↔ row.isBlank = false ∧ ∃ classified,
      classify (normalize (Text.trim row.text)) = .ok classified ∧
        spec = .ofClassified classified row.colour := by
  unfold spec? isBlank
  dsimp only
  cases (Text.trim row.text).isEmpty with
  | true => simp
  | false =>
    cases classify (normalize (Text.trim row.text)) with
    | error fault => simp
    | ok classified => simp [eq_comm]

theorem Row.colour_of_spec? {row : Row} {spec : Spec} (h : row.spec? = .ok (some spec)) :
    spec.colour = row.colour := by
  obtain ⟨-, classified, -, rfl⟩ := spec?_eq_some_iff.1 h
  exact Spec.colour_ofClassified classified row.colour

/-- **What becomes of a row is what it gives.** -/
theorem Row.gives_result (row : Row) (place : Nat) :
    row.Gives place (row.result place).spec?.toList (row.result place).failure?.toList := by
  unfold result
  obtain ⟨hblank, h⟩ | ⟨-, spec, h⟩ | ⟨-, fault, h⟩ := row.spec?_cases <;> rw [h]
  · exact .nothing (row.isBlank_eq ▸ hblank)
  · exact .curve spec h (colour_of_spec? h)
  · exact .failure fault h

/-- A row gives one thing only. -/
theorem Row.Gives.unique {row : Row} {place : Nat} {specs : List Spec}
    {failures : List RowFailure} (h : row.Gives place specs failures) :
    specs = (row.result place).spec?.toList ∧ failures = (row.result place).failure?.toList := by
  unfold result
  cases h with
  | nothing blank => rw [row.spec?_eq_none_iff.2 (row.isBlank_eq ▸ blank)]; exact ⟨rfl, rfl⟩
  | curve spec built colour => rw [built]; exact ⟨rfl, rfl⟩
  | failure fault failed => rw [failed]; exact ⟨rfl, rfl⟩

/-- A row gives one thing exactly if it is not blank. -/
theorem Row.length_result (row : Row) (place : Nat) :
    (row.result place).spec?.toList.length + (row.result place).failure?.toList.length +
      (if row.isBlank then 1 else 0) = 1 := by
  unfold result
  obtain ⟨hblank, h⟩ | ⟨hblank, spec, h⟩ | ⟨hblank, fault, h⟩ := row.spec?_cases <;>
    rw [h, hblank] <;> rfl

/-! ### Rows one after the other -/

/-- A failure with `count` rows before those it was found among. -/
def RowFailure.moved (count : Nat) (failure : RowFailure) : RowFailure :=
  { failure with row := failure.row + count }

/-- A result with `count` rows before those it was found among. -/
def RowResult.moved (count : Nat) : RowResult → RowResult
  | blank => blank
  | plotted spec => plotted spec
  | failed failure => failed (failure.moved count)

theorem Row.result_add (row : Row) (place count : Nat) :
    row.result (place + count) = (row.result place).moved count := by
  unfold result
  cases row.spec? with
  | error fault => rfl
  | ok spec? => cases spec? <;> rfl

theorem resultsFrom_append (start : Nat) (first second : List Row) :
    resultsFrom start (first ++ second) =
      resultsFrom start first ++ resultsFrom (start + first.length) second := by
  induction first generalizing start with
  | nil => rfl
  | cons row first ih =>
    rw [List.cons_append, resultsFrom, resultsFrom, ih, List.length_cons, List.cons_append,
      Nat.add_assoc, Nat.add_comm 1]

theorem resultsFrom_add (start count : Nat) (rows : List Row) :
    resultsFrom (start + count) rows = (resultsFrom start rows).map (·.moved count) := by
  induction rows generalizing start with
  | nil => rfl
  | cons row rows ih =>
    rw [resultsFrom, resultsFrom, List.map_cons, row.result_add, Nat.add_right_comm, ih]

theorem resultsFrom_eq_map (start : Nat) (rows : List Row) :
    resultsFrom start rows = (rows.zipIdx start).map fun p => p.1.result p.2 := by
  induction rows generalizing start with
  | nil => rfl
  | cons row rows ih => rw [resultsFrom, ih, List.zipIdx_cons, List.map_cons]

/-- A failure is that of the row with its number. -/
theorem mem_failures_ofRows_iff {rows : List Row} {x y : AxisRange} {failure : RowFailure} :
    failure ∈ (Outcome.ofRows rows x y).failures ↔ ∃ row, rows[failure.row]? = some row ∧
      row.spec? = .error failure.fault ∧ failure.text = Text.trim row.text := by
  simp only [Outcome.ofRows, resultsFrom_eq_map, List.mem_filterMap, List.mem_map,
    exists_exists_and_eq_and]
  constructor
  · rintro ⟨⟨row, place⟩, hrow, hfailure⟩
    rw [List.mem_zipIdx_iff_getElem?] at hrow
    unfold Row.result at hfailure
    split at hfailure <;> cases hfailure
    rename_i fault hfault
    exact ⟨row, hrow, hfault, rfl⟩
  · rintro ⟨row, hrow, hfault, htext⟩
    refine ⟨(row, failure.row), List.mem_zipIdx_iff_getElem?.2 hrow, ?_⟩
    rw [Row.result, hfault, ← htext]
    rfl

theorem filterMap_spec?_moved (count : Nat) (results : List RowResult) :
    (results.map (·.moved count)).filterMap RowResult.spec? =
      results.filterMap RowResult.spec? := by
  rw [List.filterMap_map]
  exact List.filterMap_congr fun result _ => by cases result <;> rfl

theorem filterMap_failure?_moved (count : Nat) (results : List RowResult) :
    (results.map (·.moved count)).filterMap RowResult.failure? =
      (results.filterMap RowResult.failure?).map (·.moved count) := by
  rw [List.filterMap_map, List.map_filterMap]
  exact List.filterMap_congr fun result _ => by cases result <;> rfl

/-- **An outcome can be cut between any two rows.** -/
theorem ofRows_append (first second : List Row) (x y : AxisRange) :
    Outcome.ofRows (first ++ second) x y =
      ⟨⟨(Outcome.ofRows first x y).batch.specs ++ (Outcome.ofRows second x y).batch.specs, x, y⟩,
        (Outcome.ofRows first x y).failures ++
          (Outcome.ofRows second x y).failures.map (·.moved first.length)⟩ := by
  unfold Outcome.ofRows
  simp only [resultsFrom_append, List.filterMap_append, resultsFrom_add 0 first.length,
    filterMap_spec?_moved, filterMap_failure?_moved]

/-- The outcome of one row is what it gives. -/
theorem ofRows_singleton (row : Row) (x y : AxisRange) :
    Outcome.ofRows [row] x y =
      ⟨⟨(row.result 0).spec?.toList, x, y⟩, (row.result 0).failure?.toList⟩ := by
  rw [Outcome.ofRows, resultsFrom, resultsFrom]
  cases row.result 0 <;> rfl

theorem toList_failure?_moved (row : Row) (place : Nat) :
    (row.result 0).failure?.toList.map (·.moved place) =
      (row.result place).failure?.toList := by
  rw [← Nat.zero_add place, row.result_add, Nat.zero_add]
  cases row.result 0 <;> rfl

theorem spec?_result (row : Row) (place : Nat) :
    (row.result place).spec? = (row.result 0).spec? := by
  rw [← Nat.zero_add place, row.result_add]
  cases row.result 0 <;> rfl

/-- What is given at a place, between the outcomes of the rows before it and behind it; `count`
rows stand at the place. -/
def Outcome.around (before : List Row) (specs : List Spec) (failures : List RowFailure)
    (count : Nat) (behind : List Row) (x y : AxisRange) : Outcome :=
  ⟨⟨(ofRows before x y).batch.specs ++ specs ++ (ofRows behind x y).batch.specs, x, y⟩,
    (ofRows before x y).failures ++ failures ++
      (ofRows behind x y).failures.map (·.moved (before.length + count))⟩

/-- **A row stands between what the rows before it and behind it give.** -/
theorem ofRows_around (before : List Row) (row : Row) (behind : List Row) (x y : AxisRange) :
    Outcome.ofRows (before ++ row :: behind) x y =
      .around before (row.result before.length).spec?.toList
        (row.result before.length).failure?.toList 1 behind x y := by
  have hmoved (failures : List RowFailure) : (failures.map (·.moved 1)).map
      (·.moved before.length) = failures.map (·.moved (before.length + 1)) := by
    rw [List.map_map]
    refine List.map_congr_left fun failure _ => ?_
    simp only [Function.comp_apply, RowFailure.moved, RowFailure.mk.injEq, and_true]
    omega
  rw [Outcome.around, ofRows_append, ← List.singleton_append, ofRows_append, ofRows_singleton]
  simp only [List.map_append, hmoved, toList_failure?_moved, spec?_result row before.length,
    List.append_assoc, List.length_singleton]

/-! ### Counting and ordering -/

theorem length_resultsFrom (start : Nat) (rows : List Row) :
    ((resultsFrom start rows).filterMap RowResult.spec?).length +
        ((resultsFrom start rows).filterMap RowResult.failure?).length +
        rows.countP Row.isBlank = rows.length := by
  induction rows generalizing start with
  | nil => rfl
  | cons row rows ih =>
    have hrow := row.length_result start
    have hrows := ih (start + 1)
    rw [resultsFrom, List.filterMap_cons, List.filterMap_cons, List.countP_cons, List.length_cons]
    cases hresult : row.result start <;> rw [hresult] at hrow <;>
      simp only [RowResult.spec?, RowResult.failure?, Option.toList_none, Option.toList_some,
        List.length_nil, List.length_cons] at hrow ⊢ <;> omega

/-- The failures of rows stand in the order of the rows. -/
theorem pairwise_failures (start : Nat) (rows : List Row) :
    (((resultsFrom start rows).filterMap RowResult.failure?).map (·.row)).Pairwise (· < ·) ∧
      ∀ failure ∈ (resultsFrom start rows).filterMap RowResult.failure?,
        start ≤ failure.row ∧ failure.row < start + rows.length := by
  induction rows generalizing start with
  | nil => exact ⟨.nil, fun _ h => absurd h List.not_mem_nil⟩
  | cons row rows ih =>
    obtain ⟨hsorted, hbounds⟩ := ih (start + 1)
    have hlater : ∀ failure ∈ (resultsFrom (start + 1) rows).filterMap RowResult.failure?,
        start < failure.row ∧ failure.row < start + (row :: rows).length := by
      intro failure hfailure
      have := hbounds failure hfailure
      rw [List.length_cons]
      omega
    have hplace : ∀ failure ∈ (row.result start).failure?, failure.row = start := by
      unfold Row.result
      cases row.spec? with
      | error fault => rintro _ ⟨⟩; rfl
      | ok spec? => cases spec? <;> rintro _ ⟨⟩
    rw [resultsFrom, List.filterMap_cons]
    cases hrow : (row.result start).failure? with
    | none =>
      exact ⟨hsorted, fun failure h => ⟨Nat.le_of_lt (hlater failure h).1, (hlater failure h).2⟩⟩
    | some first =>
      have hfirst := hplace first hrow
      constructor
      · rw [List.map_cons, List.pairwise_cons]
        refine ⟨fun later hlater' => ?_, hsorted⟩
        obtain ⟨failure, hfailure, rfl⟩ := List.mem_map.1 hlater'
        rw [hfirst]
        exact (hlater failure hfailure).1
      · intro failure hfailure
        rcases List.mem_cons.1 hfailure with rfl | hfailure
        · rw [hfirst, List.length_cons]
          omega
        · exact ⟨Nat.le_of_lt (hlater failure hfailure).1, (hlater failure hfailure).2⟩

/-- **Rows are isolated.**  An outcome of two lists of rows is the two outcomes one after the
other, with the rows of the second counted on.  Every row gives exactly one thing, and the rows
before and behind it give what they give without it, or with any other row in its place.  All
rows are accounted for, and failures stand in the order of their rows. -/
theorem row_isolation (x y : AxisRange) :
    (∀ first second : List Row,
      (Outcome.ofRows (first ++ second) x y).batch.specs =
          (Outcome.ofRows first x y).batch.specs ++ (Outcome.ofRows second x y).batch.specs ∧
        (Outcome.ofRows (first ++ second) x y).failures =
          (Outcome.ofRows first x y).failures ++
            (Outcome.ofRows second x y).failures.map (·.moved first.length)) ∧
    (∀ (before : List Row) (row : Row) (behind : List Row), ∃ specs failures,
      row.Gives before.length specs failures ∧
        (∀ specs' failures', row.Gives before.length specs' failures' →
          specs' = specs ∧ failures' = failures) ∧
        Outcome.ofRows (before ++ row :: behind) x y =
          .around before specs failures 1 behind x y ∧
        Outcome.ofRows (before ++ behind) x y = .around before [] [] 0 behind x y ∧
        ∀ other : Row, ∃ specs' failures', other.Gives before.length specs' failures' ∧
          Outcome.ofRows (before ++ other :: behind) x y =
            .around before specs' failures' 1 behind x y) ∧
    ∀ rows : List Row,
      (Outcome.ofRows rows x y).batch.specs.length + (Outcome.ofRows rows x y).failures.length +
          rows.countP Row.isBlank = rows.length ∧
        ((Outcome.ofRows rows x y).failures.map (·.row)).Pairwise (· < ·) ∧
        ∀ failure ∈ (Outcome.ofRows rows x y).failures, failure.row < rows.length := by
  refine ⟨fun first second => ?_, fun before row behind => ?_, fun rows => ?_⟩
  · rw [ofRows_append]
    exact ⟨rfl, rfl⟩
  · have hunique : ∀ specs' failures', row.Gives before.length specs' failures' →
        specs' = (row.result before.length).spec?.toList ∧
          failures' = (row.result before.length).failure?.toList := fun _ _ h => h.unique
    refine ⟨_, _, row.gives_result before.length, hunique, ofRows_around .., ?_, fun other =>
      ⟨_, _, other.gives_result before.length, ofRows_around ..⟩⟩
    rw [ofRows_append, Outcome.around, List.append_nil, List.append_nil, Nat.add_zero]
  · obtain ⟨hsorted, hbounds⟩ := pairwise_failures 0 rows
    refine ⟨length_resultsFrom 0 rows, hsorted, fun failure hfailure => ?_⟩
    have := (hbounds failure hfailure).2
    omega

/-- A comparison between a curve, a blank row and another curve fails as the third of four rows,
and taking it out moves only the last row. -/
theorem row_isolation_comparison :
    let range : AxisRange := ⟨⟨true, 1, by decide⟩, ⟨false, 1, by decide⟩, by decide⟩
    let before := Row.coloured ["sinx", " "]
    let row : Row := ⟨"x <= 1", .forRow 2⟩
    let behind : List Row := [⟨"cosx = ", ⟨"red"⟩⟩]
    row.Gives 2 [] [⟨2, "x <= 1", .comparison "<="⟩] ∧
      Outcome.ofRows (before ++ row :: behind) range range =
        .around before [] [⟨2, "x <= 1", .comparison "<="⟩] 1 behind range range ∧
      Outcome.ofRows (before ++ behind) range range =
        .around before [] [] 0 behind range range ∧
      ∀ failure ∈ (Outcome.ofRows (before ++ row :: behind) range range).failures,
        failure.row < 4 := by
  intro range before row behind
  obtain ⟨-, hrow, hrows⟩ := row_isolation range range
  have htrim : Text.trim "x <= 1" = "x <= 1" := by decide +kernel
  have hfailed : row.spec? = .error (.comparison "<=") := by decide +kernel
  have hfault : row.Gives 2 [] [⟨2, "x <= 1", .comparison "<="⟩] := by
    have h : row.Gives 2 [] [⟨2, Text.trim "x <= 1", .comparison "<="⟩] := .failure _ hfailed
    rwa [htrim] at h
  obtain ⟨specs, failures, -, hunique, haround, hwithout, -⟩ := hrow before row behind
  obtain ⟨rfl, rfl⟩ := hunique _ _ hfault
  exact ⟨hfault, haround, hwithout, (hrows (before ++ row :: behind)).2.2⟩

end Plot
end CurveSheet
