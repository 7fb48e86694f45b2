/-
# What a build leaves in the log

A build goes through its rows one by one.  From a row that is not blank it records the normal form
that was found, and then that the row gave a curve or was skipped (`Row.Leaves`).  Curves, failures
and records come out of one and the same pass (`Progress.run_eq`), so each can be found in the
others: the warnings are the failures, in order and in their own words (`filter_warn_recordsFrom`),
and the records of curves are the curves, numbered by the rows that gave them
(`filter_isOfCurve_recordsFrom`).  Rows are numbered by their places in the input, with blank and
skipped ones counted.
-/

import CurveSheet.Proofs.Plot.Isolation
import Mathlib.Data.List.Forall2

namespace CurveSheet
namespace Plot

open Formula

/-! ### The records of a row -/

/-- The stage that turns rows into curves. -/
def batchTarget : String := "fplot::formula::batch"

/-- The record of a row that gave a curve. -/
def Record.plotted (index : Nat) (spec : Spec) : Record :=
  ⟨.debug, batchTarget,
    "row " ++ toString index ++ ": " ++ spec.kind.name ++ " `" ++ spec.formula ++ "`"⟩

/-- The record of a row that was set aside. -/
def Record.skipped (failure : RowFailure) : Record :=
  ⟨.warn, batchTarget, "skipping " ++ failure.message⟩

/-- The record says that a row gave a curve. -/
def Record.isOfCurve (record : Record) : Bool :=
  record.level == .debug && record.target == batchTarget

/-- What a row at a place leaves in the log. -/
inductive Row.Leaves (row : Row) (place : Nat) : List Record → Prop where
  | nothing (blank : Text.isBlankText row.text = true) : row.Leaves place []
  | curve (spec : Spec) (built : row.spec? = .ok (some spec)) :
    row.Leaves place [.normalized (Text.trim row.text), .plotted place spec]
  | failure (fault : RowError) (failed : row.spec? = .error fault) :
    row.Leaves place
      [.normalized (Text.trim row.text), .skipped ⟨place, Text.trim row.text, fault⟩]

theorem Row.leaves_records (row : Row) (place : Nat) : row.Leaves place (row.records place) := by
  unfold records result
  obtain ⟨hblank, h⟩ | ⟨-, spec, h⟩ | ⟨-, fault, h⟩ := row.spec?_cases <;> rw [h]
  · exact .nothing (row.isBlank_eq ▸ hblank)
  · exact .curve spec h
  · exact .failure fault h

/-- A row warns exactly of its failure. -/
theorem Row.filter_warn_records (row : Row) (place : Nat) :
    (row.records place).filter (·.level == .warn) =
      (row.result place).failure?.toList.map Record.skipped := by
  unfold records
  cases row.result place <;> rfl

/-- A row that gives a curve records it, and no other does. -/
theorem Row.filter_isOfCurve_records (row : Row) (place : Nat) :
    (row.records place).filter Record.isOfCurve =
      (row.result place).spec?.toList.map (Record.plotted place) := by
  have hnormalized (text : String) : (Record.normalized text).isOfCurve = false := by
    simp [Record.isOfCurve, Record.normalized, batchTarget]
  have hskipped (failure : RowFailure) : (Record.skipped failure).isOfCurve = false := rfl
  have hplotted (spec : Spec) : (Record.plotted place spec).isOfCurve = true := by
    simp [Record.isOfCurve, Record.plotted]
  unfold records
  cases row.result place with
  | blank => rfl
  | plotted spec =>
    change [Record.normalized _, Record.plotted place spec].filter _ = [Record.plotted place spec]
    simp [hnormalized, hplotted]
  | failed failure =>
    change [Record.normalized _, Record.skipped failure].filter _ = []
    simp [hnormalized, hskipped]

/-! ### One pass through the rows -/

/-- What a build has come to on its way. -/
structure Progress where
  specs : List Spec
  failures : List RowFailure
  records : List Record

namespace Progress

/-- Nothing yet. -/
def start : Progress := ⟨[], [], []⟩

/-- Leaves a record. -/
def log (progress : Progress) (record : Record) : Progress :=
  { progress with records := progress.records ++ [record] }

/-- Turns a row into a curve or sets it aside, and records what is done. -/
def step (progress : Progress) (place : Nat) (row : Row) : Progress :=
  let text := Text.trim row.text
  if text.isEmpty then progress
  else
    let progress := progress.log (.normalized text)
    match classify (normalize text) with
    | .ok classified =>
      let spec : Spec := .ofClassified classified row.colour
      { progress.log (.plotted place spec) with specs := progress.specs ++ [spec] }
    | .error fault =>
      let failure : RowFailure := ⟨place, text, fault⟩
      { progress.log (.skipped failure) with failures := progress.failures ++ [failure] }

/-- Goes through rows that are numbered from a place on. -/
def run (progress : Progress) (place : Nat) : List Row → Progress
  | [] => progress
  | row :: rest => (progress.step place row).run (place + 1) rest

/-- **A step adds what becomes of its row and the records of that.** -/
theorem step_eq (progress : Progress) (place : Nat) (row : Row) :
    progress.step place row =
      ⟨progress.specs ++ (row.result place).spec?.toList,
        progress.failures ++ (row.result place).failure?.toList,
        progress.records ++ row.records place⟩ := by
  unfold step Row.records Row.result Row.spec?
  dsimp only
  cases hblank : (Text.trim row.text).isEmpty with
  | true => simp [RowResult.spec?, RowResult.failure?, RowResult.record?]
  | false =>
    cases hclassified : classify (normalize (Text.trim row.text)) with
    | ok classified =>
      simp [log, RowResult.spec?, RowResult.failure?, RowResult.record?, Record.plotted,
        batchTarget]
    | error fault =>
      simp [log, RowResult.spec?, RowResult.failure?, RowResult.record?, Record.skipped,
        batchTarget]

/-- **A pass adds the curves, the failures and the records of its rows,** by induction over the
rows. -/
theorem run_eq (progress : Progress) (place : Nat) (rows : List Row) :
    progress.run place rows =
      ⟨progress.specs ++ (resultsFrom place rows).filterMap RowResult.spec?,
        progress.failures ++ (resultsFrom place rows).filterMap RowResult.failure?,
        progress.records ++ recordsFrom place rows⟩ := by
  induction rows generalizing progress place with
  | nil => simp [run, resultsFrom, recordsFrom]
  | cons row rows ih =>
    rw [run, ih, step_eq, resultsFrom, recordsFrom]
    simp only [List.append_assoc, List.filterMap_cons]
    cases row.result place <;> rfl

end Progress

/-! ### The records of rows -/

theorem recordsFrom_eq_flatMap (start : Nat) (rows : List Row) :
    recordsFrom start rows = (rows.zipIdx start).flatMap fun p => p.1.records p.2 := by
  induction rows generalizing start with
  | nil => rfl
  | cons row rows ih => rw [recordsFrom, ih, List.zipIdx_cons, List.flatMap_cons]

/-- **The warnings are the failures.** -/
theorem filter_warn_recordsFrom (start : Nat) (rows : List Row) :
    (recordsFrom start rows).filter (·.level == .warn) =
      ((resultsFrom start rows).filterMap RowResult.failure?).map Record.skipped := by
  rw [recordsFrom_eq_flatMap, resultsFrom_eq_map, List.filter_flatMap, List.filterMap_map,
    List.filterMap_eq_flatMap_toList, List.map_flatMap]
  exact List.flatMap_congr fun p _ => p.1.filter_warn_records p.2

/-- The curves of rows with the places of the rows that gave them. -/
def placedFrom (start : Nat) (rows : List Row) : List (Nat × Spec) :=
  (rows.zipIdx start).filterMap fun p => (p.1.result p.2).spec?.map (p.2, ·)

/-- **The records of curves are the curves.** -/
theorem filter_isOfCurve_recordsFrom (start : Nat) (rows : List Row) :
    (recordsFrom start rows).filter Record.isOfCurve =
      (placedFrom start rows).map fun p => .plotted p.1 p.2 := by
  rw [recordsFrom_eq_flatMap, placedFrom, List.filter_flatMap, List.map_filterMap,
    List.filterMap_eq_flatMap_toList]
  refine List.flatMap_congr fun p _ => ?_
  rw [p.1.filter_isOfCurve_records p.2]
  cases (p.1.result p.2).spec? <;> rfl

theorem map_snd_placedFrom (start : Nat) (rows : List Row) :
    (placedFrom start rows).map (·.2) = (resultsFrom start rows).filterMap RowResult.spec? := by
  rw [placedFrom, resultsFrom_eq_map, List.map_filterMap, List.filterMap_map]
  refine List.filterMap_congr fun p _ => ?_
  simp only [Option.map_map, Function.comp_apply]
  exact Option.map_id' ..

/-- The places ascend. -/
theorem pairwise_placedFrom (start : Nat) (rows : List Row) :
    ((placedFrom start rows).map (·.1)).Pairwise (· < ·) := by
  have hplaces : (rows.zipIdx start).Pairwise (·.2 < ·.2) := by
    have hrange := List.pairwise_lt_range' (s := start) (n := rows.length)
    rwa [← List.zipIdx_map_snd start rows, List.pairwise_map] at hrange
  rw [List.pairwise_map]
  refine hplaces.filterMap _ fun p p' hlt q hq q' hq' => ?_
  obtain ⟨spec, -, rfl⟩ := Option.map_eq_some_iff.1 hq
  obtain ⟨spec', -, rfl⟩ := Option.map_eq_some_iff.1 hq'
  exact hlt

/-- At its place stands the row that gave the curve. -/
theorem of_mem_placedFrom {rows : List Row} {place : Nat} {spec : Spec}
    (h : (place, spec) ∈ placedFrom 0 rows) :
    ∃ row, rows[place]? = some row ∧ row.spec? = .ok (some spec) := by
  obtain ⟨⟨row, place'⟩, hrow, hspec⟩ := List.mem_filterMap.1 h
  obtain ⟨spec', hgiven, heq⟩ := Option.map_eq_some_iff.1 hspec
  obtain ⟨rfl, rfl⟩ := Prod.mk.inj heq
  refine ⟨row, List.mem_zipIdx_iff_getElem?.1 hrow, ?_⟩
  unfold Row.result at hgiven
  split at hgiven <;> simp_all [RowResult.spec?]

/-- **The trace tells what became of the rows.**  Between good bounds one pass through the rows
gives the curves, the failures and the trace.  The trace is put together from what every row
leaves, in order: nothing if it is blank, else its normal form and then its curve or its failure.
So the warnings are the failures, in order and in their own words, and the records of curves are
the curves, in order and with the places of the rows that gave them.  Between bad bounds there is
no trace. -/
theorem trace_tells_outcome (rows : List Row) (x y : Bounds) :
    (∀ outcome, build rows x y = .ok outcome →
      Progress.start.run 0 rows = ⟨outcome.batch.specs, outcome.failures, trace rows x y⟩ ∧
      (∃ parts, List.Forall₂ (fun p records => Row.Leaves p.1 p.2 records) rows.zipIdx parts ∧
        trace rows x y = parts.flatten) ∧
      ((trace rows x y).filter (·.level == .warn)).map (·.message) =
        outcome.failures.map (fun failure => "skipping " ++ failure.message) ∧
      ∃ placed : List (Nat × Spec), placed.map (·.2) = outcome.batch.specs ∧
        (placed.map (·.1)).Pairwise (· < ·) ∧
        (∀ place spec, (place, spec) ∈ placed →
          ∃ row, rows[place]? = some row ∧ row.spec? = .ok (some spec)) ∧
        (trace rows x y).filter Record.isOfCurve = placed.map fun p => .plotted p.1 p.2) ∧
    ∀ fault, build rows x y = .error fault → trace rows x y = [] := by
  constructor
  · intro outcome hbuild
    obtain ⟨hranges, houtcome⟩ := build_eq_ok_iff.1 hbuild
    have htrace : trace rows x y = recordsFrom 0 rows := by rw [trace, hranges]
    rw [htrace, ← houtcome]
    refine ⟨Progress.start.run_eq 0 rows, ⟨_, ?_, recordsFrom_eq_flatMap 0 rows⟩, ?_,
      placedFrom 0 rows, map_snd_placedFrom 0 rows, pairwise_placedFrom 0 rows,
      fun place spec => of_mem_placedFrom, filter_isOfCurve_recordsFrom 0 rows⟩
    · rw [List.forall₂_map_right_iff]
      exact List.forall₂_same.2 fun p _ => p.1.leaves_records p.2
    · rw [filter_warn_recordsFrom, List.map_map]
      rfl
  · intro fault hbuild
    rw [trace, build_eq_error_iff.1 hbuild]

/-- A curve, a blank row, a comparison and an equation with a bare call, between good bounds and
bad ones. -/
theorem trace_tells_outcome_skipped_row :
    let rows := Row.coloured ["sinx", " ", "y <= x", "y = cosx"]
    (∃ outcome, build rows ⟨"-1", "1"⟩ ⟨"-1", "1"⟩ = .ok outcome ∧
      Progress.start.run 0 rows =
        ⟨outcome.batch.specs, outcome.failures, trace rows ⟨"-1", "1"⟩ ⟨"-1", "1"⟩⟩ ∧
      ((trace rows ⟨"-1", "1"⟩ ⟨"-1", "1"⟩).filter (·.level == .warn)).map (·.message) =
        ["skipping f3 `y <= x`: '<=' is a comparison, not an equation"]) ∧
      build rows ⟨"-1", "a"⟩ ⟨"-1", "1"⟩ = .error (.x, .notANumber .max "a") ∧
      trace rows ⟨"-1", "a"⟩ ⟨"-1", "1"⟩ = [] := by
  intro rows
  have hfailures : (build rows ⟨"-1", "1"⟩ ⟨"-1", "1"⟩).map (·.failures) =
      .ok [⟨2, "y <= x", .comparison "<="⟩] := by decide +kernel
  have hbad : build rows ⟨"-1", "a"⟩ ⟨"-1", "1"⟩ = .error (.x, .notANumber .max "a") := by
    decide +kernel
  refine ⟨?_, hbad, (trace_tells_outcome rows _ _).2 _ hbad⟩
  cases hbuild : build rows ⟨"-1", "1"⟩ ⟨"-1", "1"⟩ with
  | error fault =>
    rw [hbuild] at hfailures
    cases hfailures
  | ok outcome =>
    rw [hbuild] at hfailures
    obtain ⟨hrun, -, hwarn, -⟩ := (trace_tells_outcome rows _ _).1 outcome hbuild
    refine ⟨outcome, rfl, hrun, ?_⟩
    rw [hwarn, show outcome.failures = _ from Except.ok.inj hfailures]
    decide +kernel

end Plot
end CurveSheet
