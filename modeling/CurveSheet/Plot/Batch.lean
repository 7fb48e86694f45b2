/-
# Batches of curves

All rows of a plot are turned into specifications at once.  A row that fails is
set aside with its number and its error and does not touch its siblings; a blank
row leaves nothing.  Bad bounds fail the whole before any row is looked at.

Building also leaves a trace for logs: for every row that is not blank the normal
form that was found, and then what became of the row.
-/

import CurveSheet.Text.Quoted
import CurveSheet.Plot.Axis
import CurveSheet.Plot.Spec

namespace CurveSheet
namespace Plot

open Formula

/-- The curves of a plot and the ranges of its axes. -/
structure Batch where
  specs : List Spec
  x : AxisRange
  y : AxisRange
  deriving DecidableEq

/-- A row that was set aside; rows count from zero. -/
structure RowFailure where
  row : Nat
  text : String
  fault : RowError
  deriving DecidableEq

/-- A failure as it is shown; here rows count from one. -/
def RowFailure.message (failure : RowFailure) : String :=
  "f" ++ toString (failure.row + 1) ++ " `" ++ failure.text ++ "`: " ++ failure.fault.message

/-- A batch with the rows that are missing from it. -/
structure Outcome where
  batch : Batch
  failures : List RowFailure
  deriving DecidableEq

namespace Outcome

/-- Some row was set aside. -/
def hasFailures (outcome : Outcome) : Bool := !outcome.failures.isEmpty

/-- Every row was blank. -/
def isBlank (outcome : Outcome) : Bool :=
  outcome.batch.specs.isEmpty && outcome.failures.isEmpty

/-- Every row that was not blank was set aside, and there was one. -/
def allFailed (outcome : Outcome) : Bool :=
  outcome.batch.specs.isEmpty && !outcome.failures.isEmpty

end Outcome

/-- What became of a row. -/
inductive RowResult where
  | blank
  | plotted (spec : Spec)
  | failed (failure : RowFailure)
  deriving DecidableEq

/-- What becomes of the row with a number. -/
def Row.result (row : Row) (index : Nat) : RowResult :=
  match row.spec? with
  | .ok none => .blank
  | .ok (some spec) => .plotted spec
  | .error fault => .failed ⟨index, Text.trim row.text, fault⟩

/-- The specification, if the row gave one. -/
def RowResult.spec? : RowResult → Option Spec
  | plotted spec => some spec
  | _ => none

/-- The failure, if the row failed. -/
def RowResult.failure? : RowResult → Option RowFailure
  | failed failure => some failure
  | _ => none

/-- What becomes of rows that are numbered from `start` on. -/
def resultsFrom (start : Nat) : List Row → List RowResult
  | [] => []
  | row :: rest => row.result start :: resultsFrom (start + 1) rest

/-- The outcome of rows on ranges that are known to be good. -/
def Outcome.ofRows (rows : List Row) (x y : AxisRange) : Outcome :=
  let results := resultsFrom 0 rows
  ⟨⟨results.filterMap RowResult.spec?, x, y⟩, results.filterMap RowResult.failure?⟩

/-- The ranges of both axes, or the axis that has none and why. -/
def ranges (x y : Bounds) : Except (Axis × RangeFault) (AxisRange × AxisRange) :=
  match x.range with
  | .error fault => .error (.x, fault)
  | .ok xRange =>
    match y.range with
    | .error fault => .error (.y, fault)
    | .ok yRange => .ok (xRange, yRange)

/-- The outcome of rows between bounds. -/
def build (rows : List Row) (x y : Bounds) : Except (Axis × RangeFault) Outcome :=
  (ranges x y).map fun both => Outcome.ofRows rows both.1 both.2

theorem build_eq_ok_iff {rows : List Row} {x y : Bounds} {outcome : Outcome} :
    build rows x y = .ok outcome ↔ ranges x y = .ok (outcome.batch.x, outcome.batch.y) ∧
      Outcome.ofRows rows outcome.batch.x outcome.batch.y = outcome := by
  unfold build
  cases ranges x y with
  | error fault => simp [Except.map]
  | ok both =>
    simp only [Except.map, Except.ok.injEq]
    constructor
    · rintro rfl
      exact ⟨rfl, rfl⟩
    · rintro ⟨rfl, h⟩
      exact h

theorem build_eq_error_iff {rows : List Row} {x y : Bounds} {fault : Axis × RangeFault} :
    build rows x y = .error fault ↔ ranges x y = .error fault := by
  unfold build
  cases ranges x y <;> simp [Except.map]

/-- How much a record of the trace matters. -/
inductive Level where
  | debug
  | warn
  deriving DecidableEq

/-- The word for a level. -/
def Level.name : Level → String
  | debug => "DEBUG"
  | warn => "WARN"

/-- A record of the trace; `target` names the stage that left it. -/
structure Record where
  level : Level
  target : String
  message : String
  deriving DecidableEq

/-- The record of a normal form that was found. -/
def Record.normalized (text : String) : Record :=
  ⟨.debug, "fplot::formula::normalize",
    "normalized " ++ Text.quoted text ++ " -> " ++ Text.quoted (normalize text)⟩

/-- The record of what became of a row that is not blank. -/
def RowResult.record? (index : Nat) : RowResult → Option Record
  | blank => none
  | plotted spec => some ⟨.debug, "fplot::formula::batch",
      "row " ++ toString index ++ ": " ++ spec.kind.name ++ " `" ++ spec.formula ++ "`"⟩
  | failed failure => some ⟨.warn, "fplot::formula::batch", "skipping " ++ failure.message⟩

/-- The records that a row leaves. -/
def Row.records (row : Row) (index : Nat) : List Record :=
  match (row.result index).record? index with
  | none => []
  | some record => [.normalized (Text.trim row.text), record]

/-- The records of rows that are numbered from `start` on. -/
def recordsFrom (start : Nat) : List Row → List Record
  | [] => []
  | row :: rest => row.records start ++ recordsFrom (start + 1) rest

/-- The trace of a build; bad bounds leave none. -/
def trace (rows : List Row) (x y : Bounds) : List Record :=
  match ranges x y with
  | .ok _ => recordsFrom 0 rows
  | .error _ => []

end Plot
end CurveSheet
