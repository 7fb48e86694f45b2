/-
# Drawing a batch

An engine takes the curves of a batch all at once.  The JSON engine first looks at
the parentheses of every formula and refuses the batch at the first that does not
balance; only then it writes the document and a line end.

If an engine fails after rows had been set aside, the formulas are the likely
cause, and the error says so; otherwise the engine's own message is the error.
-/

import CurveSheet.Engine.Document
import CurveSheet.Engine.Parentheses
import CurveSheet.Error
import CurveSheet.Number.Places

namespace CurveSheet
namespace Engine

open Plot

/-- Why an engine fails. -/
inductive EngineFault where
  | unbalanced (formula : String) (imbalance : Imbalance)
  /-- There is no room for the document. -/
  | noRoom
  | refused (message : String)
  deriving DecidableEq

/-- The message of an engine. -/
def EngineFault.message : EngineFault → String
  | unbalanced formula imbalance => imbalance.message formula
  | noRoom => "Failed to write plot: failed to write whole buffer"
  | refused message => message

/-- The fault of a formula whose parentheses do not balance. -/
def formulaFault? (formula : String) : Option EngineFault :=
  (imbalance? formula.toList).map (EngineFault.unbalanced formula)

/-- The fault of the first formula that does not balance. -/
def firstFault? (specs : List Spec) : Option EngineFault :=
  specs.findSome? fun spec => formulaFault? spec.formula

/-- The document as it is written, with its line end. -/
def documentText (canvas : Canvas) (batch : Batch) : String :=
  (document canvas batch).pretty ++ "\n"

/-- What the JSON engine writes of a batch. -/
def render (canvas : Canvas) (batch : Batch) : Except EngineFault String :=
  match firstFault? batch.specs with
  | some fault => .error fault
  | none => .ok (documentText canvas batch)

/-- The JSON engine with room for `capacity` bytes: the bytes left, and whether it succeeds. -/
def renderWithin (capacity : Nat) (canvas : Canvas) (batch : Batch) :
    Nat × Except EngineFault Unit :=
  match render canvas batch with
  | .error fault => (capacity, .error fault)
  | .ok text =>
    if text.utf8ByteSize ≤ capacity then (capacity - text.utf8ByteSize, .ok ())
    else (0, .error .noRoom)

/-- The error of a command whose engine failed. -/
def drawError (outcome : Outcome) (fault : EngineFault) : PlotError :=
  if outcome.hasFailures then .rowsFailed else .engine fault.message

/-- One call of an engine on the batch of an outcome. -/
def draw {α : Type} (engine : Batch → Except EngineFault α) (outcome : Outcome) :
    Except PlotError α :=
  (engine outcome.batch).mapError (drawError outcome)

/-- A point as it is shown to a reader. -/
def cursorText (x y : Binary64) : String :=
  "(" ++ String.ofList (x.placesChars cursorDecimals) ++ ", " ++
    String.ofList (y.placesChars cursorDecimals) ++ ")"

end Engine
end CurveSheet
