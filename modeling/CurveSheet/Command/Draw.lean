/-
# Drawing

Drawing turns the input into a batch, says which rows are left out and what part of
the plane is shown, and writes the document to a file or to the output.  Nothing is
written before the engine has accepted the whole batch.
-/

import CurveSheet.Command.Input
import CurveSheet.Engine.Draw

namespace CurveSheet
namespace Command

open Files Plot Terminal

/-- What is given about a drawing on the command line. -/
structure DrawArguments where
  input : Input := {}
  output : Option Path := none
  width : Option UInt32 := none
  height : Option UInt32 := none
  noGrid : Bool := false
  deriving DecidableEq

/-- A canvas with the given settings over it. -/
def DrawArguments.canvas (arguments : DrawArguments) (base : Engine.Canvas) : Engine.Canvas where
  target := base.target
  width := arguments.width.getD base.width
  height := arguments.height.getD base.height
  grid := base.grid && !arguments.noGrid

/-- How many curves were plotted, and how many rows were left out. -/
def plottedSummary (outcome : Outcome) : String :=
  let skipped := " (" ++ toString outcome.failures.length ++ " skipped)"
  if outcome.allFailed then "nothing" ++ skipped
  else Text.counted outcome.batch.specs.length "formula" "formulas" ++
    if outcome.hasFailures then skipped else ""

/-- The corners of the part of the plane that is shown. -/
def cornersText (batch : Batch) : String :=
  Engine.cursorText (.finite batch.x.min) (.finite batch.y.min) ++ " to " ++
    Engine.cursorText (.finite batch.x.max) (.finite batch.y.max)

section

variable {m : Type → Type} [Monad m] [Host m]

/-- Says which rows are left out. -/
def saySkipped (printer : Printer) : List RowFailure → m Unit
  | [] => pure ()
  | failure :: rest => do
    Host.say printer .caution "Skipping" failure.message
    saySkipped printer rest

/-- Writes a document to a file, and says so. -/
def writeDocument (printer : Printer) (path : Path) (document : String) :
    ExceptT PlotError m Unit := do
  let written ← Host.writeText (m := m) path document
  orFail (.file path .writeOutput) written
  let place ← shown (m := m) path
  Host.say (m := m) printer .done "Wrote" place

/-- Draws the input. -/
def draw (printer : Printer) (arguments : DrawArguments) : ExceptT PlotError m Unit := do
  let input ← arguments.input.resolve printer
  let outcome ← orFail rangeError (build input.rows input.x input.y)
  saySkipped (m := m) printer outcome.failures
  Host.say (m := m) printer .note "Viewport" (cornersText outcome.batch)
  let canvas := arguments.canvas input.session.canvas
  let document ← orFail id (Engine.draw (Engine.render canvas) outcome)
  match arguments.output with
  | some path => writeDocument printer path document
  | none => Host.output (m := m) document
  Host.say (m := m) printer .done "Plotted" (plottedSummary outcome)

end

end Command
end CurveSheet
