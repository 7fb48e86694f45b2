/-
# What is to be plotted

Formulas and bounds come from the command line, from a session, or from both: given
formulas take the place of the session's rows, and a given bound takes the place of
its own bound alone.  The session is the one that is named, else the session file
of the working directory if there is one, else the default.
-/

import CurveSheet.Error
import CurveSheet.Host.Basic
import CurveSheet.Session.Decode

namespace CurveSheet
namespace Command

open Files Plot Terminal

/-- What is given about the plot on the command line. -/
structure Input where
  formulas : List String := []
  colours : List String := []
  xMin : Option String := none
  xMax : Option String := none
  yMin : Option String := none
  yMax : Option String := none
  session : Option Path := none
  deriving DecidableEq

/-- Rows and bounds to plot, and the session they come from. -/
structure PlotInput where
  rows : List Row
  x : Bounds
  y : Bounds
  session : Session
  deriving DecidableEq

/-- Bounds with given ones over them. -/
def overlay (base : Bounds) (min max : Option String) : Bounds :=
  ⟨min.getD base.min, max.getD base.max⟩

/-- Rows for formulas from position `start` on: the first take the given colours, the others
those of their positions. -/
def colouredRows (start : Nat) : (formulas colours : List String) → List Row
  | [], _ => []
  | text :: rest, [] => ⟨text, .forRow start⟩ :: colouredRows (start + 1) rest []
  | text :: rest, colour :: others => ⟨text, ⟨colour⟩⟩ :: colouredRows (start + 1) rest others

/-- The commands' input over a session. -/
def Input.over (input : Input) (session : Session) : PlotInput where
  rows :=
    if input.formulas.isEmpty then session.entries
    else colouredRows 0 input.formulas input.colours
  x := overlay session.x.typed input.xMin input.xMax
  y := overlay session.y.typed input.yMin input.yMax
  session := session

/-- The error of an axis that has no range. -/
def rangeError (fault : Axis × RangeFault) : PlotError := .range fault.1 fault.2

section

variable {m : Type → Type} [Monad m] [Host m]

/-- Fails with the error that a check of files or of values makes. -/
def orFail {α ε : Type} (error : ε → PlotError) (result : Except ε α) : ExceptT PlotError m α :=
  ExceptT.mk (pure (result.mapError error))

/-- A path as it is shown. -/
def shown (path : Path) : m String := do
  let directory ← Host.directory
  pure (shownPath directory path)

/-- The session in a file. -/
def loadSession (path : Path) : ExceptT PlotError m Session := do
  let read ← Host.readText (m := m) path
  let text ← orFail (.file path .readSession) read
  orFail .session (Session.parse text)

/-- The path of the session file that counts, if there is one. -/
def Input.sessionPath (input : Input) : m (Option Path) :=
  match input.session with
  | some path => pure (some path)
  | none => do
    let path := fileIn (.ofText ".") (.ofText PlotError.sessionFileName)
    let found ← Host.isFile path
    pure (if found then some path else none)

/-- The session that counts. -/
def Input.findSession (input : Input) (printer : Printer) : ExceptT PlotError m Session := do
  match ← input.sessionPath (m := m) with
  | none => pure Session.default
  | some path =>
    let session ← loadSession path
    let place ← shown (m := m) path
    Host.say (m := m) printer .note "Session"
      (place ++ " (" ++ Text.counted session.rows.length "row" "rows" ++ ")")
    pure session

/-- The commands' input over the session that counts. -/
def Input.resolve (input : Input) (printer : Printer) : ExceptT PlotError m PlotInput := do
  let session ← input.findSession printer
  pure (input.over session)

end

end Command
end CurveSheet
