/-
# Starting a session

A session to start from is written as the session file of a directory.  One that is
there already is replaced only by force.
-/

import CurveSheet.Command.Input
import CurveSheet.Session.Written

namespace CurveSheet
namespace Command

open Files Terminal

/-- What is given about a new session on the command line. -/
structure InitArguments where
  directory : Path := .ofText "."
  force : Bool := false
  deriving DecidableEq

variable {m : Type → Type} [Monad m] [Host m]

/-- Writes a session to start from. -/
def init (printer : Printer) (arguments : InitArguments) : ExceptT PlotError m Unit := do
  let path := fileIn arguments.directory (.ofText PlotError.sessionFileName)
  let taken ← Host.hasEntry (m := m) path
  if taken && !arguments.force then throw .sessionExists
  let written ← Host.writeText (m := m) path Session.starter.toYaml
  orFail (.file path .writeSession) written
  let place ← shown (m := m) path
  Host.say (m := m) printer .done "Created" place

end Command
end CurveSheet
