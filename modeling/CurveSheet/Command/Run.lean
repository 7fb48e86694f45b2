/-
# Running commands

Every command runs in any host and either succeeds or fails with an error.
Completions come with the packages of the shells, so there is nothing to do for them.
-/

import CurveSheet.Command.Check
import CurveSheet.Command.Init
import CurveSheet.Command.Normalize
import CurveSheet.CommandLine.Basic

namespace CurveSheet
namespace Command

open Terminal

variable {m : Type → Type} [Monad m] [Host m]

/-- Runs a command. -/
def run (printer : Printer) : CommandLine.Request → ExceptT PlotError m Unit
  | .draw arguments => draw printer arguments
  | .check arguments => check printer arguments
  | .normalize formulas => normalizeAll (m := m) printer formulas
  | .init arguments => init printer arguments
  | .completions _ => pure ()

end Command
end CurveSheet
