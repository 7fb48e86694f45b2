/-
# Checking

Checking turns the input into a batch and reports on it without drawing.  It fails
if the report has errors.
-/

import CurveSheet.Command.Input
import CurveSheet.Diagnostic.Check
import CurveSheet.Diagnostic.Listing

namespace CurveSheet
namespace Command

open Plot Terminal

variable {m : Type → Type} [Monad m] [Host m]

/-- Checks the input. -/
def check (printer : Printer) (arguments : Input) : ExceptT PlotError m Unit := do
  let input ← arguments.resolve printer
  let outcome ← orFail rangeError (build input.rows input.x input.y)
  Host.say (m := m) printer .done "Checked" (Text.counted input.rows.length "row" "rows")
  let report := Check.report outcome
  Host.log (m := m) (report.lines printer)
  if report.hasErrors then
    Host.say (m := m) printer .failure "Check" report.summary
    throw (.checkFailed report.errors)
  else Host.say (m := m) printer .done "Check" report.summary

end Command
end CurveSheet
