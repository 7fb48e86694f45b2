/-
# Findings for a terminal

Every finding is a line, two columns in, with its severity painted, and a second
line with its advice if it has any.  Without colours the first line is the
finding's one-line text.
-/

import CurveSheet.Diagnostic.Basic
import CurveSheet.Terminal.Printer

namespace CurveSheet

open Terminal

/-- The tone of a severity. -/
def Severity.tone : Severity → Tone
  | warning => .caution
  | error => .failure

/-- The lines of a finding. -/
def Diagnostic.lines (printer : Printer) (d : Diagnostic) : String :=
  "  " ++ printer.bold d.severity.tone d.severity.name ++ "[" ++ d.code ++ "]: " ++
    d.rowLabel ++ d.message ++ "\n" ++
    match d.help with
    | some help => "    " ++ printer.dim "help:" ++ " " ++ help ++ "\n"
    | none => ""

/-- The lines of a report. -/
def Report.lines (printer : Printer) (report : Report) : String :=
  String.join (report.diagnostics.map (Diagnostic.lines printer))

end CurveSheet
