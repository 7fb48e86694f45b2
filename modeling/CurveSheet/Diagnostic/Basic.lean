/-
# Findings about a batch

A diagnostic says what is wrong, or odd, with a row or with a batch as a whole.  A
report is a list of them; sorting puts them in the order of their rows, those about
the whole batch last, and keeps the order of those about the same row.
-/

import CurveSheet.Text.Count

namespace CurveSheet

/-- How bad a finding is. -/
inductive Severity where
  | warning
  | error
  deriving DecidableEq

/-- The word for a severity. -/
def Severity.name : Severity → String
  | warning => "warning"
  | error => "error"

/-- A finding about a row, counted from zero, or about the whole batch. -/
structure Diagnostic where
  severity : Severity
  code : String
  message : String
  row : Option Nat
  help : Option String
  deriving DecidableEq

namespace Diagnostic

/-- The row of a finding as it is shown, counted from one. -/
def rowLabel (d : Diagnostic) : String :=
  match d.row with
  | some row => "f" ++ toString (row + 1) ++ ": "
  | none => ""

/-- A finding on one line. -/
def text (d : Diagnostic) : String :=
  d.severity.name ++ "[" ++ d.code ++ "]: " ++ d.rowLabel ++ d.message

/-- The first finding need not stand behind the second. -/
def before (a b : Diagnostic) : Bool :=
  match a.row, b.row with
  | _, none => true
  | none, some _ => false
  | some i, some j => i ≤ j

end Diagnostic

/-- The findings about a batch. -/
structure Report where
  diagnostics : List Diagnostic
  deriving DecidableEq

namespace Report

/-- No findings. -/
def empty : Report := ⟨[]⟩

/-- One more finding. -/
def push (report : Report) (d : Diagnostic) : Report := ⟨report.diagnostics ++ [d]⟩

/-- More findings. -/
def extend (report : Report) (ds : List Diagnostic) : Report := ⟨report.diagnostics ++ ds⟩

/-- The findings in the order of their rows. -/
def sort (report : Report) : Report := ⟨report.diagnostics.mergeSort Diagnostic.before⟩

/-- The number of findings of a severity. -/
def count (report : Report) (severity : Severity) : Nat :=
  (report.diagnostics.filter (·.severity == severity)).length

/-- The number of errors. -/
def errors (report : Report) : Nat := report.count .error

/-- The number of warnings. -/
def warnings (report : Report) : Nat := report.count .warning

/-- Some finding is an error. -/
def hasErrors (report : Report) : Bool := 0 < report.errors

/-- There are no findings. -/
def isClean (report : Report) : Bool := report.diagnostics.isEmpty

/-- A report on one line. -/
def summary (report : Report) : String :=
  let errors := Text.counted report.errors "error" "errors"
  let warnings := Text.counted report.warnings "warning" "warnings"
  if report.hasErrors then "failed: " ++ errors ++ ", " ++ warnings
  else if 0 < report.warnings then "passed (" ++ warnings ++ ")"
  else "passed"

end Report
end CurveSheet
