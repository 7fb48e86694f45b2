/-
# Why a command fails

Five classes of errors, told apart by a code, each with a message and, where there
is one, advice:

| class | code | starts with |
| --- | --- | --- |
| files | `fplot::io` | `IO error with PATH: ` |
| sessions | `fplot::parse` | `Parse error: ` |
| axis ranges | `fplot::range` | `Invalid X axis range: ` |
| formulas | `fplot::formula` | `Formula error: ` |
| the engine | `fplot::render` | `Render error: ` |
-/

import CurveSheet.Files.Fault
import CurveSheet.Files.Path
import CurveSheet.Plot.Axis
import CurveSheet.Session.Fault
import CurveSheet.Text.Count

namespace CurveSheet

open Files Plot

/-- What was to be done with a file. -/
inductive FileTask where
  | readSession
  | writeSession
  | writeOutput
  deriving DecidableEq

/-- The words for a task that failed. -/
def FileTask.failed : FileTask → String
  | readSession => "Failed to read session: "
  | writeSession => "Failed to write session: "
  | writeOutput => "Failed to write output file: "

/-- Why a command fails. -/
inductive PlotError where
  | file (path : Path) (task : FileTask) (fault : FileFault)
  | session (fault : Session.Fault)
  /-- A session file is in the way of a new one. -/
  | sessionExists
  | range (axis : Axis) (fault : RangeFault)
  /-- The engine failed after rows had been set aside. -/
  | rowsFailed
  /-- A check found errors. -/
  | checkFailed (errors : Nat)
  | engine (message : String)
  deriving DecidableEq

/-- The class of an error. -/
inductive ErrorClass where
  | io
  | parse
  | range
  | formula
  | render
  deriving DecidableEq

namespace PlotError

/-- The file name of sessions. -/
def sessionFileName : String := "fplot.yaml"

/-- The class of an error. -/
def errorClass : PlotError → ErrorClass
  | file _ _ _ => .io
  | session _ => .parse
  | sessionExists => .parse
  | range _ _ => .range
  | rowsFailed => .formula
  | checkFailed _ => .formula
  | engine _ => .render

/-- The code of an error. -/
def code (error : PlotError) : String :=
  match error.errorClass with
  | .io => "fplot::io"
  | .parse => "fplot::parse"
  | .range => "fplot::range"
  | .formula => "fplot::formula"
  | .render => "fplot::render"

/-- The message of an error. -/
def message : PlotError → String
  | file path task fault => "IO error with " ++ path.text ++ ": " ++ task.failed ++ fault.message
  | session fault => "Parse error: Invalid session: " ++ fault.message
  | sessionExists => "Parse error: " ++ sessionFileName ++ " already exists"
  | range axis fault => "Invalid " ++ axis.letter ++ " axis range: " ++ fault.message
  | rowsFailed => "Formula error: some formulas failed to parse"
  | checkFailed errors =>
    "Formula error: " ++ Text.counted errors "formula" "formulas" ++ " failed to parse"
  | engine message => "Render error: " ++ message

/-- What to do about an error. -/
def help : PlotError → Option String
  | file _ _ _ => none
  | session _ => some ("Check " ++ sessionFileName ++ " syntax")
  | sessionExists => some "Use --force to overwrite"
  | range axis fault => fault.help axis
  | rowsFailed => some "Check the input formulas"
  | checkFailed _ => none
  | engine _ => none

/-- The error is about a range. -/
def isRange (error : PlotError) : Bool := error.errorClass == .range

end PlotError
end CurveSheet
