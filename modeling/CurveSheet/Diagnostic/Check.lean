/-
# Checking a batch

Four checks make the report on an outcome, in this order:

| check | severity | code |
| --- | --- | --- |
| every row that was set aside | error | that of the row error |
| every formula that the engine will refuse | error | `fplot::formula::structure` |
| every explicit formula that uses `y` | warning | `fplot::formula::explicit-y` |
| nothing to plot at all | warning | `fplot::batch::empty` |

Only the first kind knows its row, so sorting keeps the order of the rest.
-/

import CurveSheet.Diagnostic.Basic
import CurveSheet.Engine.Parentheses
import CurveSheet.Plot.Batch

namespace CurveSheet
namespace Check

open Plot Text

/-- The finding about a row that was set aside. -/
def failureDiagnostic (failure : RowFailure) : Diagnostic :=
  ⟨.error, failure.fault.code, "`" ++ failure.text ++ "`: " ++ failure.fault.message,
    some failure.row, some failure.fault.help⟩

/-- The finding about a formula whose parentheses do not balance. -/
def structureDiagnostic? (spec : Spec) : Option Diagnostic :=
  (Engine.imbalance? spec.formula.toList).map fun imbalance =>
    ⟨.error, "fplot::formula::structure", imbalance.message spec.formula, none,
      some "Balance the parentheses in the formula"⟩

/-- The character stands in a text with no name character right before or after it.
`inName` says whether one stands before the text. -/
def standsAloneFrom (name : Char) : (inName : Bool) → List Char → Bool
  | _, [] => false
  | inName, c :: rest =>
    (c == name && !inName && !(rest.head?.any isNameChar)) ||
      standsAloneFrom name (isNameChar c) rest

/-- The character stands in a text as a name of its own. -/
def mentions (name : Char) (text : List Char) : Bool := standsAloneFrom name false text

/-- The finding about an explicit formula that uses `y`. -/
def explicitDiagnostic? (spec : Spec) : Option Diagnostic :=
  if spec.kind = .explicit ∧ mentions 'y' spec.formula.toList = true then
    some ⟨.warning, "fplot::formula::explicit-y",
      "`" ++ spec.formula ++ "` uses y but is not an equation", none,
      some "Write it as an equation, e.g. x^2 + y^2 = 9"⟩
  else none

/-- The finding that there is nothing to plot. -/
def emptyDiagnostics (outcome : Outcome) : List Diagnostic :=
  if outcome.isBlank then
    [⟨.warning, "fplot::batch::empty", "no formulas to plot", none,
      some "Add a formula such as sin(x)"⟩]
  else []

/-- The report on an outcome. -/
def report (outcome : Outcome) : Report :=
  Report.sort ⟨outcome.failures.map failureDiagnostic ++
    outcome.batch.specs.filterMap structureDiagnostic? ++
    outcome.batch.specs.filterMap explicitDiagnostic? ++ emptyDiagnostics outcome⟩

end Check
end CurveSheet
