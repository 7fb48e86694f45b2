/-
# Normal forms

Every formula is answered on the output with its normal form, and in the log with
its kind and its form for the engine, or with what is wrong with it.
-/

import CurveSheet.Formula.Classify
import CurveSheet.Formula.Normal
import CurveSheet.Host.Basic

namespace CurveSheet
namespace Command

open Formula Terminal

variable {m : Type → Type} [Monad m] [Host m]

/-- Answers one formula. -/
def normalizeOne (printer : Printer) (formula : String) : m Unit := do
  let normal := normalize (Text.trim formula)
  Host.output (normal ++ "\n")
  match classify normal with
  | .ok classified => Host.say printer .note classified.kind.name classified.formula
  | .error fault => Host.say printer .caution "invalid" fault.message

/-- Answers formulas one after the other. -/
def normalizeAll (printer : Printer) : List String → m Unit
  | [] => pure ()
  | formula :: rest => do
    normalizeOne printer formula
    normalizeAll printer rest

end Command
end CurveSheet
