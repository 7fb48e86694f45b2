/-
# Balanced parentheses

The engine takes a formula only if its parentheses balance: going from the left,
no closing one comes before its opening one, and at the end none is open.
-/

namespace CurveSheet
namespace Engine

/-- How the parentheses of a formula fail to balance. -/
inductive Imbalance where
  /-- A closing parenthesis has no opening one before it. -/
  | unexpectedClose
  /-- An opening parenthesis is never closed. -/
  | unclosedOpen
  deriving DecidableEq

/-- The message about a formula that does not balance. -/
def Imbalance.message (formula : String) : Imbalance → String
  | unexpectedClose => "unexpected ')' in `" ++ formula ++ "`"
  | unclosedOpen => "unclosed '(' in `" ++ formula ++ "`"

/-- The number of parentheses left open by a text, if `depth` are open before it; none
if one is closed that was not open. -/
def openAfter (depth : Nat) : List Char → Option Nat
  | [] => some depth
  | c :: rest =>
    if c = '(' then openAfter (depth + 1) rest
    else if c = ')' then
      match depth with
      | 0 => none
      | depth + 1 => openAfter depth rest
    else openAfter depth rest

/-- How the parentheses of a text fail to balance, if they do. -/
def imbalance? (text : List Char) : Option Imbalance :=
  match openAfter 0 text with
  | none => some .unexpectedClose
  | some 0 => none
  | some _ => some .unclosedOpen

theorem openAfter_append (depth : Nat) (left right : List Char) :
    openAfter depth (left ++ right) = (openAfter depth left).bind (openAfter · right) := by
  induction left generalizing depth with
  | nil => rfl
  | cons c rest ih =>
    simp only [List.cons_append, openAfter]
    split
    · exact ih _
    · split
      · cases depth with
        | zero => rfl
        | succ depth => exact ih _
      · exact ih _

end Engine
end CurveSheet
