/-
# Explicit and implicit formulas

A formula without `=` gives `y` explicitly and stands as it is.  With one `=` it is
an equation `left = right` and gives a curve implicitly: its zero form is
`left - (right)`.  More than one `=`, and a comparison such as `<=`, are errors
of the row.
-/

import CurveSheet.Text.Blank

namespace CurveSheet
namespace Formula

open Text

/-- How a formula gives its curve. -/
inductive Kind where
  | explicit
  | implicit
  deriving DecidableEq

/-- The word for a kind. -/
def Kind.name : Kind → String
  | explicit => "explicit"
  | implicit => "implicit"

/-- Why a row cannot be plotted. -/
inductive RowError where
  /-- The text has `count` equals signs, which is not one. -/
  | equation (count : Nat)
  /-- The equals sign is the second half of an operator that compares. -/
  | comparison (operator : String)
  deriving DecidableEq

namespace RowError

/-- The message of a row error. -/
def message : RowError → String
  | equation count => "expected exactly one '=' in an equation, found " ++ toString count
  | comparison operator => "'" ++ operator ++ "' is a comparison, not an equation"

/-- The code by which programs tell row errors apart. -/
def code : RowError → String
  | equation _ => "fplot::row::equation"
  | comparison _ => "fplot::row::comparison"

/-- What to do about a row error. -/
def help : RowError → String
  | equation _ => "Write implicit curves as a single equation, e.g. x^2 + y^2 = 9"
  | comparison _ => "Inequalities can't be plotted; use '=' for an implicit curve"

end RowError

/-- A formula with its kind, in the form the engine takes. -/
structure Classified where
  kind : Kind
  formula : String
  deriving DecidableEq

/-- `left = right` as `left - (right)`; the right side keeps its blanks. -/
def zeroFormChars (left right : List Char) : List Char :=
  trimEndChars left ++ [' ', '-', ' ', '('] ++ right ++ [')']

/-- The zero form of an equation. -/
def zeroForm (left right : String) : String :=
  String.ofList (zeroFormChars left.toList right.toList)

/-- The signs that make a comparison of the equals sign after them. -/
def isComparisonSign (c : Char) : Bool := c == '<' || c == '>' || c == '!'

/-- The operator that starts with a sign. -/
def comparisonOf (sign : Char) : String := sign.toString ++ "="

/-- The sign of the comparison that the left side of an equals sign starts. -/
def comparisonSign? (left : List Char) : Option Char :=
  ((trimEndChars left).getLast?).filter isComparisonSign

/-- The sides of the first equals sign, if there is one. -/
def sides? (text : List Char) : Option (List Char × List Char) :=
  match text.dropWhile (· != '=') with
  | [] => none
  | _ :: right => some (text.takeWhile (· != '='), right)

/-- The kind of a formula and its form for the engine. -/
def classify (text : String) : Except RowError Classified :=
  match sides? text.toList with
  | none => .ok ⟨.explicit, text⟩
  | some (left, right) =>
    let count := text.toList.count '='
    if count ≠ 1 then .error (.equation count)
    else match comparisonSign? left with
      | some sign => .error (.comparison (comparisonOf sign))
      | none => .ok ⟨.implicit, String.ofList (zeroFormChars left right)⟩

end Formula
end CurveSheet
