/-
# The normal form of a formula

One pass over a formula makes four repairs, in this order:

| typed | repaired | rule |
| --- | --- | --- |
| `SIN(X)` | `sin(x)` | lower case |
| `sin（x）` | `sin(x)` | full-width parentheses become ASCII ones |
| `ln(x)` | `log(x)` | `ln` as a word of its own is `log` |
| `sin2x`, `cos x` | `sin(2x)`, `cos(x)` | a function name calls the bare run behind it |

A bare run is made of digits, dots and `x`.  The last repair goes through the
function names in the order of their table, each over the result of the one
before.  Wrapping a call can free the start of the next name, so passes are
repeated until one changes nothing, sixteen times at most.  Words are words of
ASCII: a letter such as `π` does not join a name.
-/

import CurveSheet.Text.Blank
import CurveSheet.Text.LowerCase
import CurveSheet.Formula.Rule

namespace CurveSheet
namespace Formula

open Text

/-- The functions whose calls are repaired, in the order of repair. -/
def functionNames : List String :=
  ["sin", "cos", "tan", "log", "sqrt", "abs", "exp", "asin", "acos", "atan"]

/-- No more passes than these are made. -/
def maxPasses : Nat := 16

/-- Full-width parentheses become ASCII ones. -/
def foldWidth (c : Char) : Char :=
  if c = '（' then '(' else if c = '）' then ')' else c

/-- `ln` as a whole word is the logarithm. -/
def logarithmRule : Rule
  | 'l' :: 'n' :: rest =>
    match rest with
    | c :: _ => if isWordChar c then none else some (['l', 'o', 'g'], 2)
    | [] => some (['l', 'o', 'g'], 2)
  | _ => none

/-- The characters of a bare argument: digits, dots and the variable. -/
def isRunChar (c : Char) : Bool := ('0' ≤ c && c ≤ '9') || c == 'x' || c == '.'

/-- A function name, blanks and a bare argument become a call. -/
def callRule (name : List Char) : Rule := fun text =>
  match name.isPrefixOf? text with
  | none => none
  | some rest =>
    let blanks := rest.takeWhile isBlank
    let run := (rest.dropWhile isBlank).takeWhile isRunChar
    if run.isEmpty then none
    else some (name ++ '(' :: run ++ [')'], name.length + blanks.length + run.length)

/-- Lower case and ASCII parentheses. -/
def foldCase (text : List Char) : List Char := (lower text).map foldWidth

/-- Repairs the calls of every function, one name after the other. -/
def wrapCalls (names : List String) (text : List Char) : List Char :=
  names.foldl (fun current name => (callRule name.toList).apply current) text

/-- The four repairs, made once. -/
def pass (names : List String) (text : List Char) : List Char :=
  wrapCalls names (logarithmRule.apply (foldCase text))

/-- Repeats a function until it changes nothing, at most `n` times. -/
def settle (f : List Char → List Char) : Nat → List Char → List Char
  | 0, text => text
  | n + 1, text => if f text = text then text else settle f n (f text)

/-- The normal form of a formula, for a table of function names. -/
def normalChars (names : List String) (text : List Char) : List Char :=
  settle (pass names) (maxPasses - 1) (pass names text)

/-- The normal form of a formula. -/
def normalize (text : String) : String := String.ofList (normalChars functionNames text.toList)

theorem toList_normalize (text : String) :
    (normalize text).toList = normalChars functionNames text.toList := by
  simp [normalize]

/-- Stopping early is the same as repeating to the end. -/
theorem settle_eq_of_fixed {f : List Char → List Char} {text : List Char} (h : f text = text)
    (n : Nat) : settle f n text = text := by
  cases n <;> simp [settle, h]

end Formula
end CurveSheet
