/-
# Reading numbers

A number is an optional sign and then either one of the words `inf`, `infinity`
and `nan` in any case, or decimal digits with at most one point among them and an
optional exponent:

    sign? (digits '.'? digits? | '.' digits) (('e' | 'E') sign? digits)?

The value is the binary64 number nearest to the decimal, ties to even.  Nothing
may stand before or after it.
-/

import CurveSheet.Number.Binary64

namespace CurveSheet

/-- A decimal digit of ASCII. -/
def isDigit (c : Char) : Bool := '0' ≤ c && c ≤ '9'

/-- The value of a row of decimal digits. -/
def digitsValue (digits : List Char) : Nat :=
  digits.foldl (fun n c => 10 * n + (c.toNat - '0'.toNat)) 0

/-- A leading sign, `true` for minus, and what follows it. -/
def splitSign : List Char → Bool × List Char
  | '-' :: rest => (true, rest)
  | '+' :: rest => (false, rest)
  | text => (false, text)

/-- A decimal `coefficient · 10^exponent`, written with `width` digits. -/
structure Numeral where
  coefficient : Nat
  exponent : Int
  width : Nat

/-- The exponent part of a numeral: nothing, or `e`, a sign and digits. -/
def exponentPart? : List Char → Option Int
  | [] => some 0
  | c :: rest =>
    if c = 'e' ∨ c = 'E' then
      let (negative, digits) := splitSign rest
      if digits.isEmpty || !digits.all isDigit then none
      else if negative then some (-(digitsValue digits : Int))
      else some (digitsValue digits)
    else none

/-- The digits after a point, if there is one, and what follows. -/
def fractionPart : List Char → List Char × List Char
  | '.' :: rest => rest.span isDigit
  | text => ([], text)

/-- A numeral without sign. -/
def numeral? (text : List Char) : Option Numeral :=
  let (whole, rest) := text.span isDigit
  let (fraction, tail) := fractionPart rest
  if whole.isEmpty && fraction.isEmpty then none
  else (exponentPart? tail).map fun exponent =>
    ⟨digitsValue (whole ++ fraction), exponent - fraction.length, whole.length + fraction.length⟩

/-- The number nearest to a signed numeral.  A coefficient of `width` digits is
below `10^width`, so far exponents decide without the power being formed. -/
def Numeral.nearest (negative : Bool) (n : Numeral) : Binary64 :=
  if n.coefficient = 0 then .ofRank negative 0
  else if n.exponent > 400 then .infinite negative
  else if n.exponent < -(400 + n.width : Int) then .ofRank negative 0
  else .ofRatio negative (n.coefficient * 10 ^ n.exponent.toNat) (10 ^ (-n.exponent).toNat)

/-- The number that a text denotes, if it denotes one. -/
def Binary64.read? (text : List Char) : Option Binary64 :=
  let (negative, body) := splitSign text
  let word := body.map Char.toLower
  if word = ['i', 'n', 'f'] ∨ word = ['i', 'n', 'f', 'i', 'n', 'i', 't', 'y'] then
    some (.infinite negative)
  else if word = ['n', 'a', 'n'] then some .nan
  else (numeral? body).map (Numeral.nearest negative)

example : Binary64.read? ['-', '.', '5', 'e', '1'] = some (.ofInt (-5)) := by decide +kernel
example : Binary64.read? ['.'] = none := by decide +kernel
example : Binary64.read? ['1', 'e', '4', '0', '0'] = some (.infinite false) := by decide +kernel

end CurveSheet
