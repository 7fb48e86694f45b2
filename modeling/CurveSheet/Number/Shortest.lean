/-
# The shortest decimal of a binary64 magnitude

A decimal *reads back* as a magnitude when the magnitude is the one nearest to
it.  For 1, 2, … 17 significant digits the decimals with that many digits form a
grid; the first grid on which a neighbour of the magnitude reads back gives its
shortest decimal, and of two such neighbours the nearer one is taken.
-/

import CurveSheet.Number.Binary64

namespace CurveSheet

/-- Which of two equally near decimals is taken. -/
inductive Tie where
  | up
  | even
  deriving DecidableEq

/-- Significant digits after an imaginary `0.`, times `10^point`. -/
structure Digits where
  digits : List Char
  point : Int
  deriving DecidableEq

/-- The number of decimal digits of a number, one for zero. -/
def digitCount (n : Nat) : Nat := (Nat.toDigits 10 n).length

/-- The decade `k` of a magnitude `v` other than zero: `10^(k-1) ≤ v < 10^k`. -/
def decade (rank : Nat) : Int :=
  (digitCount (unitsOfRank rank * 10 ^ 400 / unitsPerOne) : Int) - 400

/-- The numerator of a magnitude in steps of `10^exponent`. -/
def gridNumerator (rank : Nat) (exponent : Int) : Nat :=
  unitsOfRank rank * 10 ^ (-exponent).toNat

/-- The denominator of a magnitude in steps of `10^exponent`. -/
def gridDenominator (exponent : Int) : Nat := unitsPerOne * 10 ^ exponent.toNat

/-- The decimal `coefficient · 10^exponent` is nearest to the magnitude of the rank. -/
def readsBack (rank coefficient : Nat) (exponent : Int) : Bool :=
  rankNearest (coefficient * 10 ^ exponent.toNat) (10 ^ (-exponent).toNat) == rank

/-- The nearer of the two grid neighbours `low` and `low + 1` of `num / den`. -/
def nearerNeighbour (tie : Tie) (num den : Nat) : Nat :=
  let low := num / den
  let rest := num % den
  if 2 * rest < den then low
  else if den < 2 * rest then low + 1
  else match tie with
    | .up => low + 1
    | .even => low + low % 2

/-- What is taken of two neighbours, given whether each of them reads back: the nearer one if
both do. -/
def taken? (low nearer : Nat) : (lowReads highReads : Bool) → Option Nat
  | true, true => some nearer
  | true, false => some low
  | false, true => some (low + 1)
  | false, false => none

/-- The coefficient on the grid of `10^exponent` that reads back, if one does. -/
def onGrid? (tie : Tie) (rank : Nat) (exponent : Int) : Option Nat :=
  let num := gridNumerator rank exponent
  let den := gridDenominator exponent
  let low := num / den
  taken? low (nearerNeighbour tie num den) (readsBack rank low exponent)
    (readsBack rank (low + 1) exponent)

/-- A coefficient and exponent as digits, without zeros at the end. -/
def Digits.ofDecimal (coefficient : Nat) (exponent : Int) : Digits :=
  let digits := Nat.toDigits 10 coefficient
  ⟨(digits.reverse.dropWhile (· == '0')).reverse, exponent + digits.length⟩

/-- The shortest digits that read back as a magnitude other than zero.

Seventeen digits always suffice, so the search does not end without a result; the
exact decimal stands behind it. -/
def shortestDigits (tie : Tie) (rank : Nat) : Digits :=
  let found := (List.range 17).findSome? fun (n : Nat) =>
    let exponent : Int := decade rank - (n + 1)
    (onGrid? tie rank exponent).map fun coefficient => Digits.ofDecimal coefficient exponent
  found.getD (Digits.ofDecimal (unitsOfRank rank * 5 ^ 1074) (-1074))

example : shortestDigits .up 1 = ⟨['5'], -323⟩ := by decide +kernel

end CurveSheet
