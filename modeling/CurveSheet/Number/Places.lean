/-
# A fixed number of decimal places

The exact value of a number is rounded to a multiple of `10^-places`, a half to
the even multiple.  The sign stays, also when nothing else is left: `-0.000`.
-/

import CurveSheet.Number.Binary64

namespace CurveSheet

/-- A magnitude in steps of `10^-places`, rounded. -/
def stepsOfRank (places rank : Nat) : Nat :=
  roundHalfEven (unitsOfRank rank * 10 ^ places) unitsPerOne

/-- A number of steps of `10^-places`, for at least one place. -/
def stepsChars (places steps : Nat) : List Char :=
  let digits := Nat.toDigits 10 (steps % 10 ^ places)
  Nat.toDigits 10 (steps / 10 ^ places) ++
    '.' :: List.replicate (places - digits.length) '0' ++ digits

/-- A number with a fixed number of places. -/
def Binary64.placesChars (places : Nat) : Binary64 → List Char
  | .nan => ['N', 'a', 'N']
  | .infinite negative => (if negative then ['-'] else []) ++ ['i', 'n', 'f']
  | .finite x =>
    (if x.negative then ['-'] else []) ++ stepsChars places (stepsOfRank places x.rank)

example : stepsChars 3 12 = ['0', '.', '0', '1', '2'] := by decide

end CurveSheet
