/-
# Binary64 numbers

A finite number is a sign and a *rank*.  The ranks count the magnitudes that
binary64 can hold from zero upwards, so neighbouring magnitudes have neighbouring
ranks and comparing magnitudes is comparing ranks.  All magnitudes are whole
multiples of the unit `2^-1074`:

| rank `r` | magnitude in units |
| --- | --- |
| `r < 2^52` | `r` |
| `2^52 ≤ r` | `(2^52 + r mod 2^52) · 2^(r div 2^52 - 1)` |

The rank `2047 · 2^52` would be `2^1024`, the first magnitude out of range.
-/

import CurveSheet.Number.Power

namespace CurveSheet

/-- Ranks of finite magnitudes are below this. -/
def rankLimit : Nat := 2047 * 2 ^ 52

/-- The number of units `2^-1074` in one. -/
def unitsPerOne : Nat := 2 ^ 1074

/-- The magnitude of a rank, in units. -/
def unitsOfRank (rank : Nat) : Nat :=
  if rank < 2 ^ 52 then rank else (2 ^ 52 + rank % 2 ^ 52) * 2 ^ (rank / 2 ^ 52 - 1)

theorem unitsOfRank_zero : unitsOfRank 0 = 0 := rfl

/-- A finite binary64 number; zero has both signs. -/
structure Finite where
  negative : Bool
  rank : Nat
  rank_lt : rank < rankLimit
  deriving DecidableEq

/-- A binary64 number. -/
inductive Binary64 where
  | nan
  | infinite (negative : Bool)
  | finite (x : Finite)
  deriving DecidableEq

/-- The place of a finite number in the order of numbers; the two zeros share one. -/
def Finite.order (x : Finite) : Int := if x.negative then -x.rank else x.rank

/-- The number is neither an infinity nor a NaN. -/
def Binary64.finite? : Binary64 → Option Finite
  | finite x => some x
  | _ => none

/-- Equality of numbers: a NaN equals nothing, the two zeros equal each other. -/
def Binary64.equal : Binary64 → Binary64 → Bool
  | finite x, finite y => x.order == y.order
  | infinite s, infinite t => s == t
  | _, _ => false

/-- The quotient rounded to the nearest whole number, a half to the even one. -/
def roundHalfEven (num den : Nat) : Nat :=
  let floor := num / den
  let rest := num % den
  if 2 * rest < den then floor
  else if den < 2 * rest then floor + 1
  else floor + floor % 2

theorem roundHalfEven_mul {den : Nat} (h : 0 < den) (n : Nat) :
    roundHalfEven (n * den) den = n := by
  simp [roundHalfEven, Nat.mul_div_cancel n h, h]

/-- The rank of the magnitude nearest to `num / den`, ties to the even rank; it is
`rankLimit` or more when the quotient is too large for binary64.

A quotient of `2^53` units or more keeps its first 53 binary digits. -/
def rankNearest (num den : Nat) : Nat :=
  let units := num * unitsPerOne
  let shift := (units / den).log2 - 52
  shift * 2 ^ 52 + roundHalfEven units (den * 2 ^ shift)

/-- The number with a sign and a rank, an infinity beyond the last rank. -/
def Binary64.ofRank (negative : Bool) (rank : Nat) : Binary64 :=
  if h : rank < rankLimit then .finite ⟨negative, rank, h⟩ else .infinite negative

/-- The number nearest to a signed quotient. -/
def Binary64.ofRatio (negative : Bool) (num den : Nat) : Binary64 :=
  ofRank negative (rankNearest num den)

/-- The number nearest to an integer. -/
def Binary64.ofInt (n : Int) : Binary64 := ofRatio (n < 0) n.natAbs 1

end CurveSheet
