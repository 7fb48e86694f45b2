/-
# The order of numbers

Magnitudes grow with their ranks (`strictMono_unitsOfRank`): the next rank adds one to the
binary digits, and where these are used up it doubles the place and starts them anew.  So the
order by ranks and signs, which the program goes by, is the order of exact values
(`Finite.units_lt_units_iff`).
-/

import CurveSheet.Proofs.Number.Nearest
import Mathlib.Order.Monotone.Basic

namespace CurveSheet

theorem unitsOfRank_lt_succ (rank : Nat) : unitsOfRank rank < unitsOfRank (rank + 1) := by
  by_cases hsmall : rank + 1 < 2 ^ 52
  · rw [unitsOfRank_of_lt hsmall, unitsOfRank_of_lt (by omega)]
    exact Nat.lt_succ_self rank
  by_cases hlast : rank + 1 = 2 ^ 52
  · rw [unitsOfRank_of_lt (by omega), show rank + 1 = (0 + 1) * 2 ^ 52 + 0 by omega,
      unitsOfRank_add (by decide)]
    omega
  obtain ⟨place, digits, hdigits, rfl⟩ :
      ∃ place digits, digits < 2 ^ 52 ∧ rank = (place + 1) * 2 ^ 52 + digits :=
    ⟨rank / 2 ^ 52 - 1, rank % 2 ^ 52, Nat.mod_lt _ (Nat.two_pow_pos _), by omega⟩
  by_cases hcarry : digits + 1 < 2 ^ 52
  · rw [unitsOfRank_add hdigits, Nat.add_assoc, unitsOfRank_add hcarry]
    exact Nat.mul_lt_mul_of_pos_right (by omega) (Nat.two_pow_pos _)
  · -- the digits are used up, and the place doubles
    have hnext : (place + 1) * 2 ^ 52 + digits + 1 = (place + 1 + 1) * 2 ^ 52 + 0 := by omega
    rw [unitsOfRank_add hdigits, hnext, unitsOfRank_add (by decide)]
    calc (2 ^ 52 + digits) * 2 ^ place < 2 ^ 53 * 2 ^ place :=
          Nat.mul_lt_mul_of_pos_right (by omega) (Nat.two_pow_pos _)
      _ = (2 ^ 52 + 0) * 2 ^ (place + 1) := by
        rw [Nat.add_zero, ← Nat.pow_add, ← Nat.pow_add]
        congr 1
        omega

/-- **Magnitudes grow with their ranks.** -/
theorem strictMono_unitsOfRank : StrictMono unitsOfRank :=
  strictMono_nat_of_lt_succ unitsOfRank_lt_succ

/-- The exact value of a finite number, in units of `2^-1074`. -/
def Finite.units (x : Finite) : Int :=
  if x.negative then -unitsOfRank x.rank else unitsOfRank x.rank

/-- **Numbers are ordered as their exact values are.** -/
theorem Finite.units_lt_units_iff (x y : Finite) : x.units < y.units ↔ x.order < y.order := by
  have hlt (a b : Nat) : unitsOfRank a < unitsOfRank b ↔ a < b :=
    strictMono_unitsOfRank.lt_iff_lt
  have hxy := hlt x.rank y.rank
  have hyx := hlt y.rank x.rank
  have hx := hlt 0 x.rank
  have hy := hlt 0 y.rank
  rw [unitsOfRank_zero] at hx hy
  unfold units order
  cases x.negative <;> cases y.negative <;> simp only [if_true, if_false, Bool.false_eq_true] <;>
    omega

end CurveSheet
