/-
# The magnitude nearest to a quotient

The rank nearest to `num / den` depends on the value of the quotient only
(`rankNearest_congr`), and the rank of a magnitude is the one nearest to it
(`rankNearest_unitsOfRank`).  Quotients below half a unit have rank zero and those of
`2^1024` or more have none, so where the exponent of a numeral decides by itself, it
decides as the quotient would (`Numeral.nearest_of_rankNearest`).
-/

import CurveSheet.Number.Reading

namespace CurveSheet

/-! ### Rounding -/

theorem roundHalfEven_mul_mul {k : Nat} (hk : 0 < k) (num den : Nat) :
    roundHalfEven (k * num) (k * den) = roundHalfEven num den := by
  have hrest : ∀ a b, 2 * (k * a) < k * b ↔ 2 * a < b := fun a b => by
    rw [← Nat.mul_assoc, Nat.mul_comm 2 k, Nat.mul_assoc, Nat.mul_lt_mul_left hk]
  have hrest' : ∀ a b, k * b < 2 * (k * a) ↔ b < 2 * a := fun a b => by
    rw [← Nat.mul_assoc, Nat.mul_comm 2 k, Nat.mul_assoc, Nat.mul_lt_mul_left hk]
  unfold roundHalfEven
  simp only [Nat.mul_mod_mul_left, Nat.mul_div_mul_left _ _ hk, hrest, hrest']

theorem div_le_roundHalfEven (num den : Nat) : num / den ≤ roundHalfEven num den := by
  unfold roundHalfEven
  dsimp only
  split
  · exact Nat.le_refl _
  · split
    · exact Nat.le_succ _
    · exact Nat.le_add_right ..

/-- Less than a half is rounded to zero. -/
theorem roundHalfEven_eq_zero {num den : Nat} (h : 2 * num < den) : roundHalfEven num den = 0 := by
  have hlt : num < den := by omega
  unfold roundHalfEven
  simp only [Nat.mod_eq_of_lt hlt, Nat.div_eq_of_lt hlt]
  rw [if_pos h]

/-! ### The nearest rank -/

theorem unitsPerOne_pos : 0 < unitsPerOne := by
  rw [unitsPerOne]
  apply Nat.two_pow_pos

theorem rankNearest_mul_mul {k : Nat} (hk : 0 < k) (num den : Nat) :
    rankNearest (k * num) (k * den) = rankNearest num den := by
  unfold rankNearest
  simp only [Nat.mul_assoc, Nat.mul_div_mul_left _ _ hk, roundHalfEven_mul_mul hk]

/-- **Equal quotients have the same nearest rank.** -/
theorem rankNearest_congr {num den num' den' : Nat} (hden : 0 < den) (hden' : 0 < den')
    (h : num * den' = num' * den) : rankNearest num den = rankNearest num' den' := by
  rw [← rankNearest_mul_mul hden', ← rankNearest_mul_mul hden num', Nat.mul_comm den' num, h,
    Nat.mul_comm den num', Nat.mul_comm den' den]

theorem rankNearest_zero (den : Nat) : rankNearest 0 den = 0 := by
  simp [rankNearest, roundHalfEven]

/-- **A quotient below half a unit is nearest to zero.** -/
theorem rankNearest_eq_zero {num den : Nat} (h : 2 * (num * unitsPerOne) < den) :
    rankNearest num den = 0 := by
  have hdiv : num * unitsPerOne / den = 0 := Nat.div_eq_of_lt (by omega)
  have hlog : Nat.log2 0 = 0 := by decide
  unfold rankNearest
  simp only [hdiv, hlog, Nat.zero_sub, Nat.pow_zero, Nat.mul_one, Nat.zero_mul, Nat.zero_add]
  exact roundHalfEven_eq_zero h

/-- **A quotient of `2^1024` or more is out of range.** -/
theorem rankLimit_le_rankNearest {num den : Nat} (hden : 0 < den) (h : 2 ^ 1024 * den ≤ num) :
    rankLimit ≤ rankNearest num den := by
  have hunits : 2 ^ 2098 ≤ num * unitsPerOne / den := by
    rw [Nat.le_div_iff_mul_le hden]
    calc 2 ^ 2098 * den = 2 ^ 1024 * den * unitsPerOne := by
          rw [show 2098 = 1024 + 1074 from rfl, Nat.pow_add, unitsPerOne, Nat.mul_right_comm]
      _ ≤ num * unitsPerOne := Nat.mul_le_mul_right _ h
  have hpos : 0 < num * unitsPerOne / den := by
    refine Nat.lt_of_lt_of_le ?_ hunits
    apply Nat.two_pow_pos
  have hlog : 2098 ≤ (num * unitsPerOne / den).log2 :=
    (Nat.le_log2 (Nat.ne_of_gt hpos)).2 hunits
  have hround : 2 ^ 52 ≤ roundHalfEven (num * unitsPerOne)
      (den * 2 ^ ((num * unitsPerOne / den).log2 - 52)) := by
    refine Nat.le_trans ?_ (div_le_roundHalfEven _ _)
    rw [← Nat.div_div_eq_div_mul, Nat.le_div_iff_mul_le (Nat.two_pow_pos _), ← Nat.pow_add,
      Nat.add_sub_cancel' (by omega)]
    exact Nat.log2_self_le (by omega)
  unfold rankNearest rankLimit
  dsimp only
  omega

/-! ### Magnitudes -/

theorem unitsOfRank_of_lt {rank : Nat} (h : rank < 2 ^ 52) : unitsOfRank rank = rank := if_pos h

/-- A magnitude that is not the least of its kind: the binary digits and their place. -/
theorem unitsOfRank_add {place digits : Nat} (hdigits : digits < 2 ^ 52) :
    unitsOfRank ((place + 1) * 2 ^ 52 + digits) = (2 ^ 52 + digits) * 2 ^ place := by
  have hmod : ((place + 1) * 2 ^ 52 + digits) % 2 ^ 52 = digits := by omega
  have hdiv : ((place + 1) * 2 ^ 52 + digits) / 2 ^ 52 - 1 = place := by omega
  unfold unitsOfRank
  rw [if_neg (by omega), hmod, hdiv]

theorem log2_mul_two_pow {n place : Nat} (hlow : 2 ^ 52 ≤ n) (hhigh : n < 2 ^ 53) :
    (n * 2 ^ place).log2 = 52 + place := by
  have hpos : n * 2 ^ place ≠ 0 :=
    Nat.ne_of_gt (Nat.mul_pos (by omega) (Nat.two_pow_pos _))
  refine Nat.le_antisymm (Nat.le_of_lt_succ ?_) ?_
  · rw [Nat.log2_lt hpos, Nat.succ_eq_add_one, show 52 + place + 1 = 53 + place by omega,
      Nat.pow_add]
    exact Nat.mul_lt_mul_of_pos_right hhigh (Nat.two_pow_pos _)
  · rw [Nat.le_log2 hpos, Nat.pow_add]
    exact Nat.mul_le_mul_right _ hlow

/-- **The rank of a magnitude is the nearest to it.** -/
theorem rankNearest_unitsOfRank (rank : Nat) :
    rankNearest (unitsOfRank rank) unitsPerOne = rank := by
  unfold rankNearest
  simp only [Nat.mul_div_cancel _ unitsPerOne_pos]
  by_cases h : rank < 2 ^ 52
  · have hshift : rank.log2 - 52 = 0 := by
      by_cases hzero : rank = 0
      · subst hzero
        decide
      · have := (Nat.log2_lt hzero).2 (Nat.lt_trans h (by decide : 2 ^ 52 < 2 ^ 53))
        omega
    rw [unitsOfRank_of_lt h, hshift, Nat.pow_zero, Nat.mul_one,
      roundHalfEven_mul unitsPerOne_pos, Nat.zero_mul, Nat.zero_add]
  · obtain ⟨place, digits, hdigits, rfl⟩ :
        ∃ place digits, digits < 2 ^ 52 ∧ rank = (place + 1) * 2 ^ 52 + digits :=
      ⟨rank / 2 ^ 52 - 1, rank % 2 ^ 52, Nat.mod_lt _ (Nat.two_pow_pos _), by omega⟩
    rw [unitsOfRank_add hdigits, log2_mul_two_pow (by omega) (by omega), Nat.add_sub_cancel_left,
      Nat.mul_assoc, Nat.mul_comm (2 ^ place) unitsPerOne,
      roundHalfEven_mul (Nat.mul_pos unitsPerOne_pos (Nat.two_pow_pos _))]
    omega

/-! ### Numerals -/

/-- A power of ten with an exponent as large as those that decide by themselves. -/
theorem two_pow_le_ten_pow {n : Nat} (hn : 400 ≤ n) : 2 ^ 1200 ≤ 10 ^ n := by
  calc 2 ^ 1200 = (2 ^ 3) ^ 400 := by rw [← Nat.pow_mul]
    _ ≤ 10 ^ 400 := by apply Nat.pow_le_pow_left; decide
    _ ≤ 10 ^ n := Nat.pow_le_pow_right (by decide) hn

theorem rankNearest_of_large_exponent {coefficient : Nat} {exponent : Int}
    (hcoefficient : coefficient ≠ 0) (h : 400 < exponent) :
    rankLimit ≤ rankNearest (coefficient * 10 ^ exponent.toNat) (10 ^ (-exponent).toNat) := by
  refine rankLimit_le_rankNearest (Nat.pow_pos (by decide)) ?_
  rw [show (-exponent).toNat = 0 by omega, Nat.pow_zero, Nat.mul_one]
  calc 2 ^ 1024 ≤ 2 ^ 1200 := by apply Nat.pow_le_pow_right <;> decide
    _ ≤ 10 ^ exponent.toNat := two_pow_le_ten_pow (by omega)
    _ ≤ coefficient * 10 ^ exponent.toNat :=
      Nat.le_mul_of_pos_left _ (Nat.pos_of_ne_zero hcoefficient)

theorem rankNearest_of_small_exponent {coefficient width : Nat} {exponent : Int}
    (hcoefficient : coefficient < 10 ^ width) (h : exponent < -(400 + width : Int)) :
    rankNearest (coefficient * 10 ^ exponent.toNat) (10 ^ (-exponent).toNat) = 0 := by
  obtain ⟨n, hn, hexponent⟩ : ∃ n, 400 ≤ n ∧ (-exponent).toNat = width + n :=
    ⟨(-exponent).toNat - width, by omega, by omega⟩
  refine rankNearest_eq_zero ?_
  rw [show exponent.toNat = 0 by omega, Nat.pow_zero, Nat.mul_one, hexponent, Nat.pow_add]
  calc 2 * (coefficient * unitsPerOne) = coefficient * 2 ^ (1074 + 1) := by
        rw [unitsPerOne, Nat.mul_left_comm, Nat.mul_comm 2, ← Nat.pow_succ]
    _ ≤ coefficient * 2 ^ 1200 := by
      apply Nat.mul_le_mul_left
      apply Nat.pow_le_pow_right <;> decide
    _ < 10 ^ width * 2 ^ 1200 := by
      apply Nat.mul_lt_mul_of_pos_right hcoefficient
      apply Nat.two_pow_pos
    _ ≤ 10 ^ width * 10 ^ n := Nat.mul_le_mul_left _ (two_pow_le_ten_pow hn)

/-- **A numeral denotes the number that its quotient is nearest to**, also where its exponent
decides by itself. -/
theorem Numeral.nearest_of_rankNearest {n : Numeral} {rank : Nat} (hrank : rank < rankLimit)
    (hzero : rank ≠ 0) (hwidth : n.coefficient < 10 ^ n.width)
    (h : rankNearest (n.coefficient * 10 ^ n.exponent.toNat) (10 ^ (-n.exponent).toNat) = rank)
    (negative : Bool) : n.nearest negative = .finite ⟨negative, rank, hrank⟩ := by
  have hcoefficient : n.coefficient ≠ 0 := by
    intro hzero'
    rw [hzero', Nat.zero_mul, rankNearest_zero] at h
    exact hzero h.symm
  have hlarge : ¬n.exponent > 400 := by
    intro hlarge
    have := rankNearest_of_large_exponent hcoefficient hlarge
    omega
  have hsmall : ¬n.exponent < -(400 + n.width : Int) := by
    intro hsmall
    have := rankNearest_of_small_exponent hwidth hsmall
    omega
  unfold nearest
  rw [if_neg hcoefficient, if_neg hlarge, if_neg hsmall, Binary64.ofRatio, h, Binary64.ofRank,
    dif_pos hrank]

end CurveSheet
