/-
# A number rounded to its places

Rounding a quotient gives the whole number nearest to it, and of two that are equally near the
even one (`isNearestEven_roundHalfEven`).  So it is off by a half at most and never turns the order
of two quotients around (`IsNearestEven.abs_sub_le`, `IsNearestEven.mono`).

A number with a fixed number of places is a decimal whose digits count steps of the last place
(`Finite.value_decimal`).  The steps are the exact value in such steps, rounded
(`Finite.isNearestEven_steps`), and the sign is that of the number, whatever is left of it.
-/

import CurveSheet.Number.Places
import CurveSheet.Proofs.Number.Digits
import CurveSheet.Proofs.Number.Order
import Mathlib.Algebra.Order.Field.Basic
import Mathlib.Algebra.Order.Field.Rat
import Mathlib.Algebra.Ring.Parity
import Mathlib.Tactic.Linarith
import Mathlib.Tactic.Ring

namespace CurveSheet

/-! ### Rounding -/

/-- The whole number is nearest to a quotient, and it is even if another is as near. -/
structure IsNearestEven (q : ℚ) (n : ℤ) : Prop where
  nearest : ∀ k : ℤ, |q - n| ≤ |q - k|
  even : ∀ k : ℤ, k ≠ n → |q - n| = |q - k| → Even n

namespace IsNearestEven

variable {q q' : ℚ} {n n' : ℤ}

/-- Other whole numbers are at least one away. -/
theorem of_half (hhalf : |q - n| ≤ 1 / 2) (heven : |q - n| = 1 / 2 → Even n) :
    IsNearestEven q n := by
  have hother : ∀ k : ℤ, k ≠ n → 1 - |q - n| ≤ |q - k| := by
    intro k hk
    have hone : (1 : ℚ) ≤ |(n : ℚ) - k| := by
      exact_mod_cast Int.one_le_abs (sub_ne_zero.2 hk.symm)
    have htriangle := abs_sub_le (n : ℚ) q k
    rw [abs_sub_comm (n : ℚ) q] at htriangle
    linarith
  refine ⟨fun k => ?_, fun k hk htie => heven ?_⟩
  · by_cases hk : k = n
    · rw [hk]
    · linarith [hother k hk]
  · linarith [hother k hk]

theorem neg (h : IsNearestEven q n) : IsNearestEven (-q) (-n) := by
  have hflip (k : ℤ) : |-q - k| = |q - (-k : ℤ)| := by
    rw [← abs_neg]
    congr 1
    push_cast
    ring
  refine ⟨fun k => ?_, fun k hk htie => (h.even (-k) (by omega) ?_).neg⟩
  · rw [hflip, hflip, neg_neg]
    exact h.nearest (-k)
  · rwa [hflip, hflip, neg_neg] at htie

/-- **What is rounded is off by a half at most.** -/
theorem abs_sub_le (h : IsNearestEven q n) : |q - n| ≤ 1 / 2 := by
  have hbelow := h.nearest (n - 1)
  have habove := h.nearest (n + 1)
  push_cast at hbelow habove
  rcases abs_cases (q - n) with ⟨heq, _⟩ | ⟨heq, _⟩
  · rcases abs_cases (q - (n + 1)) with ⟨heq', _⟩ | ⟨heq', _⟩ <;> linarith
  · rcases abs_cases (q - (n - 1)) with ⟨heq', _⟩ | ⟨heq', _⟩ <;> linarith

/-- **What is rounded keeps its order.** -/
theorem mono (h : IsNearestEven q n) (h' : IsNearestEven q' n') (hle : q ≤ q') : n ≤ n' := by
  by_contra hlt
  have hstep : (n' : ℚ) + 1 ≤ n := by exact_mod_cast Int.add_one_le_iff.2 (not_le.1 hlt)
  have hnear := abs_le.1 h.abs_sub_le
  have hnear' := abs_le.1 h'.abs_sub_le
  -- both lie halfway between two neighbours, and each was rounded to the even one
  have hhalf : q = n' + 1 / 2 := by linarith
  have hsame : q' = q := by linarith
  have hnext : n = n' + 1 := by
    have : (n : ℚ) = n' + 1 := by linarith
    exact_mod_cast this
  have htie : |q - n| = |q - n'| := by
    rw [hhalf, hnext, add_sub_cancel_left, Int.cast_add, Int.cast_one, add_sub_add_left_eq_sub]
    norm_num
  have heven : Even n := h.even n' (by omega) htie
  have heven' : Even n' := h'.even n (by omega) (by rw [hsame, htie])
  rw [Int.even_iff] at heven heven'
  omega

/-! The three cases of a fraction behind a whole number. -/

section

variable {floor : ℤ} {f : ℚ}

theorem below_half (hf : 0 ≤ f) (hhalf : f < 1 / 2) : IsNearestEven (floor + f) floor := by
  have habs : |(floor : ℚ) + f - floor| = f := by rw [add_sub_cancel_left, abs_of_nonneg hf]
  exact .of_half (by rw [habs]; exact hhalf.le) fun h => absurd (habs ▸ h) hhalf.ne

theorem above_half (hf : f ≤ 1) (hhalf : 1 / 2 < f) :
    IsNearestEven (floor + f) (floor + 1 : ℤ) := by
  have habs : |(floor : ℚ) + f - (floor + 1 : ℤ)| = 1 - f := by
    rw [Int.cast_add, Int.cast_one, add_sub_add_left_eq_sub, abs_of_nonpos (by linarith)]
    ring
  exact .of_half (by rw [habs]; linarith) fun h => by
    rw [habs] at h
    linarith

theorem at_half : IsNearestEven (floor + 1 / 2) (floor + floor % 2) := by
  refine .of_half ?_ fun _ => Int.even_iff.2 (by omega)
  rw [Int.cast_add, add_sub_add_left_eq_sub]
  rcases Int.emod_two_eq_zero_or_one floor with h | h <;> rw [h] <;> norm_num

end

end IsNearestEven

/-- **A quotient is rounded to the nearest whole number, a half to the even one.** -/
theorem isNearestEven_roundHalfEven (num : ℕ) {den : ℕ} (hden : 0 < den) :
    IsNearestEven (num / den) (roundHalfEven num den) := by
  have hpos : (0 : ℚ) < den := by exact_mod_cast hden
  have hsplit : (num / den : ℚ) = ((num / den : ℕ) : ℤ) + (num % den : ℕ) / den := by
    rw [div_eq_iff hpos.ne', add_mul, div_mul_cancel₀ _ hpos.ne', Int.cast_natCast]
    exact_mod_cast (Nat.div_add_mod' num den).symm
  rw [hsplit]
  unfold roundHalfEven
  dsimp only
  have hrest : num % den < den := Nat.mod_lt _ hden
  generalize num / den = floor
  generalize num % den = rest at hrest
  rcases lt_trichotomy (2 * rest) den with hlow | htie | hhigh
  · rw [if_pos hlow]
    have hhalf : (rest / den : ℚ) < 1 / 2 := by
      rw [div_lt_div_iff₀ hpos two_pos, one_mul, mul_comm]
      exact_mod_cast hlow
    exact .below_half (div_nonneg (Nat.cast_nonneg _) hpos.le) hhalf
  · rw [if_neg (by omega), if_neg (by omega)]
    have hhalf : (rest / den : ℚ) = 1 / 2 := by
      rw [div_eq_div_iff hpos.ne' two_ne_zero, one_mul, mul_comm]
      exact_mod_cast htie
    rw [hhalf]
    exact .at_half
  · rw [if_neg (by omega), if_pos hhigh]
    have hhalf : 1 / 2 < (rest / den : ℚ) := by
      rw [div_lt_div_iff₀ two_pos hpos, one_mul, mul_comm (rest : ℚ)]
      exact_mod_cast hhigh
    exact .above_half ((div_le_one₀ hpos).2 (by exact_mod_cast hrest.le)) hhalf

/-! ### Decimals -/

/-- A decimal as it is written: a sign, the digits of its whole part and those of its fraction. -/
structure Decimal where
  negative : Bool
  whole : List Char
  fraction : List Char
  deriving DecidableEq

namespace Decimal

/-- The text of a decimal. -/
def chars (d : Decimal) : List Char :=
  (if d.negative then ['-'] else []) ++ d.whole ++ '.' :: d.fraction

/-- The magnitude of a decimal. -/
def magnitude (d : Decimal) : ℚ :=
  digitsValue d.whole + digitsValue d.fraction / (10 ^ d.fraction.length : ℕ)

/-- The exact value of a decimal. -/
def value (d : Decimal) : ℚ := if d.negative then -d.magnitude else d.magnitude

/-- The decimal has digits on both sides of its point, behind it as many as there are places,
and no zero in front that could be left out. -/
structure HasPlaces (d : Decimal) (places : ℕ) : Prop where
  isDigit : ∀ c ∈ d.whole ++ d.fraction, isDigit c = true
  whole_ne_nil : d.whole ≠ []
  eq_zero : d.whole.head? = some '0' → d.whole = ['0']
  length_fraction : d.fraction.length = places

end Decimal

/-- The exact value of a finite number. -/
def Finite.value (x : Finite) : ℚ := x.units / unitsPerOne

/-- The decimal is the multiple of `10^-places` that is nearest to the number, with the number's
sign; of two that are as near its last digit is the even one. -/
structure Decimal.IsNearest (d : Decimal) (places : ℕ) (x : Finite) : Prop where
  hasPlaces : d.HasPlaces places
  negative : d.negative = x.negative
  multiple : ∃ n : ℤ, d.value = n / (10 ^ places : ℕ)
  nearest : ∀ n : ℤ, |x.value - d.value| ≤ |x.value - n / (10 ^ places : ℕ)|
  even : ∀ n : ℤ, d.value ≠ n / (10 ^ places : ℕ) →
    |x.value - d.value| = |x.value - n / (10 ^ places : ℕ)| →
      ∃ front last, d.fraction = front ++ [last] ∧ digitsValue [last] % 2 = 0

theorem ten_pow_pos (places : ℕ) : (0 : ℚ) < (10 ^ places : ℕ) := by
  exact_mod_cast (Nat.pow_pos (by decide) : 0 < 10 ^ places)

namespace Finite

theorem value_lt_value_iff (x y : Finite) : x.value < y.value ↔ x.order < y.order := by
  have hpos : (0 : ℚ) < unitsPerOne := by exact_mod_cast unitsPerOne_pos
  rw [value, value, div_lt_div_iff_of_pos_right hpos, Int.cast_lt, units_lt_units_iff]

/-- The decimal of a number with some places. -/
def decimal (places : ℕ) (x : Finite) : Decimal :=
  let steps := stepsOfRank places x.rank
  let digits := Nat.toDigits 10 (steps % 10 ^ places)
  ⟨x.negative, Nat.toDigits 10 (steps / 10 ^ places),
    List.replicate (places - digits.length) '0' ++ digits⟩

/-- What a number is rounded to, in steps of `10^-places`. -/
def steps (places : ℕ) (x : Finite) : ℤ :=
  if x.negative then -stepsOfRank places x.rank else stepsOfRank places x.rank

/-- **A number with a fixed number of places is a decimal.** -/
theorem placesChars_eq (places : ℕ) (x : Finite) :
    (Binary64.finite x).placesChars places = (x.decimal places).chars := by
  simp only [Binary64.placesChars, stepsChars, Decimal.chars, decimal, List.append_assoc,
    List.cons_append]
  rfl

theorem hasPlaces_decimal {places : ℕ} (hplaces : 0 < places) (x : Finite) :
    (x.decimal places).HasPlaces places := by
  have hlt : stepsOfRank places x.rank % 10 ^ places < 10 ^ places :=
    Nat.mod_lt _ (Nat.pow_pos (by decide))
  have hlength := (Nat.length_toDigits_le_iff (by decide : 1 < 10) hplaces).2 hlt
  refine ⟨fun c hc => ?_, Nat.toDigits_ne_nil, fun hzero => ?_, ?_⟩
  · simp only [decimal, List.mem_append, List.mem_replicate] at hc
    rcases hc with hc | ⟨-, rfl⟩ | hc
    · exact isDigit_of_mem_toDigits hc
    · rfl
    · exact isDigit_of_mem_toDigits hc
  · have hwhole : stepsOfRank places x.rank / 10 ^ places = 0 := by
      by_contra hne
      exact head?_toDigits_ne_zero hne hzero
    simp only [decimal, hwhole]
    rfl
  · rw [decimal, List.length_append, List.length_replicate]
    exact Nat.sub_add_cancel hlength

theorem digitsValue_fraction_decimal (places : ℕ) (x : Finite) :
    digitsValue (x.decimal places).fraction = stepsOfRank places x.rank % 10 ^ places := by
  rw [decimal, digitsValue_append, digitsValue_replicate_zero, digitsValue_toDigits, Nat.zero_mul,
    Nat.zero_add]

/-- **The digits of a decimal count the steps.** -/
theorem value_decimal {places : ℕ} (hplaces : 0 < places) (x : Finite) :
    (x.decimal places).value = x.steps places / (10 ^ places : ℕ) := by
  have hmagnitude : (x.decimal places).magnitude =
      stepsOfRank places x.rank / (10 ^ places : ℕ) := by
    have hne := (ten_pow_pos places).ne'
    rw [Decimal.magnitude, digitsValue_fraction_decimal,
      (x.hasPlaces_decimal hplaces).length_fraction, decimal, digitsValue_toDigits,
      eq_div_iff hne, add_mul, div_mul_cancel₀ _ hne]
    exact_mod_cast Nat.div_add_mod' _ _
  have hnegative : (x.decimal places).negative = x.negative := rfl
  rw [Decimal.value, hmagnitude, hnegative, steps]
  cases x.negative with
  | true => rw [if_pos rfl, if_pos rfl, Int.cast_neg, Int.cast_natCast, neg_div]
  | false => rw [if_neg Bool.false_ne_true, if_neg Bool.false_ne_true, Int.cast_natCast]

/-- **The steps are the exact value, rounded.** -/
theorem isNearestEven_steps (places : ℕ) (x : Finite) :
    IsNearestEven (x.value * (10 ^ places : ℕ)) (x.steps places) := by
  have hmagnitude : IsNearestEven (unitsOfRank x.rank / unitsPerOne * (10 ^ places : ℕ))
      (stepsOfRank places x.rank) := by
    have hround := isNearestEven_roundHalfEven (unitsOfRank x.rank * 10 ^ places) unitsPerOne_pos
    rwa [Nat.cast_mul, mul_div_right_comm] at hround
  unfold value units steps
  cases x.negative with
  | true =>
    rw [if_pos rfl, if_pos rfl, Int.cast_neg, Int.cast_natCast, neg_div, neg_mul]
    exact hmagnitude.neg
  | false =>
    rw [if_neg Bool.false_ne_true, if_neg Bool.false_ne_true, Int.cast_natCast]
    exact hmagnitude

/-- The last digit of a decimal is even if the number of steps is. -/
theorem exists_last_digit {places : ℕ} (hplaces : 0 < places) {x : Finite}
    (heven : Even (x.steps places)) :
    ∃ front last, (x.decimal places).fraction = front ++ [last] ∧ digitsValue [last] % 2 = 0 := by
  have hsteps : stepsOfRank places x.rank % 2 = 0 := by
    rw [steps] at heven
    split at heven
    · exact Nat.even_iff.1 ((Int.even_coe_nat _).1 (even_neg.1 heven))
    · exact Nat.even_iff.1 ((Int.even_coe_nat _).1 heven)
  have hdvd : 2 ∣ 10 ^ places := by
    obtain ⟨k, rfl⟩ := Nat.exists_eq_add_one.2 hplaces
    rw [Nat.pow_succ]
    exact Nat.dvd_mul_left_of_dvd (by decide) _
  have hvalue := x.digitsValue_fraction_decimal places
  have hlength := (x.hasPlaces_decimal hplaces).length_fraction
  rcases List.eq_nil_or_concat (x.decimal places).fraction with hnil | ⟨front, last, hlast⟩
  · rw [hnil] at hlength
    exact absurd hlength hplaces.ne
  · rw [List.concat_eq_append] at hlast
    refine ⟨front, last, hlast, ?_⟩
    have hmod : stepsOfRank places x.rank % 10 ^ places % 2 = 0 := by
      rw [Nat.mod_mod_of_dvd _ hdvd, hsteps]
    rw [← hvalue, hlast, digitsValue_append, List.length_singleton] at hmod
    omega

/-- Distances in steps and in numbers. -/
theorem abs_value_sub_div (x : Finite) (places : ℕ) (n : ℤ) :
    |x.value - n / (10 ^ places : ℕ)| =
      |x.value * (10 ^ places : ℕ) - n| / (10 ^ places : ℕ) := by
  have hpos := ten_pow_pos places
  have hdiff : x.value - n / (10 ^ places : ℕ) =
      (x.value * (10 ^ places : ℕ) - n) / (10 ^ places : ℕ) := by
    rw [sub_div, mul_div_cancel_right₀ _ hpos.ne']
  rw [hdiff, abs_div, abs_of_pos hpos]

/-- **A number with a fixed number of places is shown by the nearest decimal.** -/
theorem isNearest_decimal {places : ℕ} (hplaces : 0 < places) (x : Finite) :
    (x.decimal places).IsNearest places x := by
  have hround := x.isNearestEven_steps places
  have hpos := ten_pow_pos places
  have hvalue := x.value_decimal hplaces
  refine ⟨x.hasPlaces_decimal hplaces, rfl, ⟨_, hvalue⟩, fun n => ?_, fun n hne htie => ?_⟩
  · rw [hvalue, abs_value_sub_div, abs_value_sub_div]
    exact div_le_div_of_nonneg_right (hround.nearest n) hpos.le
  · rw [hvalue, abs_value_sub_div, abs_value_sub_div, div_left_inj' hpos.ne'] at htie
    refine exists_last_digit hplaces (hround.even n ?_ htie)
    rintro rfl
    exact hne hvalue

/-- **A decimal is off by half a step at most.** -/
theorem abs_value_sub_le {places : ℕ} (hplaces : 0 < places) (x : Finite) :
    |x.value - (x.decimal places).value| ≤ 1 / 2 / (10 ^ places : ℕ) := by
  rw [x.value_decimal hplaces, abs_value_sub_div]
  exact div_le_div_of_nonneg_right (x.isNearestEven_steps places).abs_sub_le (ten_pow_pos places).le

/-- **Decimals stand in the order of their numbers.** -/
theorem value_decimal_mono {places : ℕ} (hplaces : 0 < places) {x y : Finite}
    (h : x.value ≤ y.value) : (x.decimal places).value ≤ (y.decimal places).value := by
  have hpos := ten_pow_pos places
  have hsteps : x.steps places ≤ y.steps places :=
    (x.isNearestEven_steps places).mono (y.isNearestEven_steps places)
      (mul_le_mul_of_nonneg_right h hpos.le)
  rw [x.value_decimal hplaces, y.value_decimal hplaces]
  exact div_le_div_of_nonneg_right (Int.cast_le.2 hsteps) hpos.le

end Finite

end CurveSheet
