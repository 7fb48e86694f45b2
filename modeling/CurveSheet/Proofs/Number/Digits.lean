/-
# Decimal digits

Digits have the value that their number is written for, and zeros behind or before
them do to the value what one expects.  The shortest digits of a magnitude read back as
it (`readsBack_shortestDigits`): a neighbour on a grid is taken only if it does, and the
exact decimal that stands behind the grids does because it is exact.
-/

import CurveSheet.Number.Layout
import CurveSheet.Proofs.Number.Nearest

namespace CurveSheet

/-! ### Values of digits -/

theorem isDigit_eq_isDigit (c : Char) : isDigit c = c.isDigit := by
  rw [isDigit, Char.isDigit, Bool.eq_iff_iff]
  simp only [Bool.and_eq_true, decide_eq_true_eq]
  exact Iff.rfl

theorem isDigit_of_mem_toDigits {c : Char} {n : Nat} (h : c ∈ Nat.toDigits 10 n) :
    isDigit c = true := by
  rw [isDigit_eq_isDigit]
  exact Nat.isDigit_of_mem_toDigits (by decide) (by decide) h

theorem isDigit_of_mem_zeros {c : Char} {n : Nat} (h : c ∈ List.replicate n '0') :
    isDigit c = true := by
  rw [List.eq_of_mem_replicate h]
  decide

/-- No zero stands in front of the digits of a number other than zero. -/
theorem head?_toDigits_ne_zero {n : Nat} (h : n ≠ 0) : (Nat.toDigits 10 n).head? ≠ some '0' := by
  induction n using Nat.strongRecOn with
  | ind n ih =>
    by_cases hn : n < 10
    · rw [Nat.toDigits_of_lt_base hn, List.head?_cons, Ne, Option.some.injEq,
        Nat.digitChar_eq_zero]
      exact h
    · have hfirst := ih (n / 10) (by omega) (by omega)
      rw [Nat.toDigits_of_base_le (by decide) (Nat.le_of_not_lt hn)]
      cases hdigits : Nat.toDigits 10 (n / 10) with
      | nil => exact absurd hdigits Nat.toDigits_ne_nil
      | cons c rest => rwa [hdigits] at hfirst

theorem digitsValue_eq (digits : List Char) :
    digitsValue digits = Nat.ofDigitChars 10 digits 0 := by
  rw [Nat.ofDigitChars_eq_foldl, digitsValue]

theorem digitsValue_toDigits (n : Nat) : digitsValue (Nat.toDigits 10 n) = n := by
  rw [digitsValue_eq, Nat.ofDigitChars_ten_toDigits]

theorem digitsValue_append (left right : List Char) :
    digitsValue (left ++ right) = digitsValue left * 10 ^ right.length + digitsValue right := by
  simp only [digitsValue_eq]
  rw [Nat.ofDigitChars_append, Nat.ofDigitChars_eq_ofDigitChars_zero, Nat.mul_comm]

theorem digitsValue_replicate_zero (n : Nat) : digitsValue (List.replicate n '0') = 0 := by
  rw [digitsValue_eq, Nat.ofDigitChars_replicate_zero, Nat.mul_zero]

/-- A row of digits is below the power of ten with as many zeros. -/
theorem digitsValue_lt {digits : List Char} (h : ∀ c ∈ digits, isDigit c = true) :
    digitsValue digits < 10 ^ digits.length := by
  induction digits with
  | nil => decide
  | cons c rest ih =>
    have hrest := ih fun d hd => h d (List.mem_cons_of_mem _ hd)
    have hc : c.toNat - '0'.toNat ≤ 9 := by
      have := h c (List.mem_cons_self ..)
      simp only [isDigit, Bool.and_eq_true, decide_eq_true_eq, Char.le_def,
        UInt32.le_iff_toNat_le] at this
      exact Nat.sub_le_of_le_add this.2
    have hvalue : digitsValue (c :: rest) =
        (c.toNat - '0'.toNat) * 10 ^ rest.length + digitsValue rest := by
      rw [← List.singleton_append, digitsValue_append]
      simp [digitsValue]
    calc digitsValue (c :: rest)
        = (c.toNat - '0'.toNat) * 10 ^ rest.length + digitsValue rest := hvalue
      _ < 9 * 10 ^ rest.length + 10 ^ rest.length :=
        Nat.add_lt_add_of_le_of_lt (Nat.mul_le_mul_right _ hc) hrest
      _ = 10 ^ (c :: rest).length := by rw [List.length_cons, Nat.pow_succ]; omega

/-- Digits are those that stay when the zeros at their end go, and these zeros. -/
theorem exists_eq_append_replicate_zero (digits : List Char) : ∃ k,
    digits = (digits.reverse.dropWhile (· == '0')).reverse ++ List.replicate k '0' := by
  refine ⟨(digits.reverse.takeWhile (· == '0')).length, ?_⟩
  have hzeros : (digits.reverse.takeWhile (· == '0')).reverse =
      List.replicate (digits.reverse.takeWhile (· == '0')).length '0' := by
    rw [List.eq_replicate_iff]
    refine ⟨List.length_reverse, fun c hc => ?_⟩
    exact eq_of_beq (List.all_eq_true.1 List.all_takeWhile c (List.mem_reverse.1 hc))
  rw [← hzeros, ← List.reverse_append, List.takeWhile_append_dropWhile, List.reverse_reverse]

/-! ### Decimals with the same value -/

/-- **Zeros move from the coefficient to the exponent.** -/
theorem readsBack_mul_pow (rank coefficient k : Nat) (exponent : Int) :
    readsBack rank (coefficient * 10 ^ k) exponent = readsBack rank coefficient (exponent + k) := by
  have hpos : ∀ n, 0 < 10 ^ n := fun n => Nat.pow_pos (by decide)
  unfold readsBack
  rw [rankNearest_congr (hpos _) (hpos _)]
  rw [Nat.mul_assoc, Nat.mul_assoc, Nat.mul_assoc, ← Nat.pow_add, ← Nat.pow_add, ← Nat.pow_add]
  congr 2
  omega

/-- The digits of a decimal have its value. -/
theorem readsBack_ofDecimal (rank coefficient : Nat) (exponent : Int) :
    readsBack rank (digitsValue (Digits.ofDecimal coefficient exponent).digits)
      ((Digits.ofDecimal coefficient exponent).point -
        (Digits.ofDecimal coefficient exponent).digits.length) =
      readsBack rank coefficient exponent := by
  obtain ⟨k, hk⟩ := exists_eq_append_replicate_zero (Nat.toDigits 10 coefficient)
  unfold Digits.ofDecimal
  dsimp only
  generalize ((Nat.toDigits 10 coefficient).reverse.dropWhile (· == '0')).reverse = kept at hk ⊢
  have hvalue : coefficient = digitsValue kept * 10 ^ k := by
    rw [← digitsValue_toDigits coefficient, hk, digitsValue_append, digitsValue_replicate_zero,
      List.length_replicate, Nat.add_zero]
  have hexponent : exponent + (Nat.toDigits 10 coefficient).length - kept.length =
      exponent + k := by
    rw [hk, List.length_append, List.length_replicate]
    omega
  rw [hexponent, ← readsBack_mul_pow, ← hvalue]

theorem isDigit_of_mem_ofDecimal {coefficient : Nat} {exponent : Int} {c : Char}
    (h : c ∈ (Digits.ofDecimal coefficient exponent).digits) : isDigit c = true := by
  rw [Digits.ofDecimal, List.mem_reverse] at h
  have hdigit : c ∈ Nat.toDigits 10 coefficient :=
    List.mem_reverse.1 ((List.dropWhile_sublist _).subset h)
  exact isDigit_of_mem_toDigits hdigit

/-! ### The shortest digits -/

theorem nearerNeighbour_eq (tie : Tie) (num den : Nat) :
    nearerNeighbour tie num den = num / den ∨ nearerNeighbour tie num den = num / den + 1 := by
  unfold nearerNeighbour
  dsimp only
  split
  · exact .inl rfl
  · split
    · exact .inr rfl
    · cases tie with
      | up => exact .inr rfl
      | even =>
        rcases Nat.mod_two_eq_zero_or_one (num / den) with h | h
        · exact .inl (congrArg (num / den + ·) h)
        · exact .inr (congrArg (num / den + ·) h)

/-- What is taken of two neighbours reads back, whatever that means. -/
theorem reads_of_taken? (reads : Nat → Bool) {low nearer coefficient : Nat}
    (hnearer : nearer = low ∨ nearer = low + 1)
    (h : taken? low nearer (reads low) (reads (low + 1)) = some coefficient) :
    reads coefficient = true := by
  cases hlow : reads low <;> cases hhigh : reads (low + 1) <;> rw [hlow, hhigh] at h <;> cases h
  · exact hhigh
  · exact hlow
  · rcases hnearer with rfl | rfl
    · exact hlow
    · exact hhigh

/-- A neighbour on a grid is taken only if it reads back. -/
theorem readsBack_of_onGrid? {tie : Tie} {rank coefficient : Nat} {exponent : Int}
    (h : onGrid? tie rank exponent = some coefficient) :
    readsBack rank coefficient exponent = true :=
  reads_of_taken? (readsBack rank · exponent) (nearerNeighbour_eq ..) h

/-- The exact decimal of a magnitude reads back. -/
theorem readsBack_exact (rank : Nat) : readsBack rank (unitsOfRank rank * 5 ^ 1074) (-1074) := by
  have hten : 10 ^ 1074 = 5 ^ 1074 * unitsPerOne := by
    rw [unitsPerOne, ← Nat.mul_pow]
  rw [readsBack, beq_iff_eq]
  have hpos : ∀ n, 0 < 5 ^ n := fun n => Nat.pow_pos (by decide)
  rw [show (-1074 : Int).toNat = 0 by decide, show (-(-1074) : Int).toNat = 1074 by decide,
    Nat.pow_zero, Nat.mul_one, hten, Nat.mul_comm (unitsOfRank rank),
    rankNearest_mul_mul (hpos _), rankNearest_unitsOfRank]

/-- The shortest digits of a magnitude are those of a decimal that reads back as it. -/
theorem exists_shortestDigits_eq (tie : Tie) (rank : Nat) : ∃ coefficient exponent,
    shortestDigits tie rank = Digits.ofDecimal coefficient exponent ∧
      readsBack rank coefficient exponent = true := by
  unfold shortestDigits
  dsimp only
  cases hfound : (List.range 17).findSome? fun (n : Nat) =>
    (onGrid? tie rank (decade rank - (n + 1))).map fun coefficient =>
      Digits.ofDecimal coefficient (decade rank - (n + 1)) with
  | none => exact ⟨_, _, rfl, readsBack_exact rank⟩
  | some found =>
    obtain ⟨n, -, hn⟩ := List.exists_of_findSome?_eq_some hfound
    obtain ⟨coefficient, hgrid, rfl⟩ := Option.map_eq_some_iff.1 hn
    exact ⟨coefficient, _, rfl, readsBack_of_onGrid? hgrid⟩

/-- **The shortest digits of a magnitude read back as it.** -/
theorem readsBack_shortestDigits (tie : Tie) (rank : Nat) :
    readsBack rank (digitsValue (shortestDigits tie rank).digits)
      ((shortestDigits tie rank).point - (shortestDigits tie rank).digits.length) = true ∧
    ∀ c ∈ (shortestDigits tie rank).digits, isDigit c = true := by
  obtain ⟨coefficient, exponent, hdigits, hback⟩ := exists_shortestDigits_eq tie rank
  rw [hdigits, readsBack_ofDecimal]
  exact ⟨hback, fun c hc => isDigit_of_mem_ofDecimal hc⟩

theorem readsBack_zero {rank : Nat} (h : rank ≠ 0) (exponent : Int) :
    readsBack rank 0 exponent = false := by
  rw [readsBack, Nat.zero_mul, rankNearest_zero, beq_eq_false_iff_ne]
  exact h.symm

theorem shortestDigits_ne_nil (tie : Tie) {rank : Nat} (h : rank ≠ 0) :
    (shortestDigits tie rank).digits ≠ [] := by
  intro hnil
  have hback := (readsBack_shortestDigits tie rank).1
  rw [hnil, show digitsValue [] = 0 from rfl, readsBack_zero h] at hback
  cases hback

/-- No zero stands in front of the shortest digits. -/
theorem head?_shortestDigits_ne_zero (tie : Tie) {rank : Nat} (h : rank ≠ 0) :
    (shortestDigits tie rank).digits.head? ≠ some '0' := by
  have hne := shortestDigits_ne_nil tie h
  obtain ⟨coefficient, exponent, hdigits, hback⟩ := exists_shortestDigits_eq tie rank
  have hcoefficient : coefficient ≠ 0 := by
    rintro rfl
    rw [readsBack_zero h] at hback
    cases hback
  obtain ⟨k, hk⟩ : ∃ k, Nat.toDigits 10 coefficient =
      (Digits.ofDecimal coefficient exponent).digits ++ List.replicate k '0' :=
    exists_eq_append_replicate_zero (Nat.toDigits 10 coefficient)
  have hfirst := head?_toDigits_ne_zero hcoefficient
  rw [hdigits] at hne ⊢
  cases hkept : (Digits.ofDecimal coefficient exponent).digits with
  | nil => exact absurd hkept hne
  | cons c rest => rwa [hk, hkept] at hfirst

end CurveSheet
