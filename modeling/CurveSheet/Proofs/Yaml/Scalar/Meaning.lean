/-
# Scalars without tags

What a scalar without a tag stands for is found by trying null, the booleans and the integers
one after the other.  No text is two of them, so each can be tried by itself
(`meaning_eq_null_iff`, `meaning_eq_boolean_iff`, `meaning_eq_integer_iff`), as readers do that
expect one of them.
-/

import CurveSheet.Yaml.Meaning

namespace CurveSheet
namespace Yaml

variable {text : List Char}

/-! ### Words -/

theorem boolean?_of_null (h : (text.isEmpty || isNullWord text) = true) : boolean? text = none := by
  simp only [isNullWord, Bool.or_eq_true, List.isEmpty_iff, List.any_eq_true, beq_iff_eq,
    List.mem_cons, List.not_mem_nil, or_false] at h
  rcases h with rfl | ⟨word, rfl | rfl | rfl | rfl, rfl⟩ <;> decide +kernel

theorem integer?_of_null (h : (text.isEmpty || isNullWord text) = true) : integer? text = none := by
  simp only [isNullWord, Bool.or_eq_true, List.isEmpty_iff, List.any_eq_true, beq_iff_eq,
    List.mem_cons, List.not_mem_nil, or_false] at h
  rcases h with rfl | ⟨word, rfl | rfl | rfl | rfl, rfl⟩ <;> decide +kernel

theorem integer?_of_boolean {b : Bool} (h : boolean? text = some b) : integer? text = none := by
  have hwords : ["true", "True", "TRUE"].any (·.toList == text) = true ∨
      ["false", "False", "FALSE"].any (·.toList == text) = true := by
    unfold boolean? at h
    split at h
    · exact .inl ‹_›
    · split at h
      · exact .inr ‹_›
      · cases h
  simp only [List.any_eq_true, beq_iff_eq, List.mem_cons, List.not_mem_nil, or_false] at hwords
  rcases hwords with ⟨word, rfl | rfl | rfl, rfl⟩ | ⟨word, rfl | rfl | rfl, rfl⟩ <;> decide +kernel

/-! ### Plain scalars -/

theorem plainMeaning_eq_null_iff :
    plainMeaning text = .null ↔ (text.isEmpty || isNullWord text) = true := by
  unfold plainMeaning
  split
  · simp [*]
  · split
    · simp [*]
    · split
      · simp [*]
      · split <;> simp [*]

theorem plainMeaning_eq_boolean_iff {b : Bool} :
    plainMeaning text = .boolean b ↔ boolean? text = some b := by
  unfold plainMeaning
  split
  · rename_i hnull
    simp [boolean?_of_null hnull]
  · split
    · rename_i hboolean
      simp [hboolean]
    · split
      · simp [*]
      · split <;> simp [*]

theorem plainMeaning_eq_integer_iff {n : Int} :
    plainMeaning text = .integer n ↔ integer? text = some n := by
  unfold plainMeaning
  split
  · rename_i hnull
    simp [integer?_of_null hnull]
  · split
    · rename_i hboolean
      simp [integer?_of_boolean hboolean]
    · split
      · rename_i hinteger
        simp [hinteger]
      · split <;> simp [*]

/-! ### Integers without a minus sign -/

theorem magnitude?_minus (rest : List Char) : magnitude? ('-' :: rest) = none := by
  have hdigit : pushDigit? 10 0 '-' = none := by decide
  have hpadded : isPadded ('-' :: rest) = true ∨ isPadded ('-' :: rest) = false :=
    Bool.eq_false_or_eq_true _
  rcases hpadded with h | h <;> simp [magnitude?, digits?, h, hdigit]

/-- The integers of 64 bits that are read without a sign are those that are not written with a
minus sign. -/
theorem natural?_eq_some_iff {n : Nat} :
    natural? (2 ^ 64) text = some n ↔
      integer? text = some (n : Int) ∧ n < 2 ^ 64 ∧ text.head? ≠ some '-' := by
  by_cases hminus : text.head? = some '-'
  · obtain ⟨rest, rfl⟩ := List.head?_eq_some_iff.mp hminus
    simp [natural?, dropPlus, magnitude?_minus]
  · have hinteger : integer? text = (natural? (2 ^ 128) text).map Int.ofNat := by
      unfold integer?
      split
      · exact absurd rfl hminus
      · rfl
    have hless : n < 2 ^ 64 → n < 2 ^ 128 := fun h => Nat.lt_trans h (by decide)
    simp only [hinteger, natural?, Option.map_eq_some_iff, Option.filter_eq_some_iff,
      decide_eq_true_eq, Int.ofNat_eq_natCast, Int.natCast_inj, exists_eq_right]
    grind

/-! ### Scalars -/

section

variable {scalar : Scalar}

theorem meaning_eq (htag : scalar.tag = none) :
    scalar.meaning =
      .ok (if scalar.style = .plain then plainMeaning scalar.text else .text scalar.text) := by
  unfold Scalar.meaning
  rw [htag]
  by_cases h : scalar.style = .plain <;> simp [h]

theorem isLiteralOf_iff (htag : scalar.tag = none) (type : CoreType) :
    scalar.isLiteralOf type = true ↔ scalar.style = .plain := by
  unfold Scalar.isLiteralOf
  cases scalar.style <;> simp [htag]

theorem meaning_eq_null_iff (htag : scalar.tag = none) :
    scalar.meaning = .ok .null ↔
      scalar.style = .plain ∧ (scalar.text.isEmpty || isNullWord scalar.text) = true := by
  rw [meaning_eq htag, ← plainMeaning_eq_null_iff]
  by_cases h : scalar.style = .plain <;> simp [h]

theorem meaning_eq_boolean_iff (htag : scalar.tag = none) {b : Bool} :
    scalar.meaning = .ok (.boolean b) ↔
      (if scalar.isLiteralOf .boolean then boolean? scalar.text else none) = some b := by
  rw [meaning_eq htag]
  by_cases h : scalar.style = .plain
  · simp [(isLiteralOf_iff htag .boolean).mpr h, h, plainMeaning_eq_boolean_iff]
  · have hliteral := mt (isLiteralOf_iff htag .boolean).mp h
    simp [hliteral, h]

theorem meaning_eq_integer_iff (htag : scalar.tag = none) {n : Nat} :
    (scalar.meaning = .ok (.integer n) ∧ n < 2 ^ 64 ∧ scalar.text.head? ≠ some '-') ↔
      (if scalar.isLiteralOf .integer then natural? (2 ^ 64) scalar.text else none) = some n := by
  rw [meaning_eq htag]
  by_cases h : scalar.style = .plain
  · rw [if_pos ((isLiteralOf_iff htag .integer).mpr h), natural?_eq_some_iff, if_pos h,
      Except.ok.injEq, plainMeaning_eq_integer_iff]
  · have hliteral := mt (isLiteralOf_iff htag .integer).mp h
    simp [hliteral, h]

end

end Yaml
end CurveSheet
