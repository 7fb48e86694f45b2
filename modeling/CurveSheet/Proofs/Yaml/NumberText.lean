/-
# Numbers as plain scalars

A number is written so that its text, as a plain scalar, stands for this number
(`plainMeaning_chars`).  The text of a finite number has a point or an exponent, so
it is no integer, and it starts like no word that stands for something else.
-/

import CurveSheet.Proofs.Number.Characters
import CurveSheet.Proofs.Number.ReadBack
import CurveSheet.Yaml.Meaning

namespace CurveSheet

namespace Yaml

/-! ### What such texts are not -/

/-- A digit or a minus sign. -/
def startsNumber (c : Char) : Bool := isDigit c || c == '-'

variable {text : List Char}

theorem beq_eq_false_of_head (htext : text.head?.any startsNumber = true) {word : List Char}
    (hword : word.head?.any startsNumber = false) : (word == text) = false := by
  rw [beq_eq_false_iff_ne]
  rintro rfl
  rw [htext] at hword
  cases hword

/-- The text is none of some words that start in another way. -/
theorem any_word_eq_false (htext : text.head?.any startsNumber = true) {words : List String}
    (hwords : (words.all fun word => !word.toList.head?.any startsNumber) = true) :
    words.any (·.toList == text) = false := by
  rw [List.any_eq_false]
  intro word hword
  have := List.all_eq_true.1 hwords word hword
  rw [Bool.not_eq_true, beq_eq_false_of_head htext]
  simpa using this

theorem isNullWord_eq_false (htext : text.head?.any startsNumber = true) :
    isNullWord text = false := any_word_eq_false htext (by decide)

theorem boolean?_eq_none (htext : text.head?.any startsNumber = true) : boolean? text = none := by
  unfold boolean?
  rw [any_word_eq_false htext (by decide), any_word_eq_false htext (by decide)]
  rfl

theorem isInfinityWord_eq_false (htext : text.head?.any startsNumber = true) :
    isInfinityWord text = false := any_word_eq_false htext (by decide)

/-- A character that is no digit makes digits none. -/
theorem digits?_eq_none {c : Char} (hc : c ∈ text) (hdigit : (hexDigit? c).filter (· < 10) = none) :
    digits? 10 text = none := by
  have hfold : ∀ (n : Nat) (text : List Char), c ∈ text →
      text.foldlM (pushDigit? 10) n = none := by
    intro n text hc
    induction text generalizing n with
    | nil => exact absurd hc List.not_mem_nil
    | cons d rest ih =>
      rw [List.foldlM_cons]
      rcases List.mem_cons.1 hc with rfl | hc
      · rw [pushDigit?, hdigit]
        rfl
      · cases pushDigit? 10 n d with
        | none => rfl
        | some m => exact ih m hc
  unfold digits?
  rw [hfold 0 text hc]
  split <;> rfl

/-- Digits with a point or an exponent among them are no integer. -/
theorem magnitude?_eq_none (hnumeric : ∀ c ∈ text, isNumeric c = true)
    (hpoint : '.' ∈ text ∨ 'e' ∈ text) : magnitude? text = none := by
  have hsecond : ∀ {c d : Char} {rest : List Char}, text = c :: d :: rest →
      isNumeric d = false → False := by
    rintro c d rest rfl hd
    have := hnumeric d (List.mem_cons_of_mem _ (List.mem_cons_self ..))
    rw [hd] at this
    cases this
  have hdigits : digits? 10 text = none := by
    rcases hpoint with h | h
    · exact digits?_eq_none h (by decide)
    · exact digits?_eq_none h (by decide)
  unfold magnitude?
  split
  · exact (hsecond rfl (by decide)).elim
  · exact (hsecond rfl (by decide)).elim
  · exact (hsecond rfl (by decide)).elim
  · rw [hdigits]
    split <;> rfl

/-- Nor are they padded with zeros. -/
theorem isPadded_eq_false (hpoint : '.' ∈ text ∨ 'e' ∈ text) : isPadded text = false := by
  have hsign : ∀ c, c ≠ '-' → c ≠ '+' → c ∈ text → c ∈ (splitSign text).2 := by
    intro c hminus hplus hc
    unfold splitSign
    split
    · exact (List.mem_cons.1 hc).resolve_left hminus
    · exact (List.mem_cons.1 hc).resolve_left hplus
    · exact hc
  have hrest : '.' ∈ (splitSign text).2 ∨ 'e' ∈ (splitSign text).2 :=
    hpoint.imp (hsign _ (by decide) (by decide)) (hsign _ (by decide) (by decide))
  unfold isPadded
  split
  next rest heq =>
    rw [Bool.and_eq_false_iff]
    right
    rw [List.all_eq_false]
    rw [heq] at hrest
    rcases hrest with h | h
    · exact ⟨'.', (List.mem_cons.1 h).resolve_left (by decide), by decide⟩
    · exact ⟨'e', (List.mem_cons.1 h).resolve_left (by decide), by decide⟩
  next => rfl

theorem dropPlus_eq_self (h : text.head? ≠ some '+') : dropPlus text = text := by
  unfold dropPlus
  split
  · exact absurd rfl h
  · rfl

/-- A text that starts with a digit has no sign. -/
theorem head?_ne_of_digit (hdigit : text.head?.any isDigit = true) {c : Char}
    (hc : isDigit c = false) : text.head? ≠ some c := by
  intro hhead
  rw [hhead, Option.any_some, hc] at hdigit
  cases hdigit

/-- Without a sign, an integer is a count. -/
theorem integer?_eq_none (hdigit : text.head?.any isDigit = true) (hnone : magnitude? text = none) :
    integer? text = none := by
  unfold integer?
  split
  · exact absurd rfl (head?_ne_of_digit hdigit (by decide))
  · rw [natural?, dropPlus_eq_self (head?_ne_of_digit hdigit (by decide)), hnone]
    rfl

/-! ### What they stand for -/

theorem plainMeaning_of_real {x : Binary64} (htext : text.head?.any startsNumber = true)
    (hinteger : integer? text = none) (hpadded : isPadded text = false)
    (hreal : real? text = some x) : plainMeaning text = .real x := by
  have hne : text.isEmpty = false := by
    cases text with
    | nil => cases htext
    | cons => rfl
  unfold plainMeaning
  rw [hne, isNullWord_eq_false htext, Bool.or_false, if_neg Bool.false_ne_true,
    boolean?_eq_none htext, hinteger, hpadded, if_neg Bool.false_ne_true, hreal]

theorem real?_of_read? {x : Finite} (htext : text.head?.any startsNumber = true)
    (htail : text.head? = some '-' → isInfinityWord text.tail = false)
    (hread : Binary64.read? text = some (.finite x)) : real? text = some (.finite x) := by
  have hplus : text.head? ≠ some '+' := fun h => by
    rw [h] at htext
    exact absurd htext (by decide)
  unfold real?
  rw [dropPlus_eq_self hplus, isInfinityWord_eq_false htext, if_neg Bool.false_ne_true,
    if_neg fun h => by rw [htail h.1] at h; exact Bool.false_ne_true h.2,
    any_word_eq_false htext (by decide), if_neg Bool.false_ne_true]
  split
  · exact absurd rfl hplus
  · exact absurd rfl hplus
  · rw [hread]
    rfl

/-- **A number stands for itself.** -/
theorem plainMeaning_chars (x : Binary64) : plainMeaning (Layout.yaml.chars x) = .real x := by
  cases x with
  | nan => rfl
  | infinite negative => cases negative <;> rfl
  | finite x =>
    have hnumeric : ∀ c ∈ Layout.yaml.magnitudeChars x.rank, isNumeric c = true := fun c hc =>
      Layout.yaml.isNumeric_of_mem_magnitudeChars hc
    have hpoint := (Layout.isMeasure_magnitudeChars (rfl : Layout.yaml.wholeFraction = true)
      x.rank).mem
    obtain ⟨c, rest, hcons, hc⟩ := Layout.yaml.exists_magnitudeChars_eq_cons x.rank
    have hread := Layout.read?_finiteChars Layout.yaml x
    show plainMeaning (Layout.yaml.finiteChars x) = _
    unfold Layout.finiteChars at hread ⊢
    generalize Layout.yaml.magnitudeChars x.rank = magnitude at *
    have hdigit : magnitude.head?.any isDigit = true := by
      rw [hcons]
      exact hc
    have hmagnitude : magnitude.head?.any startsNumber = true := by
      rw [hcons, List.head?_cons, Option.any_some, startsNumber, hc, Bool.true_or]
    have hnone := magnitude?_eq_none hnumeric hpoint
    generalize x.negative = negative at hread ⊢
    cases negative with
    | true =>
      rw [if_pos rfl, List.singleton_append] at hread ⊢
      refine plainMeaning_of_real rfl ?_ ?_ (real?_of_read? rfl (fun _ =>
        isInfinityWord_eq_false hmagnitude) hread)
      · rw [integer?, hnone]
        rfl
      · exact isPadded_eq_false (hpoint.imp (List.mem_cons_of_mem _) (List.mem_cons_of_mem _))
    | false =>
      rw [if_neg Bool.false_ne_true, List.nil_append] at hread ⊢
      have hreal := real?_of_read? hmagnitude
        (fun h => absurd h (head?_ne_of_digit hdigit (by decide))) hread
      exact plainMeaning_of_real hmagnitude (integer?_eq_none hdigit hnone)
        (isPadded_eq_false hpoint) hreal

/-! ### Counts -/

/-- Digits have their value. -/
theorem digits?_eq_some {digits : List Char} (hne : digits ≠ [])
    (h : ∀ c ∈ digits, isDigit c = true) : digits? 10 digits = some (digitsValue digits) := by
  have hpush : ∀ c, isDigit c = true → ∀ n,
      pushDigit? 10 n c = some (10 * n + (c.toNat - '0'.toNat)) := by
    intro c hc n
    have hdecimal : isDecimal c = true := hc
    simp only [isDigit, Bool.and_eq_true, decide_eq_true_eq, Char.le_def,
      UInt32.le_iff_toNat_le] at hc
    have hless : c.toNat - '0'.toNat < 10 := by
      have hnine : c.toNat ≤ '9'.toNat := hc.2
      have : '9'.toNat = '0'.toNat + 9 := rfl
      omega
    rw [pushDigit?, hexDigit?, if_pos hdecimal, Option.filter_some, if_pos (decide_eq_true hless)]
    rfl
  have hfold : ∀ (digits : List Char) (n : Nat), (∀ c ∈ digits, isDigit c = true) →
      digits.foldlM (pushDigit? 10) n =
        some (digits.foldl (fun n c => 10 * n + (c.toNat - '0'.toNat)) n) := by
    intro digits n h
    induction digits generalizing n with
    | nil => rfl
    | cons c rest ih =>
      rw [List.foldlM_cons, hpush c (h c (List.mem_cons_self ..))]
      exact ih _ fun d hd => h d (List.mem_cons_of_mem _ hd)
  rw [digits?, if_neg (by simpa using hne)]
  exact hfold digits 0 h

/-- **A count is read back.** -/
theorem natural?_toDigits {limit n : Nat} (hn : n < limit) :
    natural? limit (Nat.toDigits 10 n) = some n := by
  have hdigits : ∀ c ∈ Nat.toDigits 10 n, isDigit c = true := fun _ hc =>
    isDigit_of_mem_toDigits hc
  have hvalue := digits?_eq_some Nat.toDigits_ne_nil hdigits
  rw [digitsValue_toDigits] at hvalue
  have hfirst : n ≠ 0 → (Nat.toDigits 10 n).head? ≠ some '0' := head?_toDigits_ne_zero
  have hmagnitude : magnitude? (Nat.toDigits 10 n) = some n := by
    by_cases hzero : n = 0
    · subst hzero
      rfl
    · have hpadded : isPadded (Nat.toDigits 10 n) = false := by
        rw [isPadded, splitSign_toDigits]
        dsimp only
        split <;> rename_i heq
        · exact absurd (by rw [heq]; rfl) (hfirst hzero)
        · rfl
      unfold magnitude?
      split <;> rename_i heq
      · exact absurd (by rw [heq]; rfl) (hfirst hzero)
      · exact absurd (by rw [heq]; rfl) (hfirst hzero)
      · exact absurd (by rw [heq]; rfl) (hfirst hzero)
      · rw [hpadded, if_neg Bool.false_ne_true, hvalue]
  have hplus : (Nat.toDigits 10 n).head? ≠ some '+' := fun h =>
    absurd (hdigits '+' (List.mem_of_head? h)) (by decide)
  rw [natural?, dropPlus_eq_self hplus, hmagnitude, Option.filter_some, if_pos (decide_eq_true hn)]

end Yaml
end CurveSheet
