/-
# Words of letters and numbers

Small letters and the characters of numbers mean nothing to a reader of plain scalars, but
for a dash that stands alone.  Numbers, booleans and the names of fields are words of them.
-/

import CurveSheet.Proofs.Number.Characters
import CurveSheet.Proofs.Number.ReadBack
import CurveSheet.Proofs.Yaml.Scalar.Plain

namespace CurveSheet
namespace Yaml

/-- A small letter. -/
def isLetter (c : Char) : Bool := 'a' ≤ c && c ≤ 'z'

/-- A small letter, or a character of the text of a number. -/
def isWordChar (c : Char) : Bool := isLetter c || isNumeric c

theorem ne_of_isLetter {c d : Char} (h : isLetter c = true) (hd : isLetter d = false) : c ≠ d := by
  rintro rfl
  rw [h] at hd
  cases hd

theorem isWordChar_of_isLetter {c : Char} (h : isLetter c = true) : isWordChar c = true := by
  rw [isWordChar, h, Bool.true_or]

theorem isWordChar_of_isNumeric {c : Char} (h : isNumeric c = true) : isWordChar c = true := by
  rw [isWordChar, h, Bool.or_true]

section

variable {c : Char} (h : isWordChar c = true)

include h

theorem ne_of_isWordChar {d : Char} (hd : isWordChar d = false) : c ≠ d := by
  rintro rfl
  rw [h] at hd
  cases hd

theorem not_mem_of_isWordChar {others : List Char} (hothers : others.all (!isWordChar ·) = true) :
    c ∉ others := by
  intro hc
  have := List.all_eq_true.1 hothers c hc
  rw [h] at this
  cases this

theorem isSeparator_eq_false_of_isWordChar : isSeparator c = false := by
  have hmem := not_mem_of_isWordChar h
    (by decide : [' ', '\t', '\n', '\r', '\u0085', '\u2028', '\u2029'].all (!isWordChar ·) = true)
  simpa [isSeparator, isGap, isBreak, and_assoc] using hmem

theorem isOpening_eq_false_of_isWordChar : isOpening c = false := by
  have hmem := not_mem_of_isWordChar h (by decide : [',', '[', ']', '\x7b', '\x7d', '#', '&', '*',
    '!', '|', '>', '\'', '"', '%', '@', '\x60'].all (!isWordChar ·) = true)
  simpa [isOpening, isFlowIndicator, and_assoc] using hmem

theorem isAllowed_of_isWordChar : isAllowed c = true := by
  have hrange {low high : Char} (hlow : 0x20 ≤ low.val.toNat) (hhigh : high.val.toNat ≤ 0x7E)
      (h : low.val.toNat ≤ c.val.toNat ∧ c.val.toNat ≤ high.val.toNat) : isAllowed c = true := by
    have hcode : 0x20 ≤ c.toNat ∧ c.toNat ≤ 0x7E :=
      ⟨Nat.le_trans hlow h.1, Nat.le_trans h.2 hhigh⟩
    simp [isAllowed, hcode]
  simp only [isWordChar, isLetter, isNumeric, isDigit, Bool.or_eq_true, Bool.and_eq_true,
    decide_eq_true_eq, beq_iff_eq, Char.le_def, UInt32.le_iff_toNat_le] at h
  rcases h with hletter | (((hdigit | rfl) | rfl) | rfl) | rfl
  · exact hrange (by decide) (by decide) hletter
  · exact hrange (by decide) (by decide) hdigit
  all_goals decide

end

/-! ### Words -/

/-- A word of such characters, but no single dash. -/
structure IsWord (word : List Char) : Prop where
  chars : ∀ c ∈ word, isWordChar c = true
  ne_nil : word ≠ []
  ne_dash : word ≠ ['-']

/-- **A word is plain.** -/
theorem IsWord.isPlain {word : List Char} (h : IsWord word) :
    IsPlain word ∧ opensPlain word = true := by
  have hplain : IsPlain word := .of_word h.ne_nil fun c hc =>
    ⟨isSeparator_eq_false_of_isWordChar (h.chars c hc),
      ne_of_isWordChar (h.chars c hc) (by decide), ne_of_isWordChar (h.chars c hc) (by decide)⟩
  refine ⟨hplain, ?_⟩
  obtain ⟨c, rest, rfl⟩ := List.exists_cons_of_ne_nil h.ne_nil
  have hc := h.chars c (List.mem_cons_self ..)
  have hquestion : (c == '?') = false := beq_eq_false_iff_ne.2 (ne_of_isWordChar hc (by decide))
  have hcolon : (c == ':') = false := beq_eq_false_iff_ne.2 (ne_of_isWordChar hc (by decide))
  have hends : ((c == '-') && endsWord rest.head?) = false := by
    cases rest with
    | nil =>
      rw [beq_eq_false_iff_ne.2 fun hc => h.ne_dash (by rw [hc])]
      rfl
    | cons d rest =>
      have hd : isSeparator d = false :=
        isSeparator_eq_false_of_isWordChar (h.chars d (by simp))
      rw [List.head?_cons, endsWord, hd, Bool.and_false]
  simp [opensPlain, isOpening_eq_false_of_isWordChar hc, hquestion, hcolon, hends]

theorem IsWord.all_isAllowed {word : List Char} (h : IsWord word) : word.all isAllowed = true :=
  List.all_eq_true.2 fun c hc => isAllowed_of_isWordChar (h.chars c hc)

/-- The text of a number is a word. -/
theorem isWord_chars (x : Binary64) : IsWord (Layout.yaml.chars x) := by
  have hword {word : List Char} (h : word.all isWordChar = true) (hne : word ≠ [])
      (hdash : word ≠ ['-']) : IsWord word := ⟨List.all_eq_true.1 h, hne, hdash⟩
  cases x with
  | nan => exact hword (by decide) (by decide) (by decide)
  | infinite negative =>
    cases negative <;> exact hword (by decide) (by decide) (by decide)
  | finite x =>
    obtain ⟨c, rest, hcons, hc⟩ := Layout.yaml.exists_magnitudeChars_eq_cons x.rank
    have hmagnitude : ∀ d ∈ c :: rest, isWordChar d = true := fun d hd =>
      isWordChar_of_isNumeric (Layout.yaml.isNumeric_of_mem_magnitudeChars (hcons ▸ hd))
    change IsWord ((if x.negative then ['-'] else []) ++ Layout.yaml.magnitudeChars x.rank)
    rw [hcons]
    split
    · exact ⟨List.forall_mem_cons.2 ⟨by decide, hmagnitude⟩, by simp, by simp⟩
    · refine ⟨hmagnitude, by simp, fun hdash => ?_⟩
      rw [(List.cons.inj hdash).1] at hc
      cases hc

/-- A count is a word. -/
theorem isWord_toDigits (n : Nat) : IsWord (Nat.toDigits 10 n) := by
  refine ⟨fun c hc => ?_, Nat.toDigits_ne_nil, fun hdash => ?_⟩
  · exact isWordChar_of_isNumeric (isNumeric_of_isDigit (isDigit_of_mem_toDigits hc))
  · exact absurd (isDigit_of_mem_toDigits (n := n) (by rw [hdash]; exact List.mem_singleton_self _))
      (by decide)

end Yaml
end CurveSheet
