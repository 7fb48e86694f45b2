/-
# Written scalars

Whatever style is chosen for a text, what is written is a scalar of that style that is read
as the text (`writtenAs_written`), and it stands for the text and nothing else
(`meaning_written`).
-/

import CurveSheet.Proofs.Yaml.Scalar.Literal
import CurveSheet.Proofs.Yaml.Scalar.Plain
import CurveSheet.Proofs.Yaml.Scalar.QuotedText

namespace CurveSheet
namespace Yaml

/-- The characters, with the end of their line, are a scalar with a text and a style; its further
lines have `indent` columns before them. -/
inductive WrittenAs (indent : Nat) : (chars text : List Char) → ScalarStyle → Prop where
  | plain {text : List Char} (h : IsPlain text) (hopens : opensPlain text = true) :
    WrittenAs indent (text ++ ['\n']) text .plain
  | singleQuoted {text body : List Char} (h : Quotes false text body) :
    WrittenAs indent ('\'' :: body ++ ['\n']) text .singleQuoted
  | doubleQuoted {text body : List Char} (h : Quotes true text body) :
    WrittenAs indent ('"' :: body ++ ['\n']) text .doubleQuoted
  | literal {text : List Char} (hshown : ∀ c ∈ text, isShown c = true) (hne : text ≠ []) :
    WrittenAs indent (literal indent text) text .literal

/-- **A text is written in the style that is chosen for it.** -/
theorem writtenAs_written {indent : Nat} (hindent : 0 < indent) (text : List Char) :
    WrittenAs indent (written indent text) text (styleOf text) := by
  have hdouble : WrittenAs indent (doubleQuoted text ++ ['\n']) text .doubleQuoted :=
    .doubleQuoted (quotes_doubleQuoted text)
  unfold written styleOf
  by_cases hfeed : text.contains '\n' = true
  · rw [if_pos hfeed]
    by_cases h : literalAllowed text = true
    · rw [if_pos h]
      simp only [literalAllowed, needsEscapes, Bool.and_eq_true, Bool.not_eq_true',
        Bool.or_eq_false_iff, Bool.not_eq_false', List.all_eq_true] at h
      refine .literal h.1.1 ?_
      rintro rfl
      cases hfeed
    · rw [if_neg h]
      exact hdouble
  · rw [if_neg hfeed]
    by_cases hplain : (readsAsText text && plainAllowed text) = true
    · rw [if_pos hplain]
      obtain ⟨hreads, hallowed⟩ := Bool.and_eq_true _ _ ▸ hplain
      have hne : text ≠ [] := by
        rintro rfl
        cases hreads
      obtain ⟨h, hopens⟩ := isPlain_of_plainAllowed hne hallowed
      exact .plain h hopens
    · rw [if_neg hplain]
      by_cases h : singleQuotedAllowed text = true
      · rw [if_pos h]
        simp only [singleQuoted_eq]
        exact .singleQuoted (quotes_singleQuotedBody hindent h (by simpa using hfeed))
      · rw [if_neg h]
        exact hdouble

/-- Only what reads as text is written without quotes. -/
theorem plainMeaning_of_styleOf {text : List Char} (h : styleOf text = .plain) :
    plainMeaning text = .text text := by
  have hreads : readsAsText text = true := by
    unfold styleOf at h
    split at h
    · split at h <;> cases h
    · split at h
      · rename_i hplain
        exact (Bool.and_eq_true _ _ ▸ hplain).1
      · split at h <;> cases h
  rw [readsAsText, Bool.and_eq_true, beq_iff_eq] at hreads
  exact hreads.1

/-- **What is written for a text stands for this text.** -/
theorem meaning_written (text : List Char) :
    (⟨text, styleOf text, none⟩ : Scalar).meaning = .ok (.text text) := by
  change (if styleOf text = .plain ∧ _ then _ else _) = _
  split
  · rename_i hplain
    rw [plainMeaning_of_styleOf hplain.1]
  · rfl

/-- Nor is it null. -/
theorem isNull_eq_false_of_styleOf {text : List Char} (h : styleOf text = .plain) :
    (text.isEmpty || isNullWord text) = false := by
  have hmeaning := plainMeaning_of_styleOf h
  rw [Bool.eq_false_iff]
  intro hnull
  rw [plainMeaning, if_pos hnull] at hmeaning
  cases hmeaning

end Yaml
end CurveSheet
