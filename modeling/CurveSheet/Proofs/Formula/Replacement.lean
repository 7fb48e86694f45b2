/-
# What applying a rule does

A rule goes through a text and at every place either keeps a character or, at the
start of a word, replaces what the rule matches there.  `Rule.Gives` says this without
the count of covered characters by which the program does it (`Rule.applyFrom`), and
`Rule.gives_apply` says that the program does it.  What holds of every replacement and of
every kept character then holds of the whole result, by induction on `Rule.Gives`.
-/

import CurveSheet.Formula.Normal

namespace CurveSheet
namespace Formula

open Text

/-- The rule replaces at least one character, and no more than there are. -/
def Rule.IsProper (rule : Rule) : Prop :=
  ∀ ⦃text replacement width⦄, rule text = some (replacement, width) →
    0 < width ∧ width ≤ text.length

/-- What a rule makes of a text that stands behind a word character or not. -/
inductive Rule.Gives (rule : Rule) : (inWord : Bool) → (text result : List Char) → Prop
  | done {inWord : Bool} : Gives rule inWord [] []
  | keep {inWord : Bool} {c : Char} {rest result : List Char}
      (hrule : inWord = false → rule (c :: rest) = none)
      (hrest : Gives rule (isWordChar c) rest result) :
      Gives rule inWord (c :: rest) (c :: result)
  | replace {replacement matched rest result : List Char} {last : Char}
      (hrule : rule (matched ++ last :: rest) = some (replacement, matched.length + 1))
      (hrest : Gives rule (isWordChar last) rest result) :
      Gives rule false (matched ++ last :: rest) (replacement ++ result)

/-- Covered characters are passed over; the last of them stands before what follows. -/
theorem Rule.applyFrom_covered (rule : Rule) (matched : List Char) (last : Char)
    (rest : List Char) (inWord : Bool) :
    rule.applyFrom (matched.length + 1) inWord (matched ++ last :: rest) =
      rule.applyFrom 0 (isWordChar last) rest := by
  induction matched generalizing inWord with
  | nil => rfl
  | cons c matched ih => exact ih _

theorem Rule.applyFrom_replace {rule : Rule} {replacement matched rest : List Char} {last : Char}
    (h : rule (matched ++ last :: rest) = some (replacement, matched.length + 1)) :
    rule.applyFrom 0 false (matched ++ last :: rest) =
      replacement ++ rule.applyFrom 0 (isWordChar last) rest := by
  cases matched with
  | nil =>
    rw [List.nil_append] at h ⊢
    simp [Rule.applyFrom, h]
  | cons c matched =>
    rw [List.cons_append] at h ⊢
    simp only [Rule.applyFrom, Bool.false_eq_true, if_false, h, List.length_cons,
      Nat.add_sub_cancel]
    rw [Rule.applyFrom_covered]

theorem Rule.applyFrom_keep {rule : Rule} {inWord : Bool} {c : Char} {rest : List Char}
    (h : inWord = false → rule (c :: rest) = none) :
    rule.applyFrom 0 inWord (c :: rest) = c :: rule.applyFrom 0 (isWordChar c) rest := by
  cases inWord with
  | true => rfl
  | false => simp [Rule.applyFrom, h rfl]

/-- **Applying a proper rule gives what the rule gives.**  By induction on the length of
the text: a replacement leaves a text that is shorter by the width of the match. -/
theorem Rule.gives_applyFrom {rule : Rule} (hproper : rule.IsProper) (inWord : Bool)
    (text : List Char) : rule.Gives inWord text (rule.applyFrom 0 inWord text) := by
  induction hlength : text.length using Nat.strongRecOn generalizing inWord text with
  | _ n ih =>
    cases text with
    | nil => exact .done
    | cons c rest =>
      have hkeep : (inWord = false → rule (c :: rest) = none) →
          rule.Gives inWord (c :: rest) (rule.applyFrom 0 inWord (c :: rest)) := by
        intro hrule
        rw [Rule.applyFrom_keep hrule]
        exact .keep hrule (ih rest.length (by simp [← hlength]) _ _ rfl)
      cases inWord with
      | true => exact hkeep (by simp)
      | false =>
        cases hrule : rule (c :: rest) with
        | none => exact hkeep fun _ => hrule
        | some found =>
          obtain ⟨replacement, width⟩ := found
          obtain ⟨hpos, hle⟩ := hproper hrule
          obtain ⟨matched, last, behind, htext, hwidth⟩ :
              ∃ matched last behind, c :: rest = matched ++ last :: behind ∧
                width = matched.length + 1 := by
            refine ⟨(c :: rest).take (width - 1), (c :: rest)[width - 1], (c :: rest).drop width,
              ?_, ?_⟩
            · have hdrop : (c :: rest).drop (width - 1) =
                  (c :: rest)[width - 1] :: (c :: rest).drop width := by
                rw [List.drop_eq_getElem_cons (by omega), Nat.sub_add_cancel hpos]
              rw [← hdrop, List.take_append_drop]
            · rw [List.length_take, Nat.min_eq_left (by omega)]
              omega
          rw [htext] at hrule ⊢
          rw [hwidth] at hrule
          rw [Rule.applyFrom_replace hrule]
          refine .replace hrule (ih behind.length ?_ _ _ rfl)
          rw [← hlength, htext]
          simp
          omega

theorem Rule.gives_apply {rule : Rule} (hproper : rule.IsProper) (text : List Char) :
    rule.Gives false text (rule.apply text) := rule.gives_applyFrom hproper false text

end Formula
end CurveSheet
