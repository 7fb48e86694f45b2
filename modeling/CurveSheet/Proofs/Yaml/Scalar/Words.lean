/-
# Words and gaps

A text is a word, a gap and a text that starts with a word again (`exists_word_gap`), and
so on to its end (`inWords`); scalars are read in this way.  What is known of the
neighbours in a text is known of those in its parts (`hasPair_append`).
-/

import CurveSheet.Proofs.Yaml.Gap

namespace CurveSheet
namespace Yaml

/-! ### Neighbours -/

theorem hasPair_cons {p q : Char → Bool} {a : Char} {text : List Char} :
    hasPair p q (a :: text) = ((p a && text.head?.any q) || hasPair p q text) := by
  cases text with
  | nil => simp [hasPair]
  | cons b rest => rw [hasPair, List.head?_cons, Option.any_some]

/-- The neighbours in two texts in a row are those in each, and the last of the first with the
first of the second. -/
theorem hasPair_append {p q : Char → Bool} {left right : List Char} :
    hasPair p q (left ++ right) =
      (hasPair p q left || hasPair p q right || (left.getLast?.any p && right.head?.any q)) := by
  induction left with
  | nil => simp [hasPair]
  | cons a left ih =>
    rw [List.cons_append, hasPair_cons, hasPair_cons, ih]
    cases left with
    | nil => simp [hasPair, Bool.or_comm]
    | cons b left =>
      simp only [List.cons_append, List.head?_cons, List.getLast?_cons_cons, Bool.or_assoc]

theorem hasPair_of_append {p q : Char → Bool} {left right : List Char}
    (h : hasPair p q (left ++ right) = false) :
    hasPair p q left = false ∧ hasPair p q right = false ∧
      (left.getLast?.any p && right.head?.any q) = false := by
  rw [hasPair_append, Bool.or_eq_false_iff, Bool.or_eq_false_iff] at h
  exact ⟨h.1.1, h.1.2, h.2⟩

theorem hasPair_eq_false_of_left {p q : Char → Bool} {text : List Char}
    (h : ∀ c ∈ text, p c = false) : hasPair p q text = false := by
  induction text with
  | nil => rfl
  | cons c text ih =>
    rw [hasPair_cons, ih fun d hd => h d (List.mem_cons_of_mem _ hd), h c (List.mem_cons_self ..),
      Bool.false_and, Bool.or_false]

theorem hasPair_eq_false_of_right {p q : Char → Bool} {text : List Char}
    (h : ∀ c ∈ text, q c = false) : hasPair p q text = false := by
  induction text with
  | nil => rfl
  | cons c text ih =>
    have hhead : text.head?.any q = false := by
      cases text with
      | nil => rfl
      | cons d text => exact h d (List.mem_cons_of_mem _ (List.mem_cons_self ..))
    rw [hasPair_cons, ih fun d hd => h d (List.mem_cons_of_mem _ hd), hhead, Bool.and_false,
      Bool.or_false]

/-! ### Words -/

/-- **A text is a word, a gap, and a text that starts with a word.** -/
theorem exists_word_gap (p : Char → Bool) (text : List Char) : ∃ word gap rest,
    text = word ++ (gap ++ rest) ∧ (∀ c ∈ word, p c = false) ∧ (∀ c ∈ gap, p c = true) ∧
      rest.head?.any p = false ∧ (gap = [] → rest = []) := by
  have hhead : ∀ (q : Char → Bool) (text : List Char), (text.dropWhile q).head?.any q = false := by
    intro q text
    induction text with
    | nil => rfl
    | cons c text ih =>
      rw [List.dropWhile_cons]
      split
      · exact ih
      · rename_i h
        rw [List.head?_cons, Option.any_some, Bool.eq_false_iff]
        exact h
  refine ⟨text.takeWhile (!p ·), (text.dropWhile (!p ·)).takeWhile p,
    (text.dropWhile (!p ·)).dropWhile p, ?_, ?_, ?_, hhead _ _, ?_⟩
  · rw [List.takeWhile_append_dropWhile, List.takeWhile_append_dropWhile]
  · intro c hc
    simpa using List.all_eq_true.1 List.all_takeWhile c hc
  · exact List.all_eq_true.1 List.all_takeWhile
  · have hrest := hhead (!p ·) text
    cases hdrop : text.dropWhile (!p ·) with
    | nil => exact fun _ => rfl
    | cons c rest =>
      rw [hdrop] at hrest
      have hc : p c = true := by simpa using hrest
      intro hnil
      rw [List.takeWhile_cons_of_pos hc] at hnil
      cases hnil

/-- A text as words with gaps between them; gaps are what `p` holds of. -/
inductive InWords (p : Char → Bool) : List Char → Prop where
  | last {word : List Char} (hword : ∀ c ∈ word, p c = false) : InWords p word
  | gap {word gap rest : List Char} {d : Char} (hword : ∀ c ∈ word, p c = false)
    (hgap : ∀ c ∈ d :: gap, p c = true) (hrest : rest.head?.any p = false)
    (h : InWords p rest) : InWords p (word ++ (d :: gap ++ rest))

/-- **Every text is a row of words and gaps.** -/
theorem inWords (p : Char → Bool) (text : List Char) : InWords p text := by
  induction hlength : text.length using Nat.strongRecOn generalizing text with
  | ind length ih =>
    obtain ⟨word, gap, rest, rfl, hword, hgap, hrest, hnone⟩ := exists_word_gap p text
    cases gap with
    | nil =>
      obtain rfl := hnone rfl
      rw [List.append_nil, List.append_nil]
      exact .last hword
    | cons d gap =>
      have hshorter : rest.length < length := by
        rw [← hlength]
        simp only [List.length_append, List.length_cons]
        omega
      exact .gap hword hgap hrest (ih rest.length hshorter rest rfl)

/-- A text that does not start with a gap starts with a word. -/
theorem word_ne_nil {p : Char → Bool} {word rest : List Char} {d : Char} (hd : p d = true)
    (h : (word ++ d :: rest).head?.any p = false) : word ≠ [] := by
  rintro rfl
  have hnot : p d = false := h
  rw [hd] at hnot
  cases hnot

end Yaml
end CurveSheet
