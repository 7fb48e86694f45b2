/-
# Repairs keep the kind of a formula

Whether a formula is explicit, implicit or none of both is decided by few of its characters:
the equals signs, and the last visible character before the first of them
(`map_kind_classify`).  Reading a text from the left they make up its *outline*, and all plain
characters, those that are no marks, do the same to it (`Outline.next_of_not_isMark`).  What a
repair replaces has no equals sign and ends in a plain character, and so does what it writes;
lower case turns plain characters into plain ones.  So a text and its normal form have one
outline, and one kind or one error (`classify_normalize`).
-/

import CurveSheet.Proofs.Engine.Sides
import CurveSheet.Proofs.Formula.Repair
import CurveSheet.Proofs.Formula.Separator
import CurveSheet.Proofs.Text.Caseless

namespace CurveSheet
namespace Formula

open Text

/-! ### Outlines -/

/-- What of a text decides its kind: the number of its equals signs, and the comparison sign that
is the last visible character before the first of them. -/
structure Outline where
  equals : Nat
  sign : Option Char

namespace Outline

/-- The outline with one more character read. -/
def next (outline : Outline) (c : Char) : Outline :=
  if c = '=' then { outline with equals := outline.equals + 1 }
  else if outline.equals ≠ 0 ∨ isBlank c = true then outline
  else { outline with sign := (some c).filter isComparisonSign }

/-- The outline of a text, behind one that has been read. -/
def past (outline : Outline) (text : List Char) : Outline := text.foldl next outline

/-- The outline with one more visible character that is no sign. -/
def plain (outline : Outline) : Outline :=
  if outline.equals = 0 then ⟨0, none⟩ else outline

/-- The kind that an outline stands for, or the error. -/
def kind : Outline → Except RowError Kind
  | ⟨0, _⟩ => .ok .explicit
  | ⟨1, none⟩ => .ok .implicit
  | ⟨1, some sign⟩ => .error (.comparison (comparisonOf sign))
  | ⟨count + 2, _⟩ => .error (.equation (count + 2))

end Outline

/-- An equals sign, a blank or the start of a comparison. -/
def isMark (c : Char) : Bool := c == '=' || isBlank c || isComparisonSign c

theorem Outline.past_append (outline : Outline) (left right : List Char) :
    outline.past (left ++ right) = (outline.past left).past right := List.foldl_append ..

theorem Outline.next_of_not_isMark (outline : Outline) {c : Char} (hc : isMark c = false) :
    outline.next c = outline.plain := by
  simp only [isMark, Bool.or_eq_false_iff, beq_eq_false_iff_ne] at hc
  obtain ⟨⟨hequals, hblank⟩, hsign⟩ := hc
  obtain ⟨equals, sign⟩ := outline
  cases equals <;> simp [next, plain, hequals, hblank, hsign]

theorem Outline.plain_next (outline : Outline) {c : Char} (hc : c ≠ '=') :
    (outline.next c).plain = outline.plain := by
  obtain ⟨equals, sign⟩ := outline
  by_cases hblank : isBlank c = true
  · simp [next, hc, hblank]
  · cases equals <;> simp [next, plain, hc, hblank]

theorem Outline.plain_past (outline : Outline) {text : List Char} (h : '=' ∉ text) :
    (outline.past text).plain = outline.plain := by
  induction text generalizing outline with
  | nil => rfl
  | cons c text ih =>
    rw [List.mem_cons, not_or] at h
    exact (ih _ h.2).trans (outline.plain_next (Ne.symm h.1))

/-- **A piece of text without equals signs that ends in no mark** is like a single
character. -/
theorem Outline.past_eq_plain (outline : Outline) {piece : List Char} {last : Char}
    (hequals : '=' ∉ piece) (hlast : piece.getLast? = some last) (hmark : isMark last = false) :
    outline.past piece = outline.plain := by
  obtain ⟨front, rfl⟩ := List.getLast?_eq_some_iff.1 hlast
  rw [List.mem_append, not_or] at hequals
  rw [past_append]
  exact ((outline.past front).next_of_not_isMark hmark).trans (outline.plain_past hequals.1)

/-! ### The kind of a text -/

theorem comparisonSign?_concat (left : List Char) (c : Char) :
    comparisonSign? (left ++ [c]) =
      if isBlank c then comparisonSign? left else (some c).filter isComparisonSign := by
  by_cases hc : isBlank c = true
  · rw [if_pos hc, comparisonSign?, trimEndChars_append_blanks _ _ (by simpa using hc)]
    rfl
  · rw [if_neg hc]
    simp [comparisonSign?, trimEndChars, hc]

theorem takeWhile_ne_equals {left : List Char} (h : '=' ∉ left) (right : List Char) :
    (left ++ '=' :: right).takeWhile (· != '=') = left ∧ left.takeWhile (· != '=') = left := by
  have hleft : left.takeWhile (· != '=') = left :=
    List.takeWhile_eq_self_iff.2 (ne_equals_of_not_mem h)
  exact ⟨by rw [takeWhile_append_cons (by decide), hleft], hleft⟩

/-- **The outline of a text,** without reading it from the left. -/
theorem past_eq (text : List Char) : (Outline.mk 0 none).past text =
    ⟨text.count '=', comparisonSign? (text.takeWhile (· != '='))⟩ := by
  induction text using List.reverseRecOn with
  | nil => rfl
  | append_singleton text c ih =>
    rw [Outline.past_append, ih, List.count_append]
    change Outline.next _ c = _
    by_cases hmem : '=' ∈ text
    · obtain ⟨left, right, rfl, hleft⟩ := List.eq_append_cons_of_mem hmem
      have hmore : (left ++ '=' :: right ++ [c]).takeWhile (· != '=') = left := by
        rw [List.append_assoc, List.cons_append]
        exact (takeWhile_ne_equals hleft _).1
      have hpos : (left ++ '=' :: right).count '=' ≠ 0 := by simp
      rw [hmore, (takeWhile_ne_equals hleft right).1]
      by_cases hc : c = '='
      · simp [Outline.next, hc]
      · simp [Outline.next, hc, List.count_cons_of_ne hc]
    · have htext : text.takeWhile (· != '=') = text := (takeWhile_ne_equals hmem []).2
      by_cases hc : c = '='
      · subst hc
        rw [(takeWhile_ne_equals hmem []).1, htext]
        simp [Outline.next]
      · have hmore : (text ++ [c]).takeWhile (· != '=') = text ++ [c] :=
          (takeWhile_ne_equals (by simp [hmem, Ne.symm hc]) []).2
        rw [hmore, htext, comparisonSign?_concat, List.count_eq_zero_of_not_mem hmem,
          List.count_cons_of_ne hc]
        by_cases hblank : isBlank c = true <;> simp [Outline.next, hc, hblank]

/-- **The kind of a text is that of its outline.** -/
theorem map_kind_classify (text : String) :
    (classify text).map Classified.kind = ((Outline.mk 0 none).past text.toList).kind := by
  rw [past_eq]
  by_cases hmem : '=' ∈ text.toList
  · obtain ⟨left, right, htext, hleft⟩ := List.eq_append_cons_of_mem hmem
    rw [classify_of_eq_append htext hleft, htext, (takeWhile_ne_equals hleft right).1,
      List.count_append, List.count_eq_zero_of_not_mem hleft, List.count_cons_self, Nat.zero_add]
    cases right.count '=' with
    | zero => cases comparisonSign? left <;> rfl
    | succ count => rfl
  · rw [classify_of_not_mem hmem, List.count_eq_zero_of_not_mem hmem]
    rfl

/-! ### What keeps the outline -/

theorem isMark_eq_false_of_isRunChar {c : Char} (h : isRunChar c = true) : isMark c = false := by
  have hequals : c ≠ '=' := by
    rintro rfl
    exact absurd h (by decide)
  have hsign : isComparisonSign c = false := by
    rw [Bool.eq_false_iff]
    intro hc
    simp only [isComparisonSign, Bool.or_eq_true, beq_iff_eq] at hc
    rcases hc with (rfl | rfl) | rfl <;> exact absurd h (by decide)
  simp [isMark, hequals, hsign, isBlank_eq_false_of_isRunChar h]

theorem isMark_eq_false_of_isParenthesis {c : Char} (h : isParenthesis c = true) :
    isMark c = false := by
  simp only [isParenthesis, Bool.or_eq_true, beq_iff_eq] at h
  rcases h with ((rfl | rfl) | rfl) | rfl <;> decide

/-- **What a repair writes does to the outline what it replaces would have done.** -/
theorem past_repaired {typed repaired after : List Char} (h : Repair typed repaired after)
    (outline : Outline) : outline.past repaired = outline.past typed := by
  have hequals : '=' ∉ typed := h.not_mem_typed (by decide) (by decide) (by decide)
  cases h with
  | logarithm hend =>
    rw [outline.past_eq_plain (by decide) (by rfl) (show isMark 'g' = false by decide),
      outline.past_eq_plain (by decide) (by rfl) (show isMark 'n' = false by decide)]
  | @call name blanks run _ hname hblanks hne hrun hend =>
    obtain ⟨last, hlast⟩ := Option.ne_none_iff_exists'.1 (mt List.getLast?_eq_none_iff.1 hne)
    have hmark : isMark last = false :=
      isMark_eq_false_of_isRunChar (hrun last (List.mem_of_getLast? hlast))
    have htyped : (name.toList ++ blanks ++ run).getLast? = some last := by
      rw [List.getLast?_append, hlast, Option.some_or]
    have hrepaired : '=' ∉ name.toList ++ '(' :: run ++ [')'] := by
      simp only [List.mem_append, not_or] at hequals
      simp [hequals]
    rw [outline.past_eq_plain hequals htyped hmark,
      outline.past_eq_plain hrepaired List.getLast?_concat (by decide)]

theorem past_repairStep {text result : List Char} (h : RepairStep text result)
    (outline : Outline) : outline.past result = outline.past text := by
  obtain ⟨before, typed, repaired, after, hrepair, -, rfl, rfl⟩ := repairStep_iff.1 h
  simp only [Outline.past_append, past_repaired hrepair]

theorem isCaseless_isMark : IsCaseless isMark :=
  ((isCaseless_beq (by decide +kernel)).or isCaseless_isBlank).or
    (((isCaseless_beq (by decide +kernel)).or (isCaseless_beq (by decide +kernel))).or
      (isCaseless_beq (by decide +kernel)))

theorem past_lowerFrom (outline : Outline) (before text : List Char) :
    outline.past (lowerFrom before text) = outline.past text := by
  induction text generalizing outline before with
  | nil => rfl
  | cons c after ih =>
    have hform : outline.past (lowerAt before c after) = outline.next c := by
      by_cases hc : isMark c = true
      · rw [lowerAt_eq_self (isCaseless_isMark.unchanged hc)]
        rfl
      · rw [Bool.not_eq_true] at hc
        have hmarks : ∀ d ∈ lowerAt before c after, isMark d = false := fun d hd =>
          isCaseless_isMark.unwritten hc hd
        obtain ⟨last, hlast⟩ := Option.ne_none_iff_exists'.1
          (mt List.getLast?_eq_none_iff.1 (lowerAt_ne_nil before c after))
        rw [outline.next_of_not_isMark hc]
        exact outline.past_eq_plain (fun hequals => absurd (hmarks _ hequals) (by decide)) hlast
          (hmarks last (List.mem_of_getLast? hlast))
    rw [lowerFrom, Outline.past_append, hform, ih]
    rfl

theorem past_map_foldWidth (outline : Outline) (text : List Char) :
    outline.past (text.map foldWidth) = outline.past text := by
  have hchar (outline : Outline) (c : Char) : outline.next (foldWidth c) = outline.next c := by
    rcases foldWidth_cases c with hsame | ⟨hparen, hfolded⟩
    · rw [hsame]
    · rw [outline.next_of_not_isMark (isMark_eq_false_of_isParenthesis hparen),
        outline.next_of_not_isMark (isMark_eq_false_of_isParenthesis hfolded)]
  rw [Outline.past, Outline.past, List.foldl_map]
  simp only [hchar]

/-- **The normal form of a text is explicit, implicit or an error as the text is,** and the
error is the same, with its number of equals signs or its comparison. -/
theorem classify_normalize (text : String) :
    (classify (normalize text)).map Classified.kind = (classify text).map Classified.kind := by
  have hrepaired : (Outline.mk 0 none).past (normalize text).toList =
      (Outline.mk 0 none).past (foldCase text.toList) := by
    rw [toList_normalize]
    exact (repairs_normalChars text.toList).eq_of_step fun h => past_repairStep h _
  rw [map_kind_classify, map_kind_classify, hrepaired, foldCase, past_map_foldWidth, lower,
    past_lowerFrom]

end Formula
end CurveSheet
