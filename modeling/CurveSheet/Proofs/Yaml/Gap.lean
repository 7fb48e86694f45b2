/-
# Gaps of written text

Between the words of what is written stand spaces, or line ends with the indentation of
the line that follows.  The readers of scalars (`scanGapFrom`) and of tokens
(`Scanner.gapFrom`) move over both to the next word, wherever they are in the text.
-/

import CurveSheet.Yaml.Scalar.Style
import CurveSheet.Yaml.Token.Scanner

namespace CurveSheet
namespace Yaml

/-! ### Line ends -/

/-- A line end that can be written as it is counts as itself. -/
theorem breakChar_eq_self {c : Char} (hshown : isShown c = true) (hbreak : isBreak c = true) :
    breakChar c = c ∧ c ≠ '\r' := by
  simp only [isBreak, Bool.or_eq_true, beq_iff_eq] at hbreak
  rcases hbreak with (((rfl | rfl) | rfl) | rfl) | rfl
  · exact ⟨by decide, by decide⟩
  · exact absurd hshown (by decide)
  · exact absurd hshown (by decide)
  · exact ⟨by decide, by decide⟩
  · exact ⟨by decide, by decide⟩

theorem not_isSeparator {c : Char} (h : isSeparator c = false) :
    isBreak c = false ∧ isGap c = false := by
  rw [isSeparator, Bool.or_eq_false_iff] at h
  exact ⟨h.2, h.1⟩

theorem head?_not_isSeparator {text : List Char} (h : text.head?.any isSeparator = false) :
    text.head?.any isBreak = false ∧ text.head?.any isGap = false := by
  cases text with
  | nil => exact ⟨rfl, rfl⟩
  | cons c text => exact not_isSeparator h

/-- Of what separates, only spaces are shown within a line. -/
theorem eq_space_of_isShown {c : Char} (hshown : isShown c = true) (hbreak : isBreak c = false)
    (h : isSeparator c = true) : c = ' ' := by
  rw [isSeparator, hbreak, Bool.or_false, isGap, Bool.or_eq_true, beq_iff_eq, beq_iff_eq] at h
  rcases h with rfl | rfl
  · rfl
  · exact absurd hshown (by decide)

/-! ### Marks -/

@[simp] theorem column_past (mark : Mark) (c : Char) : (mark.past c).column = mark.column + 1 := rfl

@[simp] theorem column_pastAll (mark : Mark) (text : List Char) :
    (mark.pastAll text).column = mark.column + text.length := rfl

@[simp] theorem column_down (mark : Mark) (bytes : Nat) : (mark.down bytes).column = 0 := rfl

/-- Within a line there is no marker of a document. -/
theorem Cursor.atDocumentMarker_eq_false {cursor : Cursor} (h : 0 < cursor.column) :
    cursor.atDocumentMarker = false := by
  have hzero : (cursor.column == 0) = false := by
    rw [beq_eq_false_iff_ne]
    exact Nat.ne_of_gt h
  rw [Cursor.atDocumentMarker, Cursor.atMarker, Cursor.atMarker, hzero]
  rfl

/-! ### Gaps in scalars -/

section

variable {floor : Nat} {gap : Gap} {mark : Mark} {rest : List Char}

theorem scanGapFrom_break {c : Char} (hbreak : isBreak c = true) (hc : c ≠ '\r') :
    scanGapFrom floor gap mark (c :: rest) =
      scanGapFrom floor (gap.addBreak (breakChar c)) (mark.down c.utf8Size) rest := by
  rw [scanGapFrom, if_pos hbreak]
  intro _ h
  exact absurd h hc

theorem scanGapFrom_space :
    scanGapFrom floor gap mark (' ' :: rest) =
      scanGapFrom floor (gap.addBlank ' ') (mark.past ' ') rest := by
  rw [scanGapFrom, if_neg (by decide), if_pos (by decide), if_neg fun h => absurd h.2.1 (by decide)]
  intro _ h
  exact absurd h (by decide)

/-- A gap ends before what separates nothing. -/
theorem scanGapFrom_stop (h : rest.head?.any isSeparator = false) :
    scanGapFrom floor gap mark rest = some (gap, ⟨rest, mark⟩) := by
  cases rest with
  | nil => rfl
  | cons c rest =>
    obtain ⟨hbreak, hgap⟩ := not_isSeparator (show isSeparator c = false from h)
    rw [scanGapFrom, if_neg (by rw [hbreak]; decide), if_neg (by rw [hgap]; decide)]
    rintro _ rfl
    exact absurd hbreak (by decide)

/-- The gap with more spaces. -/
def Gap.addSpaces (gap : Gap) (n : Nat) : Gap :=
  if gap.broken then gap else { gap with blanks := gap.blanks ++ List.replicate n ' ' }

theorem scanGapFrom_spaces (n : Nat) :
    scanGapFrom floor gap mark (List.replicate n ' ' ++ rest) =
      scanGapFrom floor (gap.addSpaces n) (mark.pastAll (List.replicate n ' ')) rest := by
  induction n generalizing gap mark with
  | zero =>
    have hgap : gap.addSpaces 0 = gap := by
      unfold Gap.addSpaces
      split
      · rfl
      · rw [List.replicate_zero, List.append_nil]
    rw [hgap]
    rfl
  | succ n ih =>
    have hgap : (gap.addBlank ' ').addSpaces n = gap.addSpaces (n + 1) := by
      obtain ⟨broken, blanks, first, more⟩ := gap
      cases broken <;> simp [Gap.addBlank, Gap.addSpaces, List.replicate_succ]
    rw [List.replicate_succ, List.cons_append, scanGapFrom_space, ih, hgap, Mark.pastAll_cons]

end

/-- A line end with the indentation of the next line. -/
theorem exists_scanGap_newline (floor column : Nat) (mark : Mark) {body : List Char}
    (hbody : body.head?.any isSeparator = false) : ∃ mark', mark'.column = column ∧
      (⟨'\n' :: (List.replicate column ' ' ++ body), mark⟩ : Cursor).scanGap floor .none =
        some (⟨true, [], ['\n'], []⟩, ⟨body, mark'⟩) := by
  refine ⟨(mark.down 1).pastAll (List.replicate column ' '), by simp, ?_⟩
  rw [Cursor.scanGap, scanGapFrom_break (by decide) (by decide), scanGapFrom_spaces,
    scanGapFrom_stop hbody]
  rfl

/-- Spaces before a word. -/
theorem scanGap_blanks (floor : Nat) {blanks : List Char} (h : ∀ c ∈ blanks, c = ' ')
    (mark : Mark) {rest : List Char} (hrest : rest.head?.any isSeparator = false) :
    (⟨blanks ++ rest, mark⟩ : Cursor).scanGap floor .none =
      some (⟨false, blanks, [], []⟩, ⟨rest, mark.pastAll blanks⟩) := by
  rw [List.eq_replicate_of_mem h, Cursor.scanGap, scanGapFrom_spaces, scanGapFrom_stop hrest]
  rfl

/-! ### Gaps between tokens -/

namespace Scanner

section

variable {inFlow keyAllowed : Bool} {mark : Mark} {rest : List Char}

theorem gapFrom_newline : gapFrom false keyAllowed false mark ('\n' :: rest) =
    gapFrom false true false (mark.down 1) rest := by
  rw [gapFrom, if_pos (by decide), Bool.not_false, Bool.or_true]
  · rfl
  · intro _ h
    exact absurd h (by decide)

theorem gapFrom_space : gapFrom inFlow keyAllowed false mark (' ' :: rest) =
    gapFrom inFlow keyAllowed false (mark.past ' ') rest := by
  rw [gapFrom, if_neg (by decide), if_neg Bool.false_ne_true, if_neg (by decide),
    if_pos (.inl rfl)]
  intro _ h
  exact absurd h (by decide)

theorem gapFrom_spaces (n : Nat) :
    gapFrom inFlow keyAllowed false mark (List.replicate n ' ' ++ rest) =
      gapFrom inFlow keyAllowed false (mark.pastAll (List.replicate n ' ')) rest := by
  induction n generalizing mark with
  | zero => rfl
  | succ n ih => rw [List.replicate_succ, List.cons_append, gapFrom_space, ih, Mark.pastAll_cons]

/-- The character neither separates tokens nor starts a comment. -/
def startsToken (c : Char) : Bool := !isSeparator c && c != '#'

theorem gapFrom_stop (h : rest.head?.all startsToken = true)
    (horder : 0 < mark.column ∨ rest.head? ≠ some '\ufeff') :
    gapFrom inFlow keyAllowed false mark rest = (keyAllowed, ⟨rest, mark⟩) := by
  cases rest with
  | nil => rfl
  | cons c rest =>
    have hc : startsToken c = true := h
    rw [startsToken, Bool.and_eq_true, Bool.not_eq_true', bne_iff_ne] at hc
    obtain ⟨hseparator, hcomment⟩ := hc
    obtain ⟨hbreak, hgap⟩ := not_isSeparator hseparator
    rw [isGap, Bool.or_eq_false_iff, beq_eq_false_iff_ne, beq_eq_false_iff_ne] at hgap
    rw [gapFrom, if_neg (by rw [hbreak]; decide), if_neg Bool.false_ne_true, if_neg hcomment,
      if_neg fun h => ?_]
    · rcases h with h | h | h
      · exact hgap.1 h
      · exact hgap.2 h.1
      · rcases horder with horder | horder
        · omega
        · exact horder (congrArg some h.1)
    · rintro _ rfl
      exact absurd hbreak (by decide)

end

end Scanner

/-! ### What is left of a text -/

/-- Moving over a gap leaves nothing that was not there. -/
theorem gapFrom_subset (inFlow keyAllowed inComment : Bool) (mark : Mark) (text : List Char) :
    (Scanner.gapFrom inFlow keyAllowed inComment mark text).2.rest ⊆ text := by
  fun_induction Scanner.gapFrom inFlow keyAllowed inComment mark text with
  | case1 keyAllowed inComment mark rest ih =>
    exact List.subset_cons_of_subset _ (List.subset_cons_of_subset _ ih)
  | case2 keyAllowed inComment mark c rest _ _ ih => exact List.subset_cons_of_subset _ ih
  | case3 keyAllowed mark c rest _ _ ih => exact List.subset_cons_of_subset _ ih
  | case4 => exact List.subset_cons_of_subset _ ‹_›
  | case5 => exact List.subset_cons_of_subset _ ‹_›
  | case6 => exact List.Subset.refl _
  | case7 => exact List.Subset.refl _

theorem scanGapFrom_subset {floor : Nat} {gap next : Gap} {mark : Mark} {text : List Char}
    {ahead : Cursor} (h : scanGapFrom floor gap mark text = some (next, ahead)) :
    ahead.rest ⊆ text := by
  fun_induction scanGapFrom floor gap mark text with
  | case1 gap mark rest ih =>
    exact List.subset_cons_of_subset _ (List.subset_cons_of_subset _ (ih h))
  | case2 gap mark c rest _ _ ih => exact List.subset_cons_of_subset _ (ih h)
  | case3 => cases h
  | case4 gap mark c rest _ _ _ _ ih => exact List.subset_cons_of_subset _ (ih h)
  | case5 =>
    cases h
    exact List.Subset.refl _
  | case6 =>
    cases h
    exact List.Subset.refl _

end Yaml
end CurveSheet
