/-
# Blank characters and trimming

The blank characters are the ASCII controls from the tab to the carriage return,
the next-line control, and every space and line separator beyond ASCII.
Trimming removes them from the ends of a text.
-/

import CurveSheet.Text.CharTable

namespace CurveSheet
namespace Text

/-- The characters that count as white space. -/
def blankTable : CharTable := ⟨
  [(0x9, 0xD), (0x20, 0x20), (0x85, 0x85), (0xA0, 0xA0), (0x1680, 0x1680), (0x2000, 0x200A),
   (0x2028, 0x2029), (0x202F, 0x202F), (0x205F, 0x205F), (0x3000, 0x3000)]⟩

/-- White space of any script. -/
def isBlank (c : Char) : Bool := blankTable.contains c

/-- A visible character of ASCII is no blank. -/
theorem isBlank_eq_false_of_visible {c : Char} (hlow : 0x21 ≤ c.toNat) (hhigh : c.toNat ≤ 0x7E) :
    isBlank c = false := by
  rw [Bool.eq_false_iff]
  intro hblank
  obtain ⟨range, hrange, hle⟩ := CharTable.contains_iff.1 hblank
  simp only [blankTable, List.mem_cons, List.not_mem_nil, or_false] at hrange
  rcases hrange with rfl | rfl | rfl | rfl | rfl | rfl | rfl | rfl | rfl | rfl <;>
    simp only at hle <;> omega

/-- A list less the blanks at its start. -/
def trimStartChars (text : List Char) : List Char := text.dropWhile isBlank

/-- A list less the blanks at its end. -/
def trimEndChars (text : List Char) : List Char := (text.reverse.dropWhile isBlank).reverse

/-- A list less the blanks at both ends. -/
def trimChars (text : List Char) : List Char := trimEndChars (trimStartChars text)

/-- A text less the blanks at both ends. -/
def trim (text : String) : String := String.ofList (trimChars text.toList)

/-- A text of blanks only. -/
def isBlankText (text : String) : Bool := text.toList.all isBlank

theorem trimEndChars_append_blanks (text blanks : List Char) (h : blanks.all isBlank = true) :
    trimEndChars (text ++ blanks) = trimEndChars text := by
  unfold trimEndChars
  rw [List.reverse_append, List.dropWhile_append_of_pos]
  intro c hc
  exact List.all_eq_true.1 h c (List.mem_reverse.1 hc)

/-- A text without blanks has nothing to trim. -/
theorem trimChars_eq_self {text : List Char} (h : ∀ c ∈ text, isBlank c = false) :
    trimChars text = text := by
  have hdrop : ∀ rest : List Char, (∀ c ∈ rest, isBlank c = false) →
      rest.dropWhile isBlank = rest := by
    intro rest hrest
    cases rest with
    | nil => rfl
    | cons c rest => simp [hrest c (List.mem_cons_self ..)]
  rw [trimChars, trimStartChars, hdrop text h, trimEndChars,
    hdrop _ fun c hc => h c (List.mem_reverse.1 hc), List.reverse_reverse]

end Text
end CurveSheet
