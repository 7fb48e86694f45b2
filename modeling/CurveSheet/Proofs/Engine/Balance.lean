/-
# Repairs keep the balance of parentheses

Whether a text balances, and how it fails to, depends on its parentheses only
(`openAfter_filter`).  Lower case leaves these as they are.  A repair opens one parenthesis and
closes it, with none between, so it leaves as many open as before wherever it is made
(`openAfter_repairStep`).  Hence the engine finds the same in a text and in its normal form
(`imbalance?_normalize`).
-/

import CurveSheet.Proofs.Engine.Sides
import CurveSheet.Proofs.Formula.Repair
import CurveSheet.Proofs.Text.Caseless

namespace CurveSheet
namespace Engine

open Text Formula

/-- What is open behind a text depends on its parentheses only. -/
theorem openAfter_filter {p : Char → Bool} (hopen : p '(' = true) (hclose : p ')' = true)
    (depth : Nat) (text : List Char) : openAfter depth (text.filter p) = openAfter depth text := by
  induction text generalizing depth with
  | nil => rfl
  | cons c text ih =>
    have hcons (rest : List Char) : openAfter depth (c :: rest) =
        (openAfter depth [c]).bind (openAfter · rest) := openAfter_append depth [c] rest
    by_cases hc : p c = true
    · rw [List.filter_cons_of_pos hc, hcons, hcons text]
      simp only [ih]
    · have hother : openAfter depth [c] = some depth := by
        refine openAfter_of_not_mem ?_ ?_ depth
        · rw [List.mem_singleton]
          rintro rfl
          exact hc hopen
        · rw [List.mem_singleton]
          rintro rfl
          exact hc hclose
      rw [List.filter_cons_of_neg hc, hcons text, hother, ih]
      rfl

/-! ### Repairs -/

/-- **A repair leaves as many parentheses open as there were.** -/
theorem openAfter_repaired {typed repaired after : List Char} (h : Repair typed repaired after)
    (depth : Nat) : openAfter depth repaired = openAfter depth typed := by
  have hopen : '(' ∉ typed := h.not_mem_typed (by decide) (by decide) (by decide)
  have hclose : ')' ∉ typed := h.not_mem_typed (by decide) (by decide) (by decide)
  cases h with
  | logarithm hend => rfl
  | @call name blanks run _ hname hblanks hne hrun hend =>
    rw [openAfter_of_not_mem hopen hclose]
    simp only [List.mem_append, not_or] at hopen hclose
    calc openAfter depth (name.toList ++ '(' :: run ++ [')'])
        = openAfter depth (name.toList ++ ['('] ++ run ++ [')']) := by simp
      _ = openAfter (depth + 1) [')'] := by
        simp only [openAfter_append, openAfter_of_not_mem hopen.1.1 hclose.1.1,
          openAfter_of_not_mem hopen.2 hclose.2, Option.bind_some]
        rfl
      _ = some depth := rfl

theorem openAfter_repairStep {text result : List Char} (h : RepairStep text result)
    (depth : Nat) : openAfter depth result = openAfter depth text := by
  obtain ⟨before, typed, repaired, after, hrepair, -, rfl, rfl⟩ := repairStep_iff.1 h
  simp only [openAfter_append, openAfter_repaired hrepair]

/-! ### Lower case and width -/

theorem isCaseless_isParenthesis : IsCaseless isParenthesis :=
  (((isCaseless_beq (by decide +kernel)).or (isCaseless_beq (by decide +kernel))).or
    (isCaseless_beq (by decide +kernel))).or (isCaseless_beq (by decide +kernel))

theorem isParenthesis_foldWidth (c : Char) : isParenthesis (foldWidth c) = isParenthesis c := by
  rcases foldWidth_cases c with hsame | ⟨hparen, hfolded⟩
  · rw [hsame]
  · rw [hparen, hfolded]

theorem openAfter_map_foldWidth (depth : Nat) (text : List Char) :
    openAfter depth (text.map foldWidth) =
      openAfter depth ((text.filter isParenthesis).map foldWidth) := by
  have hsame : isParenthesis ∘ foldWidth = isParenthesis := funext isParenthesis_foldWidth
  rw [← openAfter_filter (p := isParenthesis) rfl rfl, List.filter_map, hsame]

theorem openAfter_foldCase (depth : Nat) (text : List Char) :
    openAfter depth (foldCase text) = openAfter depth (text.map foldWidth) := by
  rw [foldCase, openAfter_map_foldWidth, isCaseless_isParenthesis.filter_lower,
    ← openAfter_map_foldWidth]

/-- **The parentheses of a normal form balance as those of the text do,** and fail to in the
same way, those of full width counted as what they become. -/
theorem imbalance?_normalize (text : String) :
    imbalance? (normalize text).toList = imbalance? (text.toList.map foldWidth) := by
  have hrepaired : openAfter 0 (normalize text).toList = openAfter 0 (foldCase text.toList) := by
    rw [toList_normalize]
    exact (repairs_normalChars text.toList).eq_of_step fun h => openAfter_repairStep h 0
  rw [imbalance?, imbalance?, hrepaired, openAfter_foldCase]

end Engine
end CurveSheet
