/-
# Characters of written scalars

Whatever characters a text has, those of its written form may occur in a document
(`isAllowed_of_mem_written`): what cannot be shown is written with a backslash, and in the
other styles everything can be shown.
-/

import CurveSheet.Proofs.Yaml.Scalar.WordChars
import CurveSheet.Yaml.Scalar.Written

namespace CurveSheet
namespace Yaml

variable {c : Char}

/-! ### Escapes -/

theorem isAllowed_of_mem_upperHex {width n : Nat} (h : c ∈ upperHex width n) :
    isAllowed c = true := by
  have hdigit : ∀ n < 16, isAllowed (upperHexDigit n) = true := by decide
  induction width generalizing n with
  | zero => exact absurd h List.not_mem_nil
  | succ width ih =>
    rcases List.mem_append.1 h with h | h
    · exact ih h
    · rw [List.mem_singleton.1 h]
      exact hdigit _ (Nat.mod_lt _ (by decide))

theorem isAllowed_of_mem_escaped {d : Char} (h : c ∈ escaped d) : isAllowed c = true := by
  have hcode {front : List Char} {width : Nat} (hfront : front.all isAllowed = true)
      (h : c ∈ front ++ upperHex width d.toNat) : isAllowed c = true := by
    rcases List.mem_append.1 h with h | h
    · exact List.all_eq_true.1 hfront c h
    · exact isAllowed_of_mem_upperHex h
  unfold escaped at h
  split at h
  · rename_i letter hlookup
    have hletter : isAllowed letter = true := by
      have hall : ∀ pair ∈ escapeLetters, isAllowed pair.2 = true := by decide
      obtain ⟨before, after, hsplit, -⟩ := List.lookup_eq_some_iff.1 hlookup
      have hmem : (d, letter) ∈ escapeLetters :=
        hsplit ▸ List.mem_append_right _ (List.mem_cons_self ..)
      exact hall (d, letter) hmem
    rcases List.mem_cons.1 h with rfl | h
    · decide
    · rw [List.mem_singleton.1 h]
      exact hletter
  · split at h
    · exact hcode (by decide) h
    · split at h <;> exact hcode (by decide) h

theorem isAllowed_of_mem_doubleQuoted {text : List Char} (h : c ∈ doubleQuoted text) :
    isAllowed c = true := by
  rcases List.mem_append.1 h with h | h
  · rcases List.mem_cons.1 h with rfl | h
    · decide
    obtain ⟨d, -, hc⟩ := List.mem_flatMap.1 h
    unfold doubleQuotedChar at hc
    split at hc
    · exact isAllowed_of_mem_escaped hc
    · rename_i hshown
      rw [List.mem_singleton.1 hc]
      refine isAllowed_of_isShown ?_
      simp only [Bool.or_eq_true, not_or, Bool.not_eq_true', Bool.not_eq_false] at hshown
      exact hshown.1.1.1
  · rw [List.mem_singleton.1 h]
    decide

/-! ### Lines -/

theorem isAllowed_of_mem_indentation {indent : Nat} (h : c ∈ indentation indent) :
    isAllowed c = true := by
  rw [List.eq_of_mem_replicate h]
  decide

/-- In lines stand spaces, line ends and the letters of characters. -/
theorem isAllowed_of_mem_indentLines {indent : Nat} {letter : Char → List Char} {fresh : Bool}
    {text : List Char} (htext : ∀ d ∈ text, isAllowed d = true)
    (hletter : ∀ d ∈ text, ∀ e ∈ letter d, isAllowed e = true)
    (h : c ∈ indentLines indent letter fresh text) : isAllowed c = true := by
  induction text generalizing fresh with
  | nil => exact absurd h List.not_mem_nil
  | cons d text ih =>
    have hrest {fresh : Bool} (h : c ∈ indentLines indent letter fresh text) :
        isAllowed c = true :=
      ih (fun e he => htext e (List.mem_cons_of_mem _ he))
        (fun e he => hletter e (List.mem_cons_of_mem _ he)) h
    rw [indentLines] at h
    split at h
    · rcases List.mem_cons.1 h with rfl | h
      · exact htext c (List.mem_cons_self ..)
      · exact hrest h
    · rcases List.mem_append.1 h with h | h
      · rcases List.mem_append.1 h with h | h
        · split at h
          · exact isAllowed_of_mem_indentation h
          · exact absurd h List.not_mem_nil
        · exact hletter d (List.mem_cons_self ..) c h
      · exact hrest h

theorem isAllowed_of_mem_singleQuoted {indent : Nat} {text : List Char}
    (htext : ∀ d ∈ text, isAllowed d = true) (h : c ∈ singleQuoted indent text) :
    isAllowed c = true := by
  have hletter : ∀ d ∈ text, ∀ e ∈ singleQuotedChar d, isAllowed e = true := by
    intro d hd e he
    unfold singleQuotedChar at he
    split at he
    · exact List.all_eq_true.1 (by decide) e he
    · rw [List.mem_singleton.1 he]
      exact htext d hd
  simp only [singleQuoted, List.cons_append, List.mem_cons, List.mem_append, List.mem_ite_nil_right,
    List.not_mem_nil, or_false] at h
  rcases h with rfl | (h | h) | rfl
  · decide
  · exact isAllowed_of_mem_indentLines htext hletter h
  · exact isAllowed_of_mem_indentation h.2
  · decide

theorem isAllowed_of_mem_literal {indent : Nat} {text : List Char}
    (htext : ∀ d ∈ text, isAllowed d = true) (h : c ∈ literal indent text) :
    isAllowed c = true := by
  have hindentation : (indentationSign text).all isAllowed = true := by
    unfold indentationSign
    split <;> decide
  have hchomping : (chompingSign text).all isAllowed = true := by
    unfold chompingSign
    repeat' split
    all_goals decide
  have hletter : ∀ d ∈ text, ∀ e ∈ [d], isAllowed e = true := fun d hd e he => by
    rw [List.mem_singleton.1 he]
    exact htext d hd
  simp only [literal, List.cons_append, List.mem_cons, List.mem_append, List.mem_ite_nil_left,
    List.not_mem_nil, or_false] at h
  rcases h with rfl | ((h | h) | rfl | h) | h
  · decide
  · exact List.all_eq_true.1 hindentation c h
  · exact List.all_eq_true.1 hchomping c h
  · decide
  · exact isAllowed_of_mem_indentLines htext hletter h
  · rw [h.2]
    decide

/-! ### All styles -/

/-- Without escapes everything can be shown. -/
theorem isShown_of_styleOf {text : List Char} (hstyle : styleOf text ≠ .doubleQuoted)
    (h : c ∈ text) : isShown c = true := by
  have hescapes : needsEscapes text = false := by
    rw [Bool.eq_false_iff]
    intro hneeds
    refine hstyle ?_
    simp [styleOf, literalAllowed, plainAllowed, singleQuotedAllowed, hneeds]
  simp only [needsEscapes, Bool.or_eq_false_iff, Bool.not_eq_false', List.all_eq_true] at hescapes
  exact hescapes.1 c h

/-- **What is written may occur in a document.** -/
theorem isAllowed_of_mem_written {indent : Nat} {text : List Char} (h : c ∈ written indent text) :
    isAllowed c = true := by
  have hline {front : List Char} (hfront : c ∈ front → isAllowed c = true)
      (h : c ∈ front ++ ['\n']) : isAllowed c = true := by
    rcases List.mem_append.1 h with h | h
    · exact hfront h
    · rw [List.mem_singleton.1 h]
      decide
  have hshown : styleOf text ≠ .doubleQuoted → ∀ d ∈ text, isAllowed d = true :=
    fun hstyle d hd => isAllowed_of_isShown (isShown_of_styleOf hstyle hd)
  unfold written at h
  split at h
  · rename_i hstyle
    exact isAllowed_of_mem_literal (hshown (by simp [hstyle])) h
  · rename_i hstyle
    exact hline (isAllowed_of_mem_singleQuoted (hshown (by simp [hstyle]))) h
  · exact hline isAllowed_of_mem_doubleQuoted h
  · rename_i hdouble
    exact hline (hshown hdouble c) h

end Yaml
end CurveSheet
