/-
# Normal forms are made side by side

Nothing that a pass looks at reaches over an operator, a comma or a parenthesis: no name, no
blanks and no run has one in it, a word ends at one as it ends at the end of the text, and
so does the word that makes a sigma final.  So a pass over two texts with a separator
between them is a pass over each (`pass_separated`), and as normal forms are repeated passes,
they are made side by side too, however many passes each of the texts needs
(`normalize_separated`).
-/

import CurveSheet.Proofs.Formula.Settling

namespace CurveSheet

/-! ### Lower case -/

namespace Text

/-- The word of a sigma ends at the character, and starts behind it. -/
def endsWordOfLetters (d : Char) : Bool := !caseIgnorableTable.contains d && !casedTable.contains d

theorem startsCased_append {d : Char} (hd : endsWordOfLetters d = true) (text rest : List Char) :
    startsCased (text ++ d :: rest) = startsCased text := by
  rw [endsWordOfLetters, Bool.and_eq_true, Bool.not_eq_true', Bool.not_eq_true'] at hd
  induction text with
  | nil => simp [startsCased, hd]
  | cons c text ih =>
    by_cases hc : caseIgnorableTable.contains c = true
    · simpa [startsCased, hc] using ih
    · simp [startsCased, hc]

theorem lowerAt_append {d : Char} (hd : endsWordOfLetters d = true) (before after : List Char)
    (c : Char) (outer rest : List Char) :
    lowerAt (before ++ d :: outer) c after = lowerAt before c after ∧
      lowerAt before c (after ++ d :: rest) = lowerAt before c after := by
  simp only [lowerAt, startsCased_append hd, and_self]

theorem lowerFrom_behind {d : Char} (hd : endsWordOfLetters d = true)
    (before outer text : List Char) :
    lowerFrom (before ++ d :: outer) text = lowerFrom before text := by
  induction text generalizing before with
  | nil => rfl
  | cons c text ih =>
    rw [lowerFrom, lowerFrom, (lowerAt_append hd before text c outer []).1, ← ih (c :: before),
      List.cons_append]

theorem lowerFrom_separated {d : Char} (hd : endsWordOfLetters d = true) (hlower : isLower d = true)
    (before left right : List Char) :
    lowerFrom before (left ++ d :: right) = lowerFrom before left ++ d :: lower right := by
  induction left generalizing before with
  | nil =>
    have hright := lowerFrom_behind hd [] before right
    rw [List.nil_append] at hright ⊢
    rw [lowerFrom, lowerFrom, lowerAt_eq_self hlower, hright]
    rfl
  | cons c left ih =>
    rw [List.cons_append, lowerFrom, lowerFrom, (lowerAt_append hd before left c [] right).2, ih,
      List.append_assoc]

theorem lower_separated {d : Char} (hd : endsWordOfLetters d = true) (hlower : isLower d = true)
    (left right : List Char) : lower (left ++ d :: right) = lower left ++ d :: lower right :=
  lowerFrom_separated hd hlower [] left right

end Text

namespace Formula

open Text Function

/-! ### Rules that stop at a character -/

/-- The rule matches nothing that reaches over the character, nor anything that starts there. -/
def Rule.StopsAt (rule : Rule) (d : Char) : Prop :=
  ∀ text rest, rule (text ++ d :: rest) = rule text

theorem Rule.IsProper.nil {rule : Rule} (h : rule.IsProper) : rule [] = none := by
  cases hrule : rule [] with
  | none => rfl
  | some found =>
    obtain ⟨hpos, hle⟩ := h hrule
    exact absurd (Nat.lt_of_lt_of_le hpos hle) (Nat.lt_irrefl 0)

/-- **A rule that stops at a character works on both sides of it by itself.** -/
theorem Rule.StopsAt.applyFrom {rule : Rule} {d : Char} (h : rule.StopsAt d)
    (hproper : rule.IsProper) (hword : isWordChar d = false) (covered : Nat) (inWord : Bool)
    {left : List Char} (hcovered : covered ≤ left.length) (right : List Char) :
    rule.applyFrom covered inWord (left ++ d :: right) =
      rule.applyFrom covered inWord left ++ d :: rule.apply right := by
  induction left generalizing covered inWord with
  | nil =>
    obtain rfl : covered = 0 := Nat.le_zero.1 hcovered
    have hnone : rule (d :: right) = none := (h [] right).trans hproper.nil
    rw [List.nil_append, Rule.applyFrom_keep fun _ => hnone, hword]
    rfl
  | cons c left ih =>
    cases covered with
    | succ covered => exact ih covered _ (Nat.le_of_succ_le_succ hcovered)
    | zero =>
      have hsame : rule (c :: (left ++ d :: right)) = rule (c :: left) := h (c :: left) right
      rw [List.cons_append, Rule.applyFrom, Rule.applyFrom, hsame]
      cases hfound : (if inWord then none else rule (c :: left)) with
      | none => exact congrArg (c :: ·) (ih 0 _ (Nat.zero_le _))
      | some found =>
        obtain ⟨replacement, width⟩ := found
        obtain ⟨-, hwidth⟩ : 0 < width ∧ width ≤ (c :: left).length := by
          rw [Option.ite_none_left_eq_some] at hfound
          exact hproper hfound.2
        simp only [ih (width - 1) (isWordChar c) (by simpa using hwidth), List.append_assoc]

theorem Rule.StopsAt.apply {rule : Rule} {d : Char} (h : rule.StopsAt d) (hproper : rule.IsProper)
    (hword : isWordChar d = false) (left right : List Char) :
    rule.apply (left ++ d :: right) = rule.apply left ++ d :: rule.apply right :=
  h.applyFrom hproper hword 0 false (Nat.zero_le _) right

theorem stopsAt_logarithmRule {d : Char} (hword : isWordChar d = false) :
    logarithmRule.StopsAt d := by
  have hl : d ≠ 'l' := by
    rintro rfl
    exact absurd hword (by decide)
  have hn : d ≠ 'n' := by
    rintro rfl
    exact absurd hword (by decide)
  intro text rest
  match text with
  | [] => simp [logarithmRule, hl]
  | [c] => by_cases hc : c = 'l' <;> simp [logarithmRule, hc, hn]
  | [c, e] =>
    by_cases hc : c = 'l' <;> by_cases he : e = 'n' <;> simp [logarithmRule, hc, he, hword]
  | c :: e :: f :: text =>
    by_cases hc : c = 'l' <;> by_cases he : e = 'n' <;> simp [logarithmRule, hc, he]

theorem isPrefixOf?_append {d : Char} {name : List Char} (h : d ∉ name) (text rest : List Char) :
    name.isPrefixOf? (text ++ d :: rest) = (name.isPrefixOf? text).map (· ++ d :: rest) := by
  induction name generalizing text with
  | nil => rfl
  | cons c name ih =>
    rw [List.mem_cons, not_or] at h
    cases text with
    | nil =>
      rw [List.nil_append, cons_isPrefixOf?_cons, if_neg (by simpa using Ne.symm h.1)]
      rfl
    | cons e text =>
      rw [List.cons_append, cons_isPrefixOf?_cons, cons_isPrefixOf?_cons, ih h.2]
      split <;> rfl

theorem takeWhile_append_cons {p : Char → Bool} {d : Char} (h : p d = false)
    (text rest : List Char) : (text ++ d :: rest).takeWhile p = text.takeWhile p := by
  induction text with
  | nil => simp [h]
  | cons c text ih => simp [List.takeWhile_cons, ih]

theorem dropWhile_append_cons {p : Char → Bool} {d : Char} (h : p d = false)
    (text rest : List Char) :
    (text ++ d :: rest).dropWhile p = text.dropWhile p ++ d :: rest := by
  induction text with
  | nil => simp [h]
  | cons c text ih =>
    by_cases hc : p c = true
    · simp [hc, ih]
    · simp [hc]

theorem stopsAt_callRule {name : List Char} {d : Char} (hname : d ∉ name)
    (hblank : isBlank d = false) (hrun : isRunChar d = false) : (callRule name).StopsAt d := by
  intro text rest
  rw [callRule, callRule, isPrefixOf?_append hname]
  cases name.isPrefixOf? text with
  | none => rfl
  | some behind =>
    simp only [Option.map_some, takeWhile_append_cons hblank, dropWhile_append_cons hblank,
      takeWhile_append_cons hrun]

/-! ### Separators -/

/-- The operators, the comma and the parentheses. -/
def separators : List Char := ['=', '+', '-', '*', '/', ',', '(', ')']

/-- What a pass asks of a character that it does not reach over. -/
structure Separates (d : Char) : Prop where
  endsWordOfLetters : endsWordOfLetters d = true
  isFolded : isFolded d = true
  not_isWordChar : isWordChar d = false
  not_isBlank : isBlank d = false
  not_isRunChar : isRunChar d = false

theorem separates_of_mem {d : Char} (h : d ∈ separators) : Separates d := by
  simp only [separators, List.mem_cons, List.not_mem_nil, or_false] at h
  rcases h with rfl | rfl | rfl | rfl | rfl | rfl | rfl | rfl <;>
    exact ⟨by decide +kernel, by decide, by decide, by decide, by decide⟩

theorem Separates.foldCase {d : Char} (h : Separates d) (left right : List Char) :
    foldCase (left ++ d :: right) = foldCase left ++ d :: foldCase right := by
  have hfolded := h.isFolded
  rw [Formula.isFolded, Bool.and_eq_true, beq_iff_eq] at hfolded
  rw [Formula.foldCase, lower_separated h.endsWordOfLetters hfolded.1, List.map_append,
    List.map_cons, hfolded.2]
  rfl

theorem Separates.wrapCalls {d : Char} (h : Separates d) {names : List String}
    (hnames : ∀ name ∈ names, name ∈ functionNames) (left right : List Char) :
    wrapCalls names (left ++ d :: right) = wrapCalls names left ++ d :: wrapCalls names right := by
  induction names generalizing left right with
  | nil => rfl
  | cons name names ih =>
    have hname := hnames name (List.mem_cons_self ..)
    have hstops : (callRule name.toList).StopsAt d :=
      stopsAt_callRule (not_mem_name_of_not_isWordChar hname h.not_isWordChar) h.not_isBlank
        h.not_isRunChar
    rw [wrapCalls_cons, hstops.apply (callRule_isProper (name_ne_nil hname)) h.not_isWordChar]
    exact ih (fun other hother => hnames other (List.mem_cons_of_mem _ hother)) _ _

/-- **A pass over two texts and a separator is a pass over each text.** -/
theorem pass_separated {d : Char} (h : Separates d) (left right : List Char) :
    pass functionNames (left ++ d :: right) =
      pass functionNames left ++ d :: pass functionNames right := by
  rw [pass, h.foldCase, (stopsAt_logarithmRule h.not_isWordChar).apply logarithmRule_isProper
    h.not_isWordChar, h.wrapCalls fun _ hname => hname]
  rfl

theorem iterate_pass_separated {d : Char} (h : Separates d) (n : Nat) (left right : List Char) :
    (pass functionNames)^[n] (left ++ d :: right) =
      (pass functionNames)^[n] left ++ d :: (pass functionNames)^[n] right := by
  induction n generalizing left right with
  | zero => rfl
  | succ n ih =>
    rw [iterate_succ_apply, iterate_succ_apply, iterate_succ_apply, pass_separated h, ih]

/-- **Normal forms are made side by side:** the normal form of two texts with a separator
between them is that of the first, the separator and that of the second. -/
theorem normalize_separated {d : Char} (h : d ∈ separators) (left right : String) :
    normalize (left ++ String.singleton d ++ right) =
      normalize left ++ String.singleton d ++ normalize right := by
  have htext : (left ++ String.singleton d ++ right).toList = left.toList ++ d :: right.toList := by
    simp
  rw [← String.toList_inj, toList_normalize, htext, normalChars_eq_iterate,
    iterate_pass_separated (separates_of_mem h)]
  simp [toList_normalize, normalChars_eq_iterate]

theorem normalize_separated_equation :
    '=' ∈ separators ∧ normalize ("Σ" ++ String.singleton '=' ++ "sinxLN 2sinx") =
      normalize "Σ" ++ String.singleton '=' ++ normalize "sinxLN 2sinx" :=
  ⟨by decide, normalize_separated (by decide) _ _⟩

end Formula
end CurveSheet
