/-
# Zero forms are normal forms

In its zero form an equation loses the blanks behind its left side, and its sides get other
characters next to them.  Nothing to repair comes of it.  Blanks at the end of a text make no
match and undo none, for a match ends in a visible character (`pass_append_blanks_iff`); and
over an operator or a parenthesis no rule reaches, so two texts with one of these between them
are left as they are exactly if each of them is (`Separates.pass_append_iff`).  Put together, a
pass that leaves an equation as it is leaves its zero form as it is (`pass_zeroFormChars`).
-/

import CurveSheet.Proofs.Engine.Sides
import CurveSheet.Proofs.Formula.NormalForm
import CurveSheet.Proofs.Formula.Separator
import CurveSheet.Proofs.Text.Caseless

namespace CurveSheet

/-! ### Blanks and words -/

namespace Text

theorem isWordChar_eq_false_of_isBlank {c : Char} (h : isBlank c = true) :
    isWordChar c = false := by
  rw [Bool.eq_false_iff]
  intro hword
  simp only [isWordChar, Bool.or_eq_true, Bool.and_eq_true, decide_eq_true_eq, beq_iff_eq] at hword
  have hbounds : 0x21 ≤ c.toNat ∧ c.toNat ≤ 0x7E := by
    rcases hword with ((hdigit | hupper) | hlower) | rfl
    · have hrange : 48 ≤ c.toNat ∧ c.toNat ≤ 57 := hdigit
      omega
    · have hrange : 65 ≤ c.toNat ∧ c.toNat ≤ 90 := hupper
      omega
    · have hrange : 97 ≤ c.toNat ∧ c.toNat ≤ 122 := hlower
      omega
    · decide
  rw [isBlank_eq_false_of_visible hbounds.1 hbounds.2] at h
  cases h

end Text

namespace Formula

open Text

/-! ### Blanks at the end -/

/-- Blanks at the end of a text make no match of the rule, and undo none. -/
def Rule.IgnoresBlanks (rule : Rule) : Prop :=
  ∀ text blanks, (∀ c ∈ blanks, isBlank c = true) →
    (rule (text ++ blanks) = none ↔ rule text = none)

/-- What ends in a visible character starts a text with blanks behind it exactly if it starts the
text. -/
theorem prefix_append_blanks_iff {front text blanks : List Char} {c : Char}
    (hc : isBlank c = false) (hblanks : ∀ d ∈ blanks, isBlank d = true) :
    front ++ [c] <+: text ++ blanks ↔ front ++ [c] <+: text := by
  refine ⟨fun h => ?_, fun h => h.trans (List.prefix_append ..)⟩
  rcases List.prefix_or_prefix_of_prefix h (List.prefix_append text blanks) with hp | ⟨rest, hrest⟩
  · exact hp
  · rw [← hrest, List.prefix_append_right_inj] at h
    rcases List.eq_nil_or_concat' rest with rfl | ⟨others, d, rfl⟩
    · rw [← hrest, List.append_nil]
    · obtain ⟨-, hd⟩ := List.append_inj' (hrest.symm.trans (List.append_assoc ..).symm) rfl
      obtain rfl := (List.cons.inj hd).1
      have hblank := hblanks c (h.subset (by simp))
      rw [hc] at hblank
      cases hblank

theorem ignoresBlanks_callRule (name : List Char) : (callRule name).IgnoresBlanks := by
  intro text blanks hblanks
  simp only [callRule_eq_none_iff, ← Bool.not_eq_true, startsBareCall_iff]
  refine not_congr (exists₂_congr fun between c => and_congr_right fun _ =>
    and_congr_right fun hc => ?_)
  exact prefix_append_blanks_iff (isBlank_eq_false_of_isRunChar hc) hblanks

theorem ignoresBlanks_logarithmRule : logarithmRule.IgnoresBlanks := by
  intro text blanks hblanks
  have hhead (after : List Char) :
      (after ++ blanks).head?.any isWordChar = after.head?.any isWordChar := by
    cases after with
    | cons c after => rfl
    | nil =>
      cases blanks with
      | nil => rfl
      | cons c blanks =>
        exact isWordChar_eq_false_of_isBlank (hblanks c (List.mem_cons_self ..))
  rw [← not_iff_not, ← Ne, ← Ne, logarithmRule_ne_none_iff, logarithmRule_ne_none_iff]
  constructor
  · rintro ⟨after, htext, hend⟩
    have hstart : ['l'] ++ ['n'] <+: text ++ blanks := ⟨after, htext.symm⟩
    obtain ⟨rest, rfl⟩ := (prefix_append_blanks_iff (by decide) hblanks).1 hstart
    obtain rfl : rest ++ blanks = after := by simpa using htext
    exact ⟨rest, rfl, hhead rest ▸ hend⟩
  · rintro ⟨after, rfl, hend⟩
    exact ⟨after ++ blanks, rfl, (hhead after).trans hend⟩

theorem Rule.IgnoresBlanks.idle_blanks {rule : Rule} (h : rule.IgnoresBlanks)
    (hnil : rule [] = none) {inWord : Bool} {blanks : List Char}
    (hblanks : ∀ c ∈ blanks, isBlank c = true) : rule.Idle inWord blanks := by
  induction blanks generalizing inWord with
  | nil => trivial
  | cons c blanks ih =>
    exact ⟨fun _ => (h [] _ hblanks).2 hnil, ih fun d hd => hblanks d (List.mem_cons_of_mem _ hd)⟩

/-- A rule that ignores blanks is idle on a text with blanks behind it exactly if it is on the
text. -/
theorem Rule.IgnoresBlanks.idle_iff {rule : Rule} (h : rule.IgnoresBlanks) (hnil : rule [] = none)
    {inWord : Bool} {text blanks : List Char} (hblanks : ∀ c ∈ blanks, isBlank c = true) :
    rule.Idle inWord (text ++ blanks) ↔ rule.Idle inWord text := by
  induction text generalizing inWord with
  | nil => exact iff_of_true (h.idle_blanks hnil hblanks) trivial
  | cons c text ih =>
    have hhere := h (c :: text) blanks hblanks
    rw [List.cons_append] at hhere ⊢
    rw [Rule.Idle, Rule.Idle, ih, hhere]

/-! ### Characters that no rule reaches over -/

/-- A rule that stops at a character is idle on a text exactly if it is on both sides of it. -/
theorem Rule.StopsAt.idle_iff {rule : Rule} {d : Char} (h : rule.StopsAt d)
    (hproper : rule.IsProper) (hword : isWordChar d = false) {inWord : Bool}
    {left right : List Char} :
    rule.Idle inWord (left ++ d :: right) ↔ rule.Idle inWord left ∧ rule.Idle false right := by
  induction left generalizing inWord with
  | nil =>
    have hnone : rule (d :: right) = none := (h [] right).trans hproper.nil
    simp [Rule.Idle, hnone, hword]
  | cons c left ih =>
    have hhere : rule (c :: (left ++ d :: right)) = rule (c :: left) := h (c :: left) right
    rw [List.cons_append, Rule.Idle, Rule.Idle, hhere, ih, and_assoc]

/-! ### Passes that change nothing -/

/-- A pass leaves a text as it is exactly if lower case does and all rules are idle on it. -/
theorem pass_eq_self_iff_idle {text : List Char} :
    pass functionNames text = text ↔ (∀ c ∈ text, isFolded c = true) ∧
      logarithmRule.Idle false text ∧
        ∀ name ∈ functionNames, (callRule name.toList).Idle false text := by
  rw [← foldCase_eq_self_iff]
  exact ⟨fun h => idle_of_pass_eq_self h, fun ⟨hfold, hlog, hcalls⟩ =>
    pass_eq_self_of_idle hfold hlog hcalls⟩

theorem isFolded_of_isBlank {c : Char} (h : isBlank c = true) : isFolded c = true := by
  have hopen : c ≠ '（' := by
    rintro rfl
    exact absurd h (by decide)
  have hclose : c ≠ '）' := by
    rintro rfl
    exact absurd h (by decide)
  rw [isFolded, isCaseless_isBlank.unchanged h, foldWidth_eq_self_iff.2 ⟨hopen, hclose⟩]
  simp

/-- **Blanks at the end of a text do not matter to a pass that changes nothing.** -/
theorem pass_append_blanks_iff {text blanks : List Char}
    (hblanks : ∀ c ∈ blanks, isBlank c = true) :
    pass functionNames (text ++ blanks) = text ++ blanks ↔ pass functionNames text = text := by
  have hfolded : ∀ c ∈ blanks, isFolded c = true := fun c hc => isFolded_of_isBlank (hblanks c hc)
  rw [pass_eq_self_iff_idle, pass_eq_self_iff_idle, List.forall_mem_append,
    and_iff_left hfolded, ignoresBlanks_logarithmRule.idle_iff rfl hblanks]
  refine and_congr_right fun _ => and_congr_right fun _ => forall₂_congr fun name hname => ?_
  exact (ignoresBlanks_callRule _).idle_iff (callRule_isProper (name_ne_nil hname)).nil hblanks

/-- **A pass leaves two texts and a separator as they are exactly if it does so to each text.** -/
theorem Separates.pass_append_iff {d : Char} (h : Separates d) {left right : List Char} :
    pass functionNames (left ++ d :: right) = left ++ d :: right ↔
      pass functionNames left = left ∧ pass functionNames right = right := by
  refine ⟨fun hpass => ?_, fun ⟨hleft, hright⟩ => by rw [pass_separated h, hleft, hright]⟩
  obtain ⟨hfolded, hlog, hcalls⟩ := pass_eq_self_iff_idle.1 hpass
  rw [List.forall_mem_append, List.forall_mem_cons] at hfolded
  rw [(stopsAt_logarithmRule h.not_isWordChar).idle_iff logarithmRule_isProper
    h.not_isWordChar] at hlog
  have hcalls : ∀ name ∈ functionNames, (callRule name.toList).Idle false left ∧
      (callRule name.toList).Idle false right := by
    intro name hname
    have hstops : (callRule name.toList).StopsAt d :=
      stopsAt_callRule (not_mem_name_of_not_isWordChar hname h.not_isWordChar) h.not_isBlank
        h.not_isRunChar
    exact (hstops.idle_iff (callRule_isProper (name_ne_nil hname)) h.not_isWordChar).1
      (hcalls name hname)
  exact ⟨pass_eq_self_iff_idle.2 ⟨hfolded.1, hlog.1, fun name hname => (hcalls name hname).1⟩,
    pass_eq_self_iff_idle.2 ⟨hfolded.2.2, hlog.2, fun name hname => (hcalls name hname).2⟩⟩

/-- A text that a pass leaves as it is is its own normal form. -/
theorem normalize_eq_self {text : String} (h : pass functionNames text.toList = text.toList) :
    normalize text = text := by
  rw [← String.toList_inj, toList_normalize, normalChars, h, settle_eq_of_fixed h]

/-! ### Zero forms -/

/-- **If a pass leaves an equation as it is, it leaves its zero form as it is.** -/
theorem pass_zeroFormChars {left right : List Char}
    (h : pass functionNames (left ++ '=' :: right) = left ++ '=' :: right) :
    pass functionNames (zeroFormChars left right) = zeroFormChars left right := by
  have hseparates : ∀ d ∈ separators, Separates d := fun d hd => separates_of_mem hd
  obtain ⟨hleft, hright⟩ := (hseparates '=' (by decide)).pass_append_iff.1 h
  obtain ⟨blanks, htext, hblanks⟩ := exists_eq_trimEndChars_append left
  have htrimmed : pass functionNames (trimEndChars left) = trimEndChars left := by
    rw [htext, pass_append_blanks_iff hblanks] at hleft
    exact hleft
  have hspaces : ∀ c ∈ [' '], isBlank c = true := List.forall_mem_singleton.2 (by decide)
  have hspace : pass functionNames [' '] = [' '] := by decide
  have hform : zeroFormChars left right =
      (trimEndChars left ++ [' ']) ++ '-' :: ([' '] ++ '(' :: (right ++ ')' :: [])) := by
    simp [zeroFormChars]
  rw [hform, (hseparates '-' (by decide)).pass_append_iff, pass_append_blanks_iff hspaces,
    (hseparates '(' (by decide)).pass_append_iff, (hseparates ')' (by decide)).pass_append_iff]
  exact ⟨htrimmed, hspace, hright, rfl⟩

theorem not_mem_zeroFormChars {left right : List Char} (hleft : '=' ∉ left) (hright : '=' ∉ right) :
    '=' ∉ zeroFormChars left right := by
  have htrimmed : '=' ∉ trimEndChars left := fun hmem => by
    obtain ⟨blanks, htext, -⟩ := exists_eq_trimEndChars_append left
    exact hleft (htext ▸ List.mem_append_left blanks hmem)
  simp [zeroFormChars, htrimmed, hright]

end Formula
end CurveSheet
