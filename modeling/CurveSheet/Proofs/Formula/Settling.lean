/-
# How many passes a formula needs

A pass puts a text into lower case for good (`foldCase_pass`), and from then on each pass
that changes it takes a pending repair away.  So passes come to an end for every text, after
no more of them than there are candidates in it (`pass_progress_and_bound`), and the normal
form is what sixteen passes make (`normalChars_eq_iterate`).  All this holds of a table in any
order.
-/

import CurveSheet.Proofs.Formula.Progress
import CurveSheet.Proofs.Text.LowerCase
import Mathlib.Dynamics.FixedPoints.Basic

namespace CurveSheet
namespace Formula

open Text Function

/-! ### Lower case is kept -/

/-- The character is in lower case and no full-width parenthesis. -/
def isFolded (c : Char) : Bool := isLower c && foldWidth c == c

theorem foldWidth_foldWidth (c : Char) : foldWidth (foldWidth c) = foldWidth c := by
  unfold foldWidth
  split_ifs <;> simp_all

theorem isFolded_of_mem_foldCase {text : List Char} {c : Char} (h : c ∈ foldCase text) :
    isFolded c = true := by
  obtain ⟨d, hd, rfl⟩ := List.mem_map.1 h
  have hlower : isLower (foldWidth d) = true := by
    unfold foldWidth
    split_ifs
    · decide
    · decide
    · exact isLower_of_mem_lower hd
  simp [isFolded, hlower, foldWidth_foldWidth]

theorem foldCase_eq_self_iff {text : List Char} :
    foldCase text = text ↔ ∀ c ∈ text, isFolded c = true := by
  refine ⟨fun h c hc => isFolded_of_mem_foldCase (h ▸ hc), fun h => ?_⟩
  simp only [isFolded, Bool.and_eq_true, beq_iff_eq] at h
  rw [foldCase, lower_eq_self_iff.2 fun c hc => (h c hc).1]
  exact (List.map_congr_left fun c hc => (h c hc).2).trans (List.map_id text)

/-- A repair brings in no characters but those it writes. -/
theorem Rule.Gives.subset {rule : Rule} {written : List Char}
    (hwritten : ∀ ⦃text replacement width⦄, rule text = some (replacement, width) →
      replacement ⊆ written ++ text.take width)
    {inWord : Bool} {text result : List Char} (h : rule.Gives inWord text result) :
    result ⊆ written ++ text := by
  induction h with
  | done => simp
  | @keep inWord c rest result hrule hrest ih =>
    intro d hd
    rcases List.mem_cons.1 hd with rfl | hd
    · simp
    · have := ih hd
      simp only [List.mem_append, List.mem_cons] at this ⊢
      tauto
  | @replace replacement matched rest result last hrule hrest ih =>
    intro d hd
    rcases List.mem_append.1 hd with hd | hd
    · have := hwritten hrule hd
      simp only [List.mem_append] at this ⊢
      exact this.imp_right fun h => List.mem_append.1 (List.mem_of_mem_take h)
    · have := ih hd
      simp only [List.mem_append, List.mem_cons] at this ⊢
      tauto

theorem subset_of_logarithmRule {text replacement : List Char} {width : Nat}
    (h : logarithmRule text = some (replacement, width)) :
    replacement ⊆ ['l', 'o', 'g'] ++ text.take width := by
  obtain ⟨rest, -, rfl, -⟩ := exists_of_logarithmRule h
  simp

theorem subset_of_callRule {name text replacement : List Char} {width : Nat}
    (h : callRule name text = some (replacement, width)) :
    replacement ⊆ ['(', ')'] ++ text.take width := by
  obtain ⟨blanks, run, rest, rfl, -, -, -, rfl, rfl, -⟩ := exists_of_callRule h
  rw [List.take_left]
  intro c hc
  simp only [List.mem_append, List.mem_cons, List.not_mem_nil, or_false] at hc
  rcases hc with (hc | rfl | hc) | rfl <;> simp [*]

theorem wrapCalls_subset {names : List String} (hnames : ∀ name ∈ names, name.toList ≠ [])
    (text : List Char) : wrapCalls names text ⊆ ['(', ')'] ++ text := by
  induction names generalizing text with
  | nil => exact List.subset_append_right ..
  | cons name names ih =>
    have hfirst := (Rule.gives_apply (callRule_isProper (hnames name (List.mem_cons_self ..)))
      text).subset fun _ _ _ => subset_of_callRule
    have hothers := ih (fun other hother => hnames other (List.mem_cons_of_mem _ hother))
      ((callRule name.toList).apply text)
    intro c hc
    have := hothers hc
    simp only [List.mem_append] at this ⊢
    exact this.elim Or.inl fun h => List.mem_append.1 (hfirst h)

/-- **A pass leaves lower case and ASCII parentheses.** -/
theorem foldCase_pass {names : List String} (text : List Char)
    (hnames : names.Perm functionNames := by exact .refl _) :
    foldCase (pass names text) = pass names text := by
  rw [foldCase_eq_self_iff]
  intro c hc
  have hparens : ∀ c ∈ ['(', ')'], isFolded c = true :=
    List.all_eq_true.1 (by decide)
  have hletters : ∀ c ∈ ['l', 'o', 'g'], isFolded c = true :=
    List.all_eq_true.1 (by decide)
  have hcalls := wrapCalls_subset (fun name hname => name_ne_nil (hnames.subset hname))
    (logarithmRule.apply (foldCase text)) hc
  have hlog := (Rule.gives_apply logarithmRule_isProper (foldCase text)).subset
    fun _ _ _ => subset_of_logarithmRule
  rcases List.mem_append.1 hcalls with h | h
  · exact hparens c h
  · rcases List.mem_append.1 (hlog h) with h | h
    · exact hletters c h
    · exact isFolded_of_mem_foldCase h

/-- A pass begins with lower case, so it makes the same of a text and of its lower case. -/
theorem pass_foldCase (names : List String) (text : List Char) :
    pass names (foldCase text) = pass names text := by
  have : foldCase (foldCase text) = foldCase text :=
    foldCase_eq_self_iff.2 fun _ => isFolded_of_mem_foldCase
  rw [pass, this, ← pass]

/-! ### Passes come to an end -/

/-- Repeating with early stops is plain repetition. -/
theorem settle_eq_iterate (f : List Char → List Char) (n : Nat) (text : List Char) :
    settle f n text = f^[n] text := by
  induction n generalizing text with
  | zero => rfl
  | succ n ih =>
    rw [settle, iterate_succ_apply]
    split_ifs with h
    · rw [h, IsFixedPt.iterate (f := f) h n]
    · exact ih (f text)

/-- **The normal form is what sixteen passes make.** -/
theorem normalChars_eq_iterate (names : List String) (text : List Char) :
    normalChars names text = (pass names)^[maxPasses] text := by
  rw [normalChars, settle_eq_iterate, ← iterate_succ_apply]
  rfl

theorem foldCase_iterate_pass {names : List String} {text : List Char} (h : foldCase text = text)
    (n : Nat) (hnames : names.Perm functionNames := by exact .refl _) :
    foldCase ((pass names)^[n] text) = (pass names)^[n] text := by
  cases n with
  | zero => exact h
  | succ n =>
    rw [iterate_succ_apply']
    exact foldCase_pass _ hnames

/-- After `n` passes over a text in lower case there is nothing left to do, or at least `n`
pending repairs have been made. -/
theorem isFixedPt_or_pending_le {names : List String} {text : List Char}
    (h : foldCase text = text) (n : Nat)
    (hnames : names.Perm functionNames := by exact .refl _) :
    IsFixedPt (pass names) ((pass names)^[n] text) ∨
      pending functionNames ((pass names)^[n] text) + n ≤ pending functionNames text := by
  induction n with
  | zero => exact Or.inr (Nat.le_refl _)
  | succ n ih =>
    rw [iterate_succ_apply']
    by_cases hfixed : IsFixedPt (pass names) ((pass names)^[n] text)
    · left
      rw [hfixed.eq]
      exact hfixed
    · right
      have hlt := pending_pass_lt (foldCase_iterate_pass h n hnames) hfixed hnames
      have hle := ih.resolve_left hfixed
      omega

theorem isFixedPt_iterate_pass {names : List String} {text : List Char}
    (h : foldCase text = text) {n : Nat} (hn : pending functionNames text ≤ n)
    (hnames : names.Perm functionNames := by exact .refl _) :
    IsFixedPt (pass names) ((pass names)^[n] text) := by
  by_contra hchange
  have hle := (isFixedPt_or_pending_le h n hnames).resolve_left hchange
  have hlt := pending_pass_lt (foldCase_iterate_pass h n hnames) hchange hnames
  omega

/-- Lower case is no pass of its own. -/
theorem iterate_pass_foldCase (names : List String) (text : List Char) {n : Nat} (hn : 0 < n) :
    (pass names)^[n] (foldCase text) = (pass names)^[n] text := by
  obtain ⟨n, rfl⟩ := Nat.exists_eq_succ_of_ne_zero (Nat.pos_iff_ne_zero.1 hn)
  rw [iterate_succ_apply, iterate_succ_apply, pass_foldCase]

theorem prefix_of_prefix_map_foldWidth {p text : List Char} (hp : ∀ c ∈ p, c ≠ '(' ∧ c ≠ ')')
    (h : p <+: text.map foldWidth) : p <+: text := by
  induction p generalizing text with
  | nil => exact List.nil_prefix
  | cons c p ih =>
    cases text with
    | nil => simp at h
    | cons d text =>
      rw [List.map_cons, List.cons_prefix_cons] at h
      obtain ⟨hhead, htail⟩ := h
      have hc := hp c (List.mem_cons_self ..)
      refine List.cons_prefix_cons.2 ⟨?_, ih (fun e he => hp e (List.mem_cons_of_mem _ he)) htail⟩
      unfold foldWidth at hhead
      split_ifs at hhead
      · exact absurd hhead hc.1
      · exact absurd hhead hc.2
      · exact hhead

/-- ASCII parentheses make no names. -/
theorem candidates_map_foldWidth_le (text : List Char) :
    candidates functionNames (text.map foldWidth) ≤ candidates functionNames text := by
  have hhere : ∀ text, candidatesHere functionNames (text.map foldWidth) ≤
      candidatesHere functionNames text := by
    intro text
    refine Nat.add_le_add ?_ (List.countP_mono_left fun name hname h => ?_)
    · cases h : startsLn (text.map foldWidth) with
      | false => exact Nat.zero_le _
      | true =>
        rw [startsLn_iff] at h
        simp [startsLn_iff.2 (prefix_of_prefix_map_foldWidth (by simp) h)]
    · rw [List.isPrefixOf_iff_prefix] at h ⊢
      refine prefix_of_prefix_map_foldWidth (fun c hc => ?_) h
      have := mem_functionNames_letters name hname c hc
      constructor <;> rintro rfl <;> exact absurd this (by decide)
  induction text with
  | nil => exact Nat.le_refl _
  | cons c text ih => exact Nat.add_le_add (hhere (c :: text)) ih

theorem pending_foldCase_le (text : List Char) :
    pending functionNames (foldCase text) ≤ candidates functionNames (lower text) :=
  Nat.le_trans (pending_le_candidates ..) (candidates_map_foldWidth_le _)

theorem isFixedPt_iterate_max {names : List String} (text : List Char) {n : Nat} (hpos : 0 < n)
    (hn : candidates functionNames (lower text) ≤ n)
    (hnames : names.Perm functionNames := by exact .refl _) :
    IsFixedPt (pass names) ((pass names)^[n] text) := by
  have hfold : foldCase (foldCase text) = foldCase text :=
    foldCase_eq_self_iff.2 fun _ => isFolded_of_mem_foldCase
  rw [← iterate_pass_foldCase names text hpos]
  exact isFixedPt_iterate_pass hfold (Nat.le_trans (pending_foldCase_le text) hn) hnames

/-- **Progress and the number of passes.**  A pass that changes a text in lower case with
ASCII parentheses leaves fewer repairs pending.  So passes over any text come to an end, at
the latest after as many as there are candidates in its lower-case form, and one at least.
The normal form is the sixteenth pass, and it is final if there are no more than sixteen
candidates. -/
theorem pass_progress_and_bound :
    (∀ text, lower text = text → text.map foldWidth = text →
      pass functionNames text ≠ text →
        pending functionNames (pass functionNames text) < pending functionNames text) ∧
    (∀ text, IsFixedPt (pass functionNames)
        ((pass functionNames)^[max 1 (candidates functionNames (lower text))] text) ∧
      ∀ n, max 1 (candidates functionNames (lower text)) ≤ n →
        (pass functionNames)^[n] text =
          (pass functionNames)^[max 1 (candidates functionNames (lower text))] text) ∧
    ∀ text : String, (normalize text).toList = (pass functionNames)^[16] text.toList ∧
      (candidates functionNames (lower text.toList) ≤ 16 →
        IsFixedPt (pass functionNames) (normalize text).toList) := by
  refine ⟨fun text hlower hwidth => ?_, fun text => ?_, fun text => ?_⟩
  · exact pending_pass_lt (by rw [foldCase, hlower, hwidth])
  · have hfixed := isFixedPt_iterate_max text (Nat.le_max_left 1 _) (Nat.le_max_right 1 _)
    refine ⟨hfixed, fun n hn => ?_⟩
    obtain ⟨more, rfl⟩ := Nat.exists_eq_add_of_le' hn
    rw [iterate_add_apply]
    exact hfixed.iterate more
  · have hnormal : (normalize text).toList = (pass functionNames)^[16] text.toList := by
      rw [toList_normalize, normalChars_eq_iterate]
      rfl
    exact ⟨hnormal, fun h => hnormal ▸ isFixedPt_iterate_max text.toList (by omega) h⟩

theorem pass_progress_and_bound_ln_call :
    (lower "ln xsinx".toList = "ln xsinx".toList ∧
      "ln xsinx".toList.map foldWidth = "ln xsinx".toList ∧
      pass functionNames "ln xsinx".toList ≠ "ln xsinx".toList ∧
      pending functionNames (pass functionNames "ln xsinx".toList) <
        pending functionNames "ln xsinx".toList) ∧
    candidates functionNames (lower "LN xSINx".toList) ≤ 16 ∧
      IsFixedPt (pass functionNames) (normalize "LN xSINx").toList :=
  ⟨⟨by decide, by decide, by decide,
      pass_progress_and_bound.1 _ (by decide) (by decide) (by decide)⟩,
    by decide, (pass_progress_and_bound.2.2 _).2 (by decide)⟩

end Formula
end CurveSheet
