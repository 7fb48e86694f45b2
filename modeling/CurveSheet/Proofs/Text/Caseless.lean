/-
# Characters without case

Most characters lower case neither changes nor writes: no run of characters with another
lower-case form holds them, and no image of a run (`CharTable.isCaseless`).  Blanks and the
signs of formulas are among them (`isCaseless_isBlank`, `isCaseless_beq`).  Of such characters a
text has the same, in the same order, before and after (`IsCaseless.filter_lower`).
-/

import CurveSheet.Proofs.Text.LowerCase
import CurveSheet.Text.Blank

namespace CurveSheet
namespace Text

/-- Lower case leaves the characters of a set as they are and writes none of them for
another character. -/
structure IsCaseless (p : Char → Bool) : Prop where
  unchanged {c : Char} (hc : p c = true) : isLower c = true
  unwritten {c : Char} (hc : p c = false) {before after : List Char} {d : Char}
    (hd : d ∈ lowerAt before c after) : p d = false

theorem IsCaseless.or {p q : Char → Bool} (hp : IsCaseless p) (hq : IsCaseless q) :
    IsCaseless fun c => p c || q c where
  unchanged hc := by
    rcases Bool.or_eq_true_iff.1 hc with hc | hc
    · exact hp.unchanged hc
    · exact hq.unchanged hc
  unwritten hc _ _ _ hd := by
    rw [Bool.or_eq_false_iff] at hc ⊢
    exact ⟨hp.unwritten hc.1 hd, hq.unwritten hc.2 hd⟩

/-! ### Tables -/

/-- The range lies beside the members of the run and beside their images. -/
def CaseRun.isBeside (run : CaseRun) (range : Nat × Nat) : Bool :=
  (run.last < range.1 || range.2 < run.first) &&
    (run.image + (run.last - run.first) < range.1 || range.2 < run.image)

/-- The table lies beside all runs, and holds none of the characters that are written apart
from them. -/
def CharTable.missesCase (table : CharTable) : Bool :=
  (upperRuns.all fun run => table.ranges.all run.isBeside) &&
    ['i', '\u0307', 'ς', 'σ', '\x00'].all fun c => !table.contains c

/-- **A table that lies beside all runs is one of caseless characters.** -/
theorem CharTable.isCaseless {table : CharTable} (h : table.missesCase = true) :
    IsCaseless table.contains := by
  rw [missesCase, Bool.and_eq_true] at h
  obtain ⟨hruns, hapart⟩ := h
  have hbeside {run : CaseRun} (hrun : run ∈ upperRuns) {range : Nat × Nat}
      (hrange : range ∈ table.ranges) : run.isBeside range = true :=
    List.all_eq_true.1 (List.all_eq_true.1 hruns run hrun) range hrange
  have hmissing {c : Char} (hc : c ∈ ['i', '\u0307', 'ς', 'σ', '\x00']) :
      table.contains c = false := by
    simpa using List.all_eq_true.1 hapart c hc
  constructor
  · intro c hc
    obtain ⟨range, hrange, hlow, hhigh⟩ := CharTable.contains_iff.1 hc
    refine isLower_of_isUncovered fun run hrun => ?_
    have hrun := hbeside hrun hrange
    simp only [CaseRun.isBeside, Bool.and_eq_true, Bool.or_eq_true, decide_eq_true_eq] at hrun
    rw [Bool.eq_false_iff, Ne, CaseRun.covers_iff]
    rintro ⟨hfirst, hlast, -⟩
    omega
  · intro c hc before after d hd
    unfold lowerAt at hd
    split_ifs at hd with hsigma hfinal hdotted
    · exact hmissing ((by decide : ['ς'] ⊆ ['i', '\u0307', 'ς', 'σ', '\x00']) hd)
    · exact hmissing ((by decide : ['σ'] ⊆ ['i', '\u0307', 'ς', 'σ', '\x00']) hd)
    · exact hmissing ((by decide : ['i', '\u0307'] ⊆ ['i', '\u0307', 'ς', 'σ', '\x00']) hd)
    · obtain rfl := List.mem_singleton.1 hd
      rcases lowerChar_cases c with ⟨hsame, -⟩ | ⟨run, hrun, hcovers, hform⟩
      · rwa [hsame]
      rw [hform]
      rcases toNat_ofNat (run.lower c.toNat) with hnat | hnull
      · rw [Bool.eq_false_iff]
        intro hcontains
        obtain ⟨range, hrange, hlow, hhigh⟩ := CharTable.contains_iff.1 hcontains
        have hrun := hbeside hrun hrange
        obtain ⟨hfirst, hlast, -⟩ := CaseRun.covers_iff.1 hcovers
        simp only [CaseRun.isBeside, Bool.and_eq_true, Bool.or_eq_true, decide_eq_true_eq] at hrun
        rw [hnat, CaseRun.lower] at hlow hhigh
        omega
      · rw [hnull]
        exact hmissing (by simp)

theorem isCaseless_isBlank : IsCaseless isBlank :=
  CharTable.isCaseless (by decide +kernel)

/-- A single character. -/
theorem isCaseless_beq {d : Char} (h : (CharTable.mk [(d.toNat, d.toNat)]).missesCase = true) :
    IsCaseless (· == d) := by
  have hsame : (· == d) = (CharTable.mk [(d.toNat, d.toNat)]).contains := by
    funext c
    rw [Bool.eq_iff_iff, beq_iff_eq, CharTable.contains_iff, ← Char.toNat_inj]
    simp [Nat.le_antisymm_iff, and_comm]
  rw [hsame]
  exact CharTable.isCaseless h

/-! ### Texts -/

theorem lowerAt_ne_nil (before : List Char) (c : Char) (after : List Char) :
    lowerAt before c after ≠ [] := by
  unfold lowerAt
  split_ifs <;> simp

theorem IsCaseless.filter_lowerFrom {p : Char → Bool} (h : IsCaseless p)
    (before text : List Char) : (lowerFrom before text).filter p = text.filter p := by
  induction text generalizing before with
  | nil => rfl
  | cons c after ih =>
    rw [lowerFrom, List.filter_append, ih]
    by_cases hc : p c = true
    · rw [lowerAt_eq_self (h.unchanged hc), List.filter_cons_of_pos hc, List.filter_cons_of_pos hc]
      rfl
    · have hform : (lowerAt before c after).filter p = [] :=
        List.filter_eq_nil_iff.2 fun d hd => by
          simp [h.unwritten (Bool.eq_false_iff.2 hc) hd]
      rw [hform, List.filter_cons_of_neg hc, List.nil_append]

/-- **Lower case keeps the caseless characters of a text,** and no others become such. -/
theorem IsCaseless.filter_lower {p : Char → Bool} (h : IsCaseless p) (text : List Char) :
    (lower text).filter p = text.filter p := h.filter_lowerFrom [] text

end Text
end CurveSheet
