/-
# Lower case is final

What has been made lower case stays as it is.  A character that lower case changes is a
member of a run (`lowerChar_cases`), and no image of a run is a member of one
(`upperRuns_miss`), so the lower-case form of a character is its own lower-case form
(`isLower_lowerChar`).  A text is its own lower-case form exactly if each of its
characters is (`lower_eq_self_iff`), and every character of a lower-case form is
(`isLower_of_mem_lower`).
-/

import CurveSheet.Text.LowerCase
import Mathlib.Tactic.SplitIfs

namespace CurveSheet
namespace Text

/-! ### Images and members of runs -/

/-- The images of a run lie beside another run, or between its members. -/
def CaseRun.misses (run other : CaseRun) : Bool :=
  run.image + (run.last - run.first) < other.first || other.last < run.image ||
    ((run.step == 2 || run.first == run.last) && other.step == 2 &&
      (run.image + other.first) % 2 == 1)

/-- All characters that lower case changes: the ASCII capitals, `İ`, and those of the table. -/
def upperRuns : List CaseRun := ⟨0x41, 0x5A, 1, 0x61⟩ :: ⟨0x130, 0x130, 2, 0x69⟩ :: caseRuns

theorem upperRuns_miss : (upperRuns.all fun run => upperRuns.all run.misses) = true := by
  decide +kernel

theorem caseRuns_beyond_ascii : (caseRuns.all fun run => decide (0x80 ≤ run.first)) = true := by
  decide +kernel

theorem CaseRun.covers_iff {run : CaseRun} {n : Nat} :
    run.covers n = true ↔ run.first ≤ n ∧ n ≤ run.last ∧ (n - run.first) % run.step = 0 := by
  simp [covers, and_assoc]

/-- The image of a member of one run is no member of another that the run misses. -/
theorem CaseRun.covers_lower_eq_false {run other : CaseRun} (h : run.misses other = true) {n : Nat}
    (hn : run.covers n = true) : other.covers (run.lower n) = false := by
  obtain ⟨hfirst, hlast, hstep⟩ := covers_iff.1 hn
  rw [Bool.eq_false_iff]
  intro hcovers
  obtain ⟨hfirst', hlast', hstep'⟩ := covers_iff.1 hcovers
  unfold CaseRun.lower at hfirst' hlast' hstep'
  simp only [misses, Bool.or_eq_true, Bool.and_eq_true, decide_eq_true_eq, beq_iff_eq] at h
  rcases h with (h | h) | ⟨⟨h, htwo⟩, hodd⟩
  · omega
  · omega
  · rw [htwo] at hstep'
    rcases h with h | h
    · rw [h] at hstep
      omega
    · omega

/-- No run covers the code point. -/
def IsUncovered (n : Nat) : Prop := ∀ run ∈ upperRuns, run.covers n = false

theorem isUncovered_lower {run : CaseRun} (hrun : run ∈ upperRuns) {n : Nat}
    (hn : run.covers n = true) : IsUncovered (run.lower n) := fun other hother =>
  CaseRun.covers_lower_eq_false
    (List.all_eq_true.1 (List.all_eq_true.1 upperRuns_miss run hrun) other hother) hn

/-- The code point of a character that is made of a code point. -/
theorem toNat_ofNat (n : Nat) : (Char.ofNat n).toNat = n ∨ Char.ofNat n = '\x00' := by
  by_cases h : n.isValidChar
  · exact Or.inl (by rw [Char.ofNat, dif_pos h]; rfl)
  · exact Or.inr (by rw [Char.ofNat, dif_neg h]; rfl)

/-! ### Characters -/

/-- Two runs stand before the table: the capitals of ASCII, and a single character. -/
theorem isUncovered_of_caseRuns {c : Char} (hcapital : ¬('A' ≤ c ∧ c ≤ 'Z'))
    (hruns : ∀ run ∈ caseRuns, run.covers c.toNat = false) : IsUncovered c.toNat ∨ c = 'İ' := by
  by_cases hdotted : c = 'İ'
  · exact .inr hdotted
  · refine .inl (List.forall_mem_cons.2 ⟨?_, List.forall_mem_cons.2 ⟨?_, hruns⟩⟩)
    · rw [Bool.eq_false_iff, Ne, CaseRun.covers_iff]
      exact fun hcovers => hcapital ⟨hcovers.1, hcovers.2.1⟩
    · rw [Bool.eq_false_iff, Ne, CaseRun.covers_iff]
      rintro ⟨hfirst, hlast, -⟩
      exact hdotted (Char.toNat_inj.1 (Nat.le_antisymm hlast hfirst))

/-- **A character stays as it is, or a run that covers it has its lower-case form.** -/
theorem lowerChar_cases (c : Char) :
    lowerChar c = c ∧ (IsUncovered c.toNat ∨ c = 'İ') ∨
      ∃ run ∈ upperRuns, run.covers c.toNat = true ∧
        lowerChar c = Char.ofNat (run.lower c.toNat) := by
  by_cases hcapital : 'A' ≤ c ∧ c ≤ 'Z'
  · right
    have hbounds : 65 ≤ c.toNat ∧ c.toNat ≤ 90 := hcapital
    refine ⟨⟨0x41, 0x5A, 1, 0x61⟩, by simp [upperRuns],
      CaseRun.covers_iff.2 ⟨hbounds.1, hbounds.2, Nat.mod_one _⟩, ?_⟩
    rw [lowerChar, if_pos (by simpa using hcapital), CaseRun.lower]
    congr 1
    simp only
    omega
  by_cases hascii : c.toNat < 0x80
  · left
    refine ⟨by rw [lowerChar, if_neg (by simpa using hcapital), if_pos hascii],
      isUncovered_of_caseRuns hcapital fun run hrun => ?_⟩
    have hbeyond := List.all_eq_true.1 caseRuns_beyond_ascii run hrun
    rw [decide_eq_true_eq] at hbeyond
    rw [Bool.eq_false_iff, Ne, CaseRun.covers_iff]
    rintro ⟨hfirst, -, -⟩
    omega
  cases hrun : caseRuns.find? fun run => run.covers c.toNat with
  | none =>
    left
    refine ⟨by rw [lowerChar, if_neg (by simpa using hcapital), if_neg hascii, hrun],
      isUncovered_of_caseRuns hcapital fun run hmem => ?_⟩
    simpa using List.find?_eq_none.1 hrun run hmem
  | some run =>
    right
    refine ⟨run, ?_, by simpa using List.find?_some hrun, ?_⟩
    · exact List.mem_cons_of_mem _ (List.mem_cons_of_mem _ (List.mem_of_find?_eq_some hrun))
    · rw [lowerChar, if_neg (by simpa using hcapital), if_neg hascii, hrun]

/-- The character is its own lower-case form, wherever it stands. -/
def isLower (c : Char) : Bool := c != 'Σ' && c != 'İ' && lowerChar c == c

theorem isLower_of_isUncovered {c : Char} (h : IsUncovered c.toNat) : isLower c = true := by
  have hself : lowerChar c = c := by
    rcases lowerChar_cases c with ⟨hsame, -⟩ | ⟨run, hrun, hcovers, -⟩
    · exact hsame
    · exact absurd hcovers (by simp [h run hrun])
  have hsigma : c ≠ 'Σ' := by
    rintro rfl
    exact absurd hself (by decide)
  have hdotted : c ≠ 'İ' := by
    rintro rfl
    exact absurd (h ⟨0x130, 0x130, 2, 0x69⟩ (by simp [upperRuns])) (by decide)
  simp [isLower, hself, hsigma, hdotted]

theorem lowerChar_eq_self {c : Char} (h : isLower c = true) : lowerChar c = c := by
  simp only [isLower, Bool.and_eq_true, beq_iff_eq] at h
  exact h.2

/-- **The lower-case form of a character is final**, of all characters but `İ`, whose
lower-case form is no single character. -/
theorem isLower_lowerChar {c : Char} (hdotted : c ≠ 'İ') : isLower (lowerChar c) = true := by
  rcases lowerChar_cases c with ⟨hsame, huncovered | rfl⟩ | ⟨run, hrun, hcovers, hform⟩
  · rw [hsame]
    exact isLower_of_isUncovered huncovered
  · exact absurd rfl hdotted
  · rw [hform]
    rcases toNat_ofNat (run.lower c.toNat) with h | h
    · exact isLower_of_isUncovered (by rw [h]; exact isUncovered_lower hrun hcovers)
    · rw [h]
      decide

/-! ### Texts -/

theorem lowerAt_eq_self {c : Char} (h : isLower c = true) (before after : List Char) :
    lowerAt before c after = [c] := by
  have hself := lowerChar_eq_self h
  simp only [isLower, Bool.and_eq_true, bne_iff_ne, ne_eq] at h
  rw [lowerAt, if_neg h.1.1, if_neg h.1.2, hself]

theorem isLower_of_mem_lowerAt {before after : List Char} {c d : Char}
    (h : d ∈ lowerAt before c after) : isLower d = true := by
  unfold lowerAt at h
  split_ifs at h with hsigma hfinal hdotted
  · obtain rfl := List.mem_singleton.1 h
    decide
  · obtain rfl := List.mem_singleton.1 h
    decide
  · simp only [List.mem_cons, List.not_mem_nil, or_false] at h
    rcases h with rfl | rfl <;> decide
  · obtain rfl := List.mem_singleton.1 h
    exact isLower_lowerChar hdotted

theorem isLower_of_mem_lowerFrom {before text : List Char} {d : Char}
    (h : d ∈ lowerFrom before text) : isLower d = true := by
  induction text generalizing before with
  | nil => simp [lowerFrom] at h
  | cons c after ih =>
    rcases List.mem_append.1 h with h | h
    · exact isLower_of_mem_lowerAt h
    · exact ih h

/-- **Every character of a lower-case form is final.** -/
theorem isLower_of_mem_lower {text : List Char} {d : Char} (h : d ∈ lower text) :
    isLower d = true := isLower_of_mem_lowerFrom h

theorem lowerFrom_eq_self {text : List Char} (h : ∀ c ∈ text, isLower c = true)
    (before : List Char) : lowerFrom before text = text := by
  induction text generalizing before with
  | nil => rfl
  | cons c after ih =>
    rw [lowerFrom, lowerAt_eq_self (h c (List.mem_cons_self ..)),
      ih fun d hd => h d (List.mem_cons_of_mem _ hd)]
    rfl

/-- **A text is its own lower-case form exactly if each of its characters is.** -/
theorem lower_eq_self_iff {text : List Char} :
    lower text = text ↔ ∀ c ∈ text, isLower c = true :=
  ⟨fun h _ hc => isLower_of_mem_lower (h ▸ hc), fun h => lowerFrom_eq_self h []⟩

end Text
end CurveSheet
