/-
# Bare calls

A *bare call* is a function name, blanks and a bare run: what `callRule` matches.  This
module says what its match looks like (`exists_of_callRule`), when there is one
(`callRule_eq_none_iff`), and that whether a bare call starts at a place depends only on the
characters up to the first of its run (`startsBareCall_iff`).  The first opening
parenthesis thus ends all that matters, which is how a repaired call stays repaired.
-/

import CurveSheet.Proofs.Formula.Replacement
import Mathlib.Data.List.TakeWhile

namespace CurveSheet
namespace Formula

open Text

theorem cons_isPrefixOf?_cons (c d : Char) (name text : List Char) :
    (c :: name).isPrefixOf? (d :: text) = if c == d then name.isPrefixOf? text else none := rfl

theorem isPrefixOf?_eq_some_iff {name text rest : List Char} :
    name.isPrefixOf? text = some rest ↔ text = name ++ rest := by
  induction name generalizing text with
  | nil =>
    change some text = some rest ↔ text = rest
    rw [Option.some.injEq]
  | cons c name ih =>
    cases text with
    | nil =>
      change none = some rest ↔ _
      simp
    | cons d text =>
      by_cases h : c = d
      · simp [cons_isPrefixOf?_cons, h, ih]
      · simp [cons_isPrefixOf?_cons, h, Ne.symm h]

/-- The characters of a run are no blanks. -/
theorem isBlank_eq_false_of_isRunChar {c : Char} (h : isRunChar c = true) : isBlank c = false := by
  simp only [isRunChar, Bool.or_eq_true, Bool.and_eq_true, decide_eq_true_eq, beq_iff_eq] at h
  rcases h with (⟨hlow, hhigh⟩ | rfl) | rfl
  · have hbounds : 48 ≤ c.toNat ∧ c.toNat ≤ 57 := ⟨hlow, hhigh⟩
    exact isBlank_eq_false_of_visible (by omega) (by omega)
  · decide
  · decide

/-! ### What the rule matches -/

/-- A bare call of a function starts the text. -/
def startsBareCall (name text : List Char) : Bool :=
  match name.isPrefixOf? text with
  | none => false
  | some rest => (rest.dropWhile isBlank).head?.any isRunChar

/-- **What a call's repair matches:** the name, blanks and a whole run.  The run gets its
parentheses and the blanks vanish. -/
theorem exists_of_callRule {name text replacement : List Char} {width : Nat}
    (h : callRule name text = some (replacement, width)) :
    ∃ blanks run rest, text = name ++ blanks ++ run ++ rest ∧
      (∀ c ∈ blanks, isBlank c = true) ∧ run ≠ [] ∧ (∀ c ∈ run, isRunChar c = true) ∧
      replacement = name ++ '(' :: run ++ [')'] ∧
      width = (name ++ blanks ++ run).length ∧ rest.head?.any isRunChar = false := by
  unfold callRule at h
  split at h
  · cases h
  · rename_i rest hname
    rw [isPrefixOf?_eq_some_iff] at hname
    simp only [Option.ite_none_left_eq_some, Option.some.injEq, Prod.mk.injEq] at h
    obtain ⟨hne, rfl, rfl⟩ := h
    refine ⟨rest.takeWhile isBlank, (rest.dropWhile isBlank).takeWhile isRunChar,
      (rest.dropWhile isBlank).dropWhile isRunChar, ?_, fun c hc => List.mem_takeWhile_imp hc,
      by simpa using hne, fun c hc => List.mem_takeWhile_imp hc, rfl, by simp; omega, ?_⟩
    · rw [hname, List.append_assoc, List.takeWhile_append_dropWhile, List.append_assoc,
        List.takeWhile_append_dropWhile]
    · have hstop := List.head?_dropWhile_not isRunChar (rest.dropWhile isBlank)
      cases hhead : ((rest.dropWhile isBlank).dropWhile isRunChar).head? with
      | none => rfl
      | some c =>
        rw [hhead] at hstop
        exact hstop

/-- The repair of a call matches all of that. -/
theorem callRule_append (name : List Char) {blanks run rest : List Char}
    (hblanks : ∀ c ∈ blanks, isBlank c = true) (hne : run ≠ [])
    (hrun : ∀ c ∈ run, isRunChar c = true) (hend : rest.head?.any isRunChar = false) :
    callRule name (name ++ blanks ++ run ++ rest) =
      some (name ++ '(' :: run ++ [')'], (name ++ blanks ++ run).length) := by
  obtain ⟨c, others, rfl⟩ := List.exists_cons_of_ne_nil hne
  have hc : isBlank c = false := isBlank_eq_false_of_isRunChar (hrun c (List.mem_cons_self ..))
  have hstop : rest.takeWhile isRunChar = [] := by
    cases rest with
    | nil => rfl
    | cons d rest =>
      rw [List.head?_cons, Option.any_some] at hend
      simp [hend]
  have hname : name.isPrefixOf? (name ++ blanks ++ c :: others ++ rest) =
      some (blanks ++ (c :: others ++ rest)) := by
    rw [isPrefixOf?_eq_some_iff]
    simp
  have htake : (blanks ++ (c :: others ++ rest)).takeWhile isBlank = blanks := by
    simp [List.takeWhile_append_of_pos hblanks, hc]
  have hdrop : (blanks ++ (c :: others ++ rest)).dropWhile isBlank = c :: others ++ rest := by
    simp [List.dropWhile_append_of_pos hblanks, hc]
  have htaken : (c :: others ++ rest).takeWhile isRunChar = c :: others := by
    rw [List.takeWhile_append_of_pos hrun, hstop, List.append_nil]
  unfold callRule
  simp only [hname, htake, hdrop, htaken]
  simp [Nat.add_assoc]

/-- The repair of calls matches where a bare call starts, and nowhere else. -/
theorem callRule_eq_none_iff {name text : List Char} :
    callRule name text = none ↔ startsBareCall name text = false := by
  unfold callRule startsBareCall
  cases name.isPrefixOf? text with
  | none => simp
  | some rest =>
    simp only
    cases rest.dropWhile isBlank with
    | nil => simp
    | cons c behind => by_cases hc : isRunChar c = true <;> simp [hc]

theorem callRule_isProper {name : List Char} (hname : name ≠ []) : (callRule name).IsProper := by
  intro text replacement width h
  obtain ⟨blanks, run, rest, rfl, -, hrun, -, -, rfl, -⟩ := exists_of_callRule h
  have := List.length_pos_iff.2 hname
  simp
  omega

theorem logarithmRule_isProper : logarithmRule.IsProper := by
  intro text replacement width h
  unfold logarithmRule at h
  split at h
  · rename_i rest
    split at h
    · split at h
      · cases h
      · cases h
        simp
    · cases h
      simp
  · cases h

/-- The match of a call's repair, seen from its last character. -/
theorem exists_of_callRule_concat {name matched rest replacement : List Char} {last : Char}
    (h : callRule name (matched ++ last :: rest) = some (replacement, matched.length + 1)) :
    ∃ blanks run, matched ++ [last] = name ++ blanks ++ run ∧
      (∀ c ∈ blanks, isBlank c = true) ∧ run ≠ [] ∧ (∀ c ∈ run, isRunChar c = true) ∧
      replacement = name ++ '(' :: run ++ [')'] := by
  obtain ⟨blanks, run, behind, htext, hblanks, hne, hrun, hreplacement, hwidth, -⟩ :=
    exists_of_callRule h
  refine ⟨blanks, run, ?_, hblanks, hne, hrun, hreplacement⟩
  rw [show matched ++ last :: rest = (matched ++ [last]) ++ rest by simp] at htext
  exact (List.append_inj htext (by rw [← hwidth]; simp)).1

/-! ### Where a bare call starts -/

/-- **A bare call starts with its name, blanks and one character of a run.** -/
theorem startsBareCall_iff {name text : List Char} :
    startsBareCall name text = true ↔ ∃ blanks c, (∀ b ∈ blanks, isBlank b = true) ∧
      isRunChar c = true ∧ name ++ blanks ++ [c] <+: text := by
  constructor
  · intro h
    unfold startsBareCall at h
    split at h
    · cases h
    · rename_i rest hname
      rw [isPrefixOf?_eq_some_iff] at hname
      obtain ⟨c, hhead, hc⟩ := (Option.any_eq_true ..).1 h
      obtain ⟨behind, hbehind⟩ := List.head?_eq_some_iff.1 hhead
      refine ⟨rest.takeWhile isBlank, c, fun b hb => List.mem_takeWhile_imp hb, hc, behind, ?_⟩
      rw [hname, List.append_assoc, List.append_assoc, List.singleton_append,
        ← hbehind, List.takeWhile_append_dropWhile]
  · rintro ⟨blanks, c, hblanks, hc, behind, rfl⟩
    have hdrop : (blanks ++ [c] ++ behind).dropWhile isBlank = c :: behind := by
      rw [List.append_assoc, List.dropWhile_append_of_pos hblanks, List.singleton_append,
        List.dropWhile_cons_of_neg (by simp [isBlank_eq_false_of_isRunChar hc])]
    unfold startsBareCall
    rw [isPrefixOf?_eq_some_iff.2 (show name ++ blanks ++ [c] ++ behind =
      name ++ (blanks ++ [c] ++ behind) by simp)]
    simp only [hdrop]
    exact hc

end Formula
end CurveSheet
