/-
# Repairs that are pending

The *pending* repairs of a text are its occurrences of `ln` and its bare calls, both
counted wherever they stand, at the start of a word or not; they are some of its
*candidates*, the places where a name stands at all (`pending_le_candidates`).  No bare
call reaches over a parenthesis, so a call that has got its parentheses is no longer
pending, and nothing in it is (`pending_wrapped`).
-/

import CurveSheet.Proofs.Formula.Call
import Mathlib.Data.List.Infix

namespace CurveSheet
namespace Formula

open Text

/-! ### Counting places -/

/-- The sum of a number that every place of a text has, given what stands from there on. -/
def sumPlaces (f : List Char → Nat) : List Char → Nat
  | [] => 0
  | c :: rest => f (c :: rest) + sumPlaces f rest

theorem sumPlaces_append_le (f : List Char → Nat) (left right : List Char) :
    sumPlaces f right ≤ sumPlaces f (left ++ right) := by
  induction left with
  | nil => exact Nat.le_refl _
  | cons c left ih => exact Nat.le_trans ih (Nat.le_add_left ..)

/-- Places that count nothing do not matter. -/
theorem sumPlaces_append_eq {f : List Char → Nat} {left right : List Char}
    (h : ∀ tail, tail ≠ [] → tail <:+ left → f (tail ++ right) = 0) :
    sumPlaces f (left ++ right) = sumPlaces f right := by
  induction left with
  | nil => rfl
  | cons c left ih =>
    have hhead : f (c :: (left ++ right)) = 0 :=
      h (c :: left) (List.cons_ne_nil _ _) (List.suffix_refl _)
    rw [List.cons_append, sumPlaces, hhead, Nat.zero_add]
    exact ih fun tail hne htail => h tail hne (htail.trans (List.suffix_cons ..))

theorem sumPlaces_le_sumPlaces {f g : List Char → Nat} (h : ∀ text, f text ≤ g text)
    (text : List Char) : sumPlaces f text ≤ sumPlaces g text := by
  induction text with
  | nil => exact Nat.le_refl _
  | cons c rest ih => exact Nat.add_le_add (h _) ih

/-- `ln` starts the text. -/
def startsLn (text : List Char) : Bool := ['l', 'n'].isPrefixOf text

theorem startsLn_iff {text : List Char} : startsLn text = true ↔ ['l', 'n'] <+: text :=
  List.isPrefixOf_iff_prefix

/-- The number of repairs that are pending at the start of a text: one for `ln`, and one for
each function of which a bare call starts there. -/
def pendingHere (names : List String) (text : List Char) : Nat :=
  (if startsLn text then 1 else 0) + names.countP fun name => startsBareCall name.toList text

/-- The number of repairs that are pending in a text. -/
def pending (names : List String) : List Char → Nat := sumPlaces (pendingHere names)

/-- The number of names, `ln` among them, that start the text. -/
def candidatesHere (names : List String) (text : List Char) : Nat :=
  (if startsLn text then 1 else 0) + names.countP fun name => name.toList.isPrefixOf text

/-- The number of pairs of a place and a name, `ln` among the names, that stands there. -/
def candidates (names : List String) : List Char → Nat := sumPlaces (candidatesHere names)

/-- Only what is a name can be a bare call. -/
theorem pending_le_candidates (names : List String) (text : List Char) :
    pending names text ≤ candidates names text := by
  refine sumPlaces_le_sumPlaces (fun text => Nat.add_le_add_left ?_ _) text
  refine List.countP_mono_left fun name _ h => ?_
  obtain ⟨blanks, c, -, -, hstart⟩ := startsBareCall_iff.1 h
  rw [List.isPrefixOf_iff_prefix]
  exact ((List.prefix_append ..).trans (List.prefix_append ..)).trans hstart

/-! ### The table of functions -/

theorem mem_functionNames_letters :
    ∀ name ∈ functionNames, ∀ c ∈ name.toList, 'a' ≤ c ∧ c ≤ 'z' := by
  -- The lists are walked as such: the characters are a finite type too, and a large one.
  have hall : functionNames.all fun name => name.toList.all fun c => 'a' ≤ c && c ≤ 'z' := by
    decide
  simpa only [List.all_eq_true, Bool.and_eq_true, decide_eq_true_eq] using hall

theorem mem_functionNames_head : ∀ name ∈ functionNames,
    ∃ c ∈ ['s', 'c', 't', 'l', 'a', 'e'], name.toList.head? = some c := by
  have hall : functionNames.all fun name =>
      ['s', 'c', 't', 'l', 'a', 'e'].any fun c => name.toList.head? == some c := by
    decide
  simpa only [List.all_eq_true, List.any_eq_true, beq_iff_eq] using hall

theorem mem_functionNames_tails : ∀ name ∈ functionNames, ∀ tail ∈ name.toList.tails,
    startsLn tail = false ∧ ∀ other ∈ functionNames, startsBareCall other.toList tail = false := by
  decide

theorem not_paren_mem_name {name : String} (hname : name ∈ functionNames) :
    '(' ∉ name.toList := fun h => absurd (mem_functionNames_letters name hname _ h) (by decide)

theorem name_ne_nil {name : String} (hname : name ∈ functionNames) : name.toList ≠ [] := by
  obtain ⟨c, -, hc⟩ := mem_functionNames_head name hname
  rintro h
  simp [h] at hc

/-! ### No bare call reaches over a parenthesis -/

theorem prefix_of_prefix_append_cons {α : Type} {p left right : List α} {x : α}
    (h : p <+: left ++ x :: right) (hx : x ∉ p) : p <+: left := by
  rcases List.prefix_or_prefix_of_prefix h (List.prefix_append left (x :: right)) with hp | hp
  · exact hp
  · obtain ⟨q, rfl⟩ := hp
    rw [List.prefix_append_right_inj, List.prefix_cons_iff] at h
    rcases h with rfl | ⟨t, rfl, -⟩
    · simp
    · simp at hx

/-- What shows that a bare call starts: a prefix without parentheses. -/
theorem exists_prefix_of_startsBareCall {name : String} (hname : name ∈ functionNames)
    {text : List Char} (h : startsBareCall name.toList text = true) :
    ∃ p, p <+: text ∧ '(' ∉ p ∧ ∀ other, p <+: other → startsBareCall name.toList other = true := by
  obtain ⟨blanks, c, hblanks, hc, hstart⟩ := startsBareCall_iff.1 h
  refine ⟨_, hstart, ?_, fun other hother => startsBareCall_iff.2
    ⟨blanks, c, hblanks, hc, hother⟩⟩
  simp only [List.mem_append, List.mem_singleton, not_or]
  refine ⟨⟨not_paren_mem_name hname, fun hmem => ?_⟩, ?_⟩
  · exact absurd (hblanks _ hmem) (by decide)
  · rintro rfl
    exact absurd hc (by decide)

/-- Nothing is pending where a letter stands with which no name starts. -/
theorem pendingHere_cons_eq_zero {c : Char} (hc : c ∉ ['s', 'c', 't', 'l', 'a', 'e'])
    (rest : List Char) : pendingHere functionNames (c :: rest) = 0 := by
  have hln : startsLn (c :: rest) = false := by
    have : ('l' == c) = false := by
      rw [beq_eq_false_iff_ne]
      rintro rfl
      simp at hc
    simp [startsLn, List.isPrefixOf, this]
  have hcalls : functionNames.countP (fun name => startsBareCall name.toList (c :: rest)) = 0 := by
    rw [List.countP_eq_zero]
    intro name hname h
    obtain ⟨blanks, d, -, -, hstart⟩ := startsBareCall_iff.1 h
    obtain ⟨first, hfirst, hhead⟩ := mem_functionNames_head name hname
    obtain ⟨others, hothers⟩ := List.head?_eq_some_iff.1 hhead
    rw [hothers, List.cons_append, List.cons_append, List.cons_prefix_cons] at hstart
    exact hc (hstart.1 ▸ hfirst)
  simp [pendingHere, hln, hcalls]

theorem not_mem_heads_of_isRunChar {c : Char} (h : isRunChar c = true) :
    c ∉ ['s', 'c', 't', 'l', 'a', 'e'] := by
  simp only [List.mem_cons, List.not_mem_nil, or_false]
  rintro (rfl | rfl | rfl | rfl | rfl | rfl) <;> exact absurd h (by decide)

/-- Nothing is pending inside a name before a parenthesis. -/
theorem pendingHere_tail_paren {name : String} (hname : name ∈ functionNames) {tail : List Char}
    (htail : tail <:+ name.toList) (rest : List Char) :
    pendingHere functionNames (tail ++ '(' :: rest) = 0 := by
  obtain ⟨hln, hcalls⟩ := mem_functionNames_tails name hname tail ((List.mem_tails _ _).2 htail)
  have hln' : startsLn (tail ++ '(' :: rest) = false := by
    rw [Bool.eq_false_iff, Ne, startsLn_iff] at hln ⊢
    exact fun h => hln (prefix_of_prefix_append_cons h (by decide))
  have hcalls' : functionNames.countP
      (fun other => startsBareCall other.toList (tail ++ '(' :: rest)) = 0 := by
    rw [List.countP_eq_zero]
    intro other hother h
    obtain ⟨p, hp, hparen, hstarts⟩ := exists_prefix_of_startsBareCall hother h
    have := hstarts tail (prefix_of_prefix_append_cons hp hparen)
    simp [hcalls other hother] at this
  simp [pendingHere, hln', hcalls']

/-- **A wrapped call is not pending,** and nothing in it is. -/
theorem pending_wrapped {name : String} (hname : name ∈ functionNames) {run : List Char}
    (hrun : ∀ c ∈ run, isRunChar c = true) (rest : List Char) :
    pending functionNames (name.toList ++ '(' :: run ++ [')'] ++ rest) =
      pending functionNames rest := by
  have hinside : pending functionNames ('(' :: run ++ [')'] ++ rest) =
      pending functionNames rest := by
    refine sumPlaces_append_eq fun tail hne htail => ?_
    obtain ⟨c, others, rfl⟩ := List.exists_cons_of_ne_nil hne
    refine pendingHere_cons_eq_zero ?_ _
    have hmem : c ∈ '(' :: run ++ [')'] := htail.subset (List.mem_cons_self ..)
    simp only [List.cons_append, List.mem_cons, List.mem_append, List.not_mem_nil,
      or_false] at hmem
    rcases hmem with rfl | hmem | rfl
    · decide
    · exact not_mem_heads_of_isRunChar (hrun c hmem)
    · decide
  calc pending functionNames (name.toList ++ '(' :: run ++ [')'] ++ rest)
      = pending functionNames (name.toList ++ ('(' :: run ++ [')'] ++ rest)) := by simp
    _ = pending functionNames ('(' :: run ++ [')'] ++ rest) := by
        refine sumPlaces_append_eq fun tail _ htail => ?_
        simpa using pendingHere_tail_paren hname htail (run ++ [')'] ++ rest)
    _ = pending functionNames rest := hinside

/-! ### Comparing places -/

/-- What is pending at the start of one text is pending at the start of another. -/
theorem pendingHere_le {text result : List Char}
    (hln : startsLn result = true → startsLn text = true)
    (hcalls : ∀ name ∈ functionNames, startsBareCall name.toList result = true →
      startsBareCall name.toList text = true) :
    pendingHere functionNames result ≤ pendingHere functionNames text := by
  refine Nat.add_le_add ?_ (List.countP_mono_left hcalls)
  cases h : startsLn result with
  | false => exact Nat.zero_le _
  | true => simp [hln h]

/-- A bare call at the start of a text is pending there. -/
theorem one_le_pendingHere {name : String} (hname : name ∈ functionNames) {text : List Char}
    (h : startsBareCall name.toList text = true) : 1 ≤ pendingHere functionNames text :=
  Nat.le_trans (List.countP_pos_iff.2 ⟨name, hname, h⟩) (Nat.le_add_left ..)

end Formula
end CurveSheet
