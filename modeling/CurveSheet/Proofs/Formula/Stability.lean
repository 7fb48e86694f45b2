/-
# When a normal form is final

The normal form of a text is its own normal form exactly if the text settles within
sixteen passes (`normalize_normalize_eq_iff`).  Not every text does: of `n` calls `sinx` in
a row every pass can wrap only the first that is left, since each of the others stands
behind the word character that ends the one before (`iterate_pass_bareChain`).  So the
normal form of seventeen or more of them is not final (`normalize_bareChain_stable_iff`).
-/

import CurveSheet.Proofs.Formula.Settling

namespace CurveSheet
namespace Formula

open Text Function

/-- A text in lower case that the passes change they never give back. -/
theorem iterate_pass_ne {text : List Char} (hfold : foldCase text = text)
    (hchange : pass functionNames text ≠ text) {n : Nat} (hn : 0 < n) :
    (pass functionNames)^[n] text ≠ text := by
  have hfirst := pending_pass_lt hfold hchange
  have hlater : ∀ n, pending functionNames ((pass functionNames)^[n + 1] text) <
      pending functionNames text := by
    intro n
    induction n with
    | zero => exact hfirst
    | succ n ih =>
      rw [iterate_succ_apply']
      by_cases hfixed : pass functionNames ((pass functionNames)^[n + 1] text) =
          (pass functionNames)^[n + 1] text
      · rwa [hfixed]
      · exact Nat.lt_trans (pending_pass_lt (foldCase_iterate_pass hfold _) hfixed) ih
  obtain ⟨n, rfl⟩ := Nat.exists_eq_succ_of_ne_zero (Nat.pos_iff_ne_zero.1 hn)
  intro hback
  have := hlater n
  rw [Nat.succ_eq_add_one] at hback
  rw [hback] at this
  exact Nat.lt_irrefl _ this

theorem isFixedPt_normalize_iff (text : String) :
    normalize (normalize text) = normalize text ↔
      IsFixedPt (pass functionNames) (normalize text).toList := by
  have hfold : foldCase (normalize text).toList = (normalize text).toList := by
    rw [toList_normalize, normalChars_eq_iterate, maxPasses, iterate_succ_apply']
    exact foldCase_pass _
  rw [← String.toList_inj, toList_normalize (normalize text), normalChars_eq_iterate]
  refine ⟨fun h => ?_, fun h => IsFixedPt.iterate h maxPasses⟩
  by_contra hchange
  exact iterate_pass_ne hfold hchange (by decide) h

/-! ### Calls in a row -/

/-- Calls `sinx`, one right behind the other. -/
def bareChain (n : Nat) : List Char := (List.replicate n ['s', 'i', 'n', 'x']).flatten

/-- Calls `sin(x)`, one right behind the other. -/
def wrappedChain (n : Nat) : List Char := (List.replicate n ['s', 'i', 'n', '(', 'x', ')']).flatten

theorem bareChain_succ (n : Nat) : bareChain (n + 1) = ['s', 'i', 'n', 'x'] ++ bareChain n := rfl

theorem wrappedChain_succ (n : Nat) :
    wrappedChain (n + 1) = ['s', 'i', 'n', '(', 'x', ')'] ++ wrappedChain n := rfl

theorem wrappedChain_succ' (n : Nat) :
    wrappedChain (n + 1) = wrappedChain n ++ ['s', 'i', 'n', '(', 'x', ')'] := by
  rw [wrappedChain, List.replicate_succ', List.flatten_append, List.flatten_singleton]
  rfl

theorem mem_chain {k n : Nat} {c : Char} (h : c ∈ wrappedChain k ++ bareChain n) :
    c ∈ ['s', 'i', 'n', '(', 'x', ')'] := by
  rcases List.mem_append.1 h with h | h
  · obtain ⟨call, hcall, hc⟩ := List.mem_flatten.1 h
    rwa [List.eq_of_mem_replicate hcall] at hc
  · obtain ⟨call, hcall, hc⟩ := List.mem_flatten.1 h
    rw [List.eq_of_mem_replicate hcall] at hc
    exact (by decide : ['s', 'i', 'n', 'x'] ⊆ ['s', 'i', 'n', '(', 'x', ')']) hc

theorem Rule.Idle.applyFrom_eq_self {rule : Rule} {inWord : Bool} {text : List Char}
    (h : rule.Idle inWord text) : rule.applyFrom 0 inWord text = text := by
  induction text generalizing inWord with
  | nil => rfl
  | cons c rest ih => rw [Rule.applyFrom_keep h.1, ih h.2]

/-- A rule that matches at no place of a text leaves it alone, inside a word or not. -/
theorem Rule.idle_of_suffix {rule : Rule} {text : List Char}
    (h : ∀ rest, rest <:+ text → rule rest = none) (inWord : Bool) : rule.Idle inWord text := by
  induction text generalizing inWord with
  | nil => trivial
  | cons c rest ih =>
    exact ⟨fun _ => h _ List.suffix_rfl,
      ih (fun behind hbehind => h behind (hbehind.trans (List.suffix_cons c rest))) _⟩

/-- A call of which the text lacks a letter cannot be wrapped in it. -/
theorem idle_callRule_of_not_mem {name text : List Char} {letter : Char} (hname : letter ∈ name)
    (htext : letter ∉ text) (inWord : Bool) : (callRule name).Idle inWord text := by
  refine Rule.idle_of_suffix (fun rest hrest => ?_) inWord
  rw [callRule_eq_none_iff, Bool.eq_false_iff, Ne, startsBareCall_iff]
  rintro ⟨blanks, d, -, -, hstart⟩
  exact htext (hrest.subset (hstart.subset (by simp [hname])))

theorem idle_logarithmRule_of_not_mem {text : List Char} (htext : 'l' ∉ text) (inWord : Bool) :
    logarithmRule.Idle inWord text := by
  refine Rule.idle_of_suffix (fun rest hrest => ?_) inWord
  by_contra hne
  obtain ⟨⟨replacement, width⟩, hsome⟩ := Option.ne_none_iff_exists'.1 hne
  obtain ⟨behind, hrest', -, -⟩ := exists_of_logarithmRule hsome
  exact htext (hrest.subset (by simp [hrest']))

theorem wrapCalls_eq_self {names : List String} {text : List Char}
    (h : ∀ name ∈ names, (callRule name.toList).Idle false text) :
    wrapCalls names text = text := by
  induction names with
  | nil => rfl
  | cons name names ih =>
    have hfirst : (callRule name.toList).apply text = text :=
      (h name (List.mem_cons_self ..)).applyFrom_eq_self
    rw [wrapCalls_cons, hfirst]
    exact ih fun other hother => h other (List.mem_cons_of_mem _ hother)

theorem applyFrom_wrappedChain (k : Nat) (rest : List Char) :
    (callRule ['s', 'i', 'n']).applyFrom 0 false (wrappedChain k ++ rest) =
      wrappedChain k ++ (callRule ['s', 'i', 'n']).applyFrom 0 false rest := by
  induction k with
  | zero => rfl
  | succ k ih =>
    have hcall : ∀ rest : List Char, (callRule ['s', 'i', 'n']).applyFrom 0 false
        (['s', 'i', 'n', '(', 'x', ')'] ++ rest) =
          ['s', 'i', 'n', '(', 'x', ')'] ++ (callRule ['s', 'i', 'n']).applyFrom 0 false rest :=
      fun _ => rfl
    rw [wrappedChain_succ, List.append_assoc, hcall, ih, List.append_assoc]

/-- Inside a word no rule matches. -/
theorem applyFrom_bareChain (rule : Rule) (n : Nat) :
    rule.applyFrom 0 true (bareChain n) = bareChain n := by
  induction n with
  | zero => rfl
  | succ n ih =>
    have hcall : ∀ rest : List Char, rule.applyFrom 0 true (['s', 'i', 'n', 'x'] ++ rest) =
        ['s', 'i', 'n', 'x'] ++ rule.applyFrom 0 true rest := fun _ => rfl
    rw [bareChain_succ, hcall, ih]

/-- Of the bare calls of a chain the repair of calls wraps the first. -/
theorem apply_chain (k n : Nat) :
    (callRule ['s', 'i', 'n']).apply (wrappedChain k ++ bareChain (n + 1)) =
      wrappedChain (k + 1) ++ bareChain n := by
  have hmatch : callRule ['s', 'i', 'n'] (['s', 'i', 'n'] ++ 'x' :: bareChain n) =
      some (['s', 'i', 'n', '(', 'x', ')'], 4) := by
    cases n <;> rfl
  have hfirst : (callRule ['s', 'i', 'n']).applyFrom 0 false (bareChain (n + 1)) =
      ['s', 'i', 'n', '(', 'x', ')'] ++ bareChain n := by
    rw [show bareChain (n + 1) = ['s', 'i', 'n'] ++ 'x' :: bareChain n from rfl,
      Rule.applyFrom_replace hmatch, show isWordChar 'x' = true by decide, applyFrom_bareChain]
  rw [Rule.apply, applyFrom_wrappedChain, hfirst, wrappedChain_succ', List.append_assoc]

/-- A pass over a chain does no more than wrap calls of the sine. -/
theorem pass_of_chain {text : List Char} (h : ∀ c ∈ text, c ∈ ['s', 'i', 'n', '(', 'x', ')'])
    {result : List Char} (hresult : (callRule ['s', 'i', 'n']).apply text = result)
    (hchars : ∀ c ∈ result, c ∈ ['s', 'i', 'n', '(', 'x', ')']) :
    pass functionNames text = result := by
  have hfolded : ∀ c ∈ ['s', 'i', 'n', '(', 'x', ')'], isFolded c = true :=
    List.all_eq_true.1 (by decide)
  have hlog : logarithmRule.apply text = text :=
    (idle_logarithmRule_of_not_mem (fun hl => absurd (h _ hl) (by decide)) false).applyFrom_eq_self
  have hothers : ∀ name ∈ functionNames.tail, ∃ letter ∈ name.toList,
      letter ∉ ['s', 'i', 'n', '(', 'x', ')'] := by
    have hall : functionNames.tail.all fun name =>
        name.toList.any fun letter => letter ∉ ['s', 'i', 'n', '(', 'x', ')'] := by
      decide
    simpa only [List.all_eq_true, List.any_eq_true, decide_eq_true_eq] using hall
  rw [pass, foldCase_eq_self_iff.2 fun c hc => hfolded c (h c hc), hlog,
    show functionNames = "sin" :: functionNames.tail from rfl, wrapCalls_cons,
    show "sin".toList = ['s', 'i', 'n'] from rfl, hresult]
  refine wrapCalls_eq_self fun name hname => ?_
  obtain ⟨letter, hletter, hmissing⟩ := hothers name hname
  exact idle_callRule_of_not_mem hletter (fun hmem => hmissing (hchars letter hmem)) false

/-- **Every pass over bare calls in a row wraps just one more of them.** -/
theorem iterate_pass_bareChain (k n : Nat) :
    (pass functionNames)^[k] (bareChain (k + n)) = wrappedChain k ++ bareChain n := by
  induction k generalizing n with
  | zero => simp [wrappedChain]
  | succ k ih =>
    rw [iterate_succ_apply', Nat.succ_add_eq_add_succ, ih]
    exact pass_of_chain (fun _ => mem_chain) (apply_chain k n) fun _ => mem_chain

theorem isFixedPt_wrappedChain (k : Nat) : IsFixedPt (pass functionNames) (wrappedChain k) := by
  have hchars : ∀ c ∈ wrappedChain k, c ∈ ['s', 'i', 'n', '(', 'x', ')'] := fun c hc =>
    mem_chain (List.mem_append_left (bareChain 0) hc)
  refine pass_of_chain hchars ?_ hchars
  have := applyFrom_wrappedChain k []
  rwa [List.append_nil, show Rule.applyFrom _ 0 false [] = [] from rfl, List.append_nil] at this

/-- **Of bare calls in a row, up to sixteen have a final normal form, and more have none.** -/
theorem normalize_bareChain_stable_iff (n : Nat) :
    normalize (normalize (String.ofList (bareChain n))) = normalize (String.ofList (bareChain n)) ↔
      n ≤ 16 := by
  rw [isFixedPt_normalize_iff, toList_normalize, normalChars_eq_iterate, String.toList_ofList,
    maxPasses]
  rcases Nat.lt_or_ge 16 n with h | h
  · refine iff_of_false ?_ (by omega)
    obtain ⟨more, rfl⟩ := Nat.exists_eq_add_of_lt h
    rw [Nat.add_assoc, iterate_pass_bareChain]
    intro hfixed
    have heq := hfixed.eq
    rw [pass_of_chain (fun _ => mem_chain) (apply_chain 16 more) fun _ => mem_chain] at heq
    have := congrArg List.length heq
    simp [wrappedChain, bareChain] at this
    omega
  · refine iff_of_true ?_ h
    obtain ⟨more, hmore⟩ := Nat.exists_eq_add_of_le' h
    have hsettled := iterate_pass_bareChain n 0
    rw [Nat.add_zero, show bareChain 0 = [] from rfl, List.append_nil] at hsettled
    rw [hmore, iterate_add_apply, hsettled, (isFixedPt_wrappedChain n).iterate more]
    exact isFixedPt_wrappedChain n

/-- **When a normal form is its own normal form:** exactly if no pass changes it any more,
and that is exactly if the text settles within sixteen passes. -/
theorem normalize_normalize_eq_iff (text : String) :
    (normalize (normalize text) = normalize text ↔
      IsFixedPt (pass functionNames) (normalize text).toList) ∧
    (normalize (normalize text) = normalize text ↔
      ∃ n ≤ 16, IsFixedPt (pass functionNames) ((pass functionNames)^[n] text.toList)) := by
  refine ⟨isFixedPt_normalize_iff text, ?_⟩
  rw [isFixedPt_normalize_iff, toList_normalize, normalChars_eq_iterate, maxPasses]
  refine ⟨fun h => ⟨16, Nat.le_refl _, h⟩, ?_⟩
  rintro ⟨n, hn, hfixed⟩
  have hsame : (pass functionNames)^[16] text.toList = (pass functionNames)^[n] text.toList := by
    obtain ⟨more, hmore⟩ := Nat.exists_eq_add_of_le' hn
    rw [hmore, iterate_add_apply]
    exact hfixed.iterate more
  rw [hsame]
  exact hfixed

/-- Seventeen calls `sinx` in a row: one of them is left to the second normal form. -/
theorem normalize_seventeen_calls_not_stable :
    ¬∀ text : String, normalize (normalize text) = normalize text := fun h =>
  absurd ((normalize_bareChain_stable_iff 17).1 (h _)) (by decide)

end Formula
end CurveSheet
