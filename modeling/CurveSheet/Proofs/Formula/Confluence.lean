/-
# The order of the table

Two repairs of one text never get in each other's way.  At one place there is one repair at
most (`Repair.unique`), and no repair starts inside what another replaces
(`Repair.exists_eq_append`); so of two, one lies behind the other, each is still there when the
other has been made, and both orders give the same text (`RepairStep.diamond`).  Hence a text on
which nothing is left to repair does not depend on which repairs led there
(`Repairs.eq_of_ended`).

A table in another order makes the same repairs in another order.  It comes to an end too, and
to the same one (`settled_of_perm`).
-/

import CurveSheet.Proofs.Formula.Repair

namespace CurveSheet
namespace Formula

open Text Function Relation

/-! ### Two repairs -/

/-- A repair looks at one character behind what it replaces. -/
theorem Repair.of_head? {typed repaired after other : List Char} (h : Repair typed repaired after)
    (hhead : other.head? = after.head?) : Repair typed repaired other := by
  cases h with
  | logarithm hend => exact .logarithm (hhead ▸ hend)
  | call hname hblanks hne hrun hend => exact .call hname hblanks hne hrun (hhead ▸ hend)

theorem name_eq_of_prefix_of_name :
    ∀ name ∈ functionNames, ∀ other ∈ functionNames, name.toList <+: other.toList →
      name = other := by
  decide

/-- No two names start at one place, whatever is behind them. -/
theorem name_unique {name other : String} (hname : name ∈ functionNames)
    (hother : other ∈ functionNames) {rest rest' : List Char}
    (htext : name.toList ++ rest = other.toList ++ rest') : name = other := by
  have hboth : other.toList <+: name.toList ++ rest := htext ▸ List.prefix_append ..
  rcases List.prefix_or_prefix_of_prefix (List.prefix_append name.toList rest) hboth with h | h
  · exact name_eq_of_prefix_of_name name hname other hother h
  · exact (name_eq_of_prefix_of_name other hother name hname h).symm

theorem ln_ne_name :
    ∀ name ∈ functionNames, name.toList.take 2 ≠ ['l', 'n'] ∧ 2 ≤ name.toList.length := by
  decide

/-- No name starts where `ln` does. -/
theorem name_append_ne {name : String} (hname : name ∈ functionNames) (rest after : List Char) :
    name.toList ++ rest ≠ ['l', 'n'] ++ after := by
  intro htext
  obtain ⟨hne, hlength⟩ := ln_ne_name name hname
  have htake := congrArg (List.take 2) htext
  rw [List.take_append_of_le_length hlength] at htake
  exact hne htake

/-- **At one place there is at most one repair.** -/
theorem Repair.unique {typed repaired after typed' repaired' after' : List Char}
    (h : Repair typed repaired after) (h' : Repair typed' repaired' after')
    (htext : typed ++ after = typed' ++ after') :
    typed = typed' ∧ repaired = repaired' ∧ after = after' := by
  cases h with
  | logarithm hend =>
    cases h' with
    | logarithm hend' => exact ⟨rfl, rfl, List.append_cancel_left htext⟩
    | @call name blanks run _ hname hblanks hne hrun hend' =>
      rw [List.append_assoc, List.append_assoc] at htext
      exact absurd htext.symm (name_append_ne hname _ _)
  | @call name blanks run _ hname hblanks hne hrun hend =>
    cases h' with
    | logarithm hend' =>
      rw [List.append_assoc, List.append_assoc] at htext
      exact absurd htext (name_append_ne hname _ _)
    | @call name' blanks' run' _ hname' hblanks' hne' hrun' hend' =>
      have hnames : name.toList ++ (blanks ++ run ++ after) =
          name'.toList ++ (blanks' ++ run' ++ after') := by
        simpa using htext
      obtain rfl := name_unique hname hname' hnames
      have hrule := callRule_append name.toList hblanks hne hrun hend
      rw [htext, callRule_append _ hblanks' hne' hrun' hend', Option.some.injEq,
        Prod.mk.injEq] at hrule
      obtain ⟨htyped, hafter⟩ := List.append_inj htext hrule.2.symm
      exact ⟨htyped, hrule.1.symm, hafter⟩

theorem any_isWordChar_getLast? {text : List Char} (hne : text ≠ [])
    (hword : ∀ c ∈ text, isWordChar c = true) : text.getLast?.any isWordChar = true := by
  rw [List.getLast?_eq_some_getLast hne, Option.any_some]
  exact hword _ (List.getLast_mem hne)

theorem not_isBlank_of_mem_heads : ∀ c ∈ ['s', 'c', 't', 'l', 'a', 'e'], isBlank c = false :=
  fun c hc => by simpa using List.all_eq_true.1 (by decide : ['s', 'c', 't', 'l', 'a', 'e'].all
    fun c => !isBlank c) c hc

/-- **No repair starts inside what another replaces:** no word starts behind a letter of a
name, and blanks and runs start no name. -/
theorem Repair.exists_eq_append {typed repaired after front rest : List Char} {first : Char}
    (h : Repair typed repaired after) (htext : typed ++ after = front ++ first :: rest)
    (hne : front ≠ []) (hword : front.getLast?.any isWordChar = false)
    (hfirst : first ∈ ['s', 'c', 't', 'l', 'a', 'e']) :
    ∃ between, front = typed ++ between ∧ after = between ++ first :: rest := by
  have houtside (word : List Char) (hletters : ∀ c ∈ word, isWordChar c = true) :
      ¬front <+: word := by
    intro hfront
    rw [any_isWordChar_getLast? hne fun c hc => hletters c (hfront.subset hc)] at hword
    exact Bool.false_ne_true hword.symm
  rcases List.append_eq_append_iff.1 htext with hbehind | ⟨inside, htyped, hinside⟩
  · exact hbehind
  cases inside with
  | nil => exact ⟨[], by simpa using htyped.symm, by simpa using hinside.symm⟩
  | cons c inside =>
    exfalso
    obtain rfl : first = c := by simpa using (List.cons.inj hinside).1
    cases h with
    | logarithm hend =>
      refine houtside ['l', 'n'] ?_ (htyped ▸ List.prefix_append ..)
      exact List.all_eq_true.1 (by decide)
    | @call name blanks run _ hname hblanks hruns hrun hend =>
      rw [List.append_assoc] at htyped
      rcases List.append_eq_append_iff.1 htyped with ⟨more, -, hmore⟩ | ⟨letters, hletters, -⟩
      · have hmem : first ∈ blanks ++ run := by simp [hmore]
        rcases List.mem_append.1 hmem with hmem | hmem
        · have := not_isBlank_of_mem_heads first hfirst
          rw [hblanks first hmem] at this
          exact Bool.false_ne_true this.symm
        · exact not_mem_heads_of_isRunChar (hrun first hmem) hfirst
      · exact houtside name.toList (fun c hc => isWordChar_of_mem_name hname hc)
          (hletters ▸ List.prefix_append ..)

/-- Of two repairs one of which lies behind the other, each is still there when the other has
been made. -/
theorem Repair.exists_joined {before typed repaired after front typed' repaired' after' : List Char}
    (h : Repair typed repaired after) (h' : Repair typed' repaired' after')
    (hstart : before.getLast?.any isWordChar = false)
    (hstart' : (before ++ front).getLast?.any isWordChar = false) (hne : front ≠ [])
    (htext : typed ++ after = front ++ (typed' ++ after')) :
    ∃ joined, RepairStep (before ++ repaired ++ after) joined ∧
      RepairStep (before ++ front ++ repaired' ++ after') joined := by
  obtain ⟨first, others, others', hfirst, htyped, hrepaired⟩ := h'.exists_cons
  have hword : front.getLast?.any isWordChar = false := by
    obtain ⟨last, hlast⟩ := Option.ne_none_iff_exists'.1 (mt List.getLast?_eq_none_iff.1 hne)
    simpa [List.getLast?_append, hlast] using hstart'
  rw [htyped, List.cons_append] at htext
  obtain ⟨between, rfl, rfl⟩ := h.exists_eq_append htext hne hword hfirst
  refine ⟨before ++ repaired ++ between ++ repaired' ++ after', ?_, ?_⟩
  · refine repairStep_iff.2 ⟨before ++ repaired ++ between, _, _, _, h', ?_, ?_, by simp⟩
    · exact h.endsWord before between (by simpa using hstart')
    · simp [htyped]
  · refine repairStep_iff.2 ⟨before, typed, repaired, between ++ repaired' ++ after', ?_, hstart,
      by simp, by simp⟩
    exact h.of_head? (by cases between <;> simp [hrepaired])

/-- **Two repairs of one text are the same, or both can be made,** in either order. -/
theorem RepairStep.diamond {text left right : List Char} (hleft : RepairStep text left)
    (hright : RepairStep text right) :
    left = right ∨ ∃ joined, RepairStep left joined ∧ RepairStep right joined := by
  obtain ⟨before, typed, repaired, after, h, hstart, rfl, rfl⟩ := repairStep_iff.1 hleft
  obtain ⟨before', typed', repaired', after', h', hstart', htext, rfl⟩ := repairStep_iff.1 hright
  rw [List.append_assoc, List.append_assoc] at htext
  rcases List.append_eq_append_iff.1 htext with ⟨front, rfl, hrest⟩ | ⟨front, rfl, hrest⟩
  · by_cases hne : front = []
    · subst hne
      obtain ⟨-, rfl, rfl⟩ := h.unique h' hrest
      exact Or.inl (by simp)
    · exact Or.inr (h.exists_joined h' hstart hstart' hne hrest)
  · by_cases hne : front = []
    · subst hne
      obtain ⟨-, rfl, rfl⟩ := h'.unique h hrest
      exact Or.inl (by simp)
    · obtain ⟨joined, hright, hleft⟩ := h'.exists_joined h hstart' hstart hne hrest
      exact Or.inr ⟨joined, hleft, hright⟩

/-! ### The end of repairs -/

/-- **Repairs have one end only:** two texts made of one, on which nothing is left to repair,
are the same. -/
theorem Repairs.eq_of_ended {text left right : List Char} (hleft : Repairs text left)
    (hright : Repairs text right) (hleftEnd : ∀ next, ¬RepairStep left next)
    (hrightEnd : ∀ next, ¬RepairStep right next) : left = right := by
  have hjoin : ∀ text left right, RepairStep text left → RepairStep text right →
      ∃ joined, ReflGen RepairStep left joined ∧ ReflTransGen RepairStep right joined := by
    intro text left right hleft hright
    rcases hleft.diamond hright with rfl | ⟨joined, hleft, hright⟩
    · exact ⟨left, .refl, .refl⟩
    · exact ⟨joined, .single hleft, .single hright⟩
  have hended {text joined : List Char} (h : Repairs text joined)
      (hend : ∀ next, ¬RepairStep text next) : text = joined := by
    rcases h.cases_head with rfl | ⟨next, hstep, -⟩
    · rfl
    · exact absurd hstep (hend next)
  obtain ⟨joined, hleft, hright⟩ := church_rosser hjoin hleft hright
  exact (hended hleft hleftEnd).trans (hended hright hrightEnd).symm

/-- What a pass leaves as it is has nothing left to repair. -/
theorem not_repairStep_of_pass_eq_self {names : List String} (hnames : names.Perm functionNames)
    {text : List Char} (h : pass names text = text) (next : List Char) :
    ¬RepairStep text next := by
  obtain ⟨-, hlog, hcalls⟩ := idle_of_pass_eq_self h hnames
  intro hstep
  cases hstep with
  | @inText before typed repaired after hstart hrepair =>
    cases hrepair with
    | logarithm hend =>
      refine idle_logarithmRule_iff.1 hlog ⟨before, after, rfl, hstart, ?_⟩
      have hn : isWordChar 'n' = true := by decide
      simp [IsWordBoundary, hn, hend]
    | @call name blanks run _ hname hblanks hne hrun hend =>
      obtain ⟨c, others, rfl⟩ := List.exists_cons_of_ne_nil hne
      refine (idle_callRule_iff hname).1 (hcalls name hname)
        ⟨before, blanks, c, others ++ after, by simp, by simpa using hstart, hblanks, ?_⟩
      exact hrun c (List.mem_cons_self ..)

theorem iterate_pass_of_perm {names : List String} (hnames : names.Perm functionNames)
    (text : List Char) {n : Nat} (hpos : 0 < n)
    (hn : candidates functionNames (lower text) ≤ n) :
    (pass names)^[n] text = (pass functionNames)^[n] text := by
  obtain ⟨n, rfl⟩ := Nat.exists_eq_succ_of_ne_zero (Nat.pos_iff_ne_zero.1 hpos)
  refine (repairs_iterate_pass hnames text n).eq_of_ended
    (repairs_iterate_pass (.refl _) text n) ?_ ?_
  · exact not_repairStep_of_pass_eq_self hnames (isFixedPt_iterate_max text hpos hn hnames)
  · exact not_repairStep_of_pass_eq_self (.refl _) (isFixedPt_iterate_max text hpos hn)

/-- **The order of the table does not matter.**  Passes over a text come to the same end with
the table in any order, at the latest after as many as there are candidates in its lower-case
form, and one at least.  The normal form is that end if there are no more than sixteen, so it is
the same in any order too. -/
theorem settled_of_perm {names : List String} (hnames : names.Perm functionNames)
    (text : String) :
    (∃ final, IsFixedPt (pass names) final ∧ IsFixedPt (pass functionNames) final ∧
      ∀ n, max 1 (candidates functionNames (lower text.toList)) ≤ n →
        (pass names)^[n] text.toList = final ∧ (pass functionNames)^[n] text.toList = final) ∧
    (candidates functionNames (lower text.toList) ≤ 16 →
      String.ofList (normalChars names text.toList) = normalize text) := by
  constructor
  · have hsame {n : Nat} (hn : max 1 (candidates functionNames (lower text.toList)) ≤ n) :=
      iterate_pass_of_perm hnames text.toList (Nat.lt_of_lt_of_le Nat.zero_lt_one
        (Nat.le_trans (Nat.le_max_left ..) hn)) (Nat.le_trans (Nat.le_max_right ..) hn)
    have hfixed : IsFixedPt (pass functionNames) ((pass functionNames)^[max 1
        (candidates functionNames (lower text.toList))] text.toList) :=
      isFixedPt_iterate_max text.toList (Nat.le_max_left 1 _) (Nat.le_max_right 1 _)
    refine ⟨_, ?_, hfixed, fun n hn => ?_⟩
    · rw [← hsame (Nat.le_refl _)]
      exact isFixedPt_iterate_max text.toList (Nat.le_max_left 1 _) (Nat.le_max_right 1 _) hnames
    · rw [hsame hn, and_self]
      obtain ⟨more, rfl⟩ := Nat.exists_eq_add_of_le' hn
      rw [iterate_add_apply]
      exact hfixed.iterate more
  · intro hn
    rw [normalize, normalChars_eq_iterate, normalChars_eq_iterate, maxPasses,
      iterate_pass_of_perm hnames text.toList (by decide) hn]

/-- One pass over `cosxsinx` wraps one call or both, as the order of the table has it. -/
theorem settled_of_perm_reversed :
    functionNames.reverse.Perm functionNames ∧
      pass functionNames.reverse "cosxsinx".toList ≠ pass functionNames "cosxsinx".toList ∧
      candidates functionNames (lower "cosxsinx".toList) ≤ 16 ∧
      String.ofList (normalChars functionNames.reverse "cosxsinx".toList) = normalize "cosxsinx" :=
  have hperm : functionNames.reverse.Perm functionNames := List.reverse_perm _
  have hfew : candidates functionNames (lower "cosxsinx".toList) ≤ 16 := by decide
  ⟨hperm, by decide, hfew, (settled_of_perm hperm "cosxsinx").2 hfew⟩

end Formula
end CurveSheet
