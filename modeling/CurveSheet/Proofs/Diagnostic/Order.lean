/-
# The order of findings

Sorting a list by a key leaves the elements of each key as they stood (`SameByKey`), and a list
whose keys ascend is settled by what it holds of each key (`SameByKey.eq_of_ascending`).  So there
is one stable sort of a list (`IsStableSort.eq_iff`), and `List.mergeSort` gives it
(`isStableSort_mergeSort`).

A report is sorted by place: a finding about a row has the row as its place, one about the whole
batch comes behind all rows.  Whatever is done with a report, the findings of each place stand in
it as they were given (`Report.sameByKey_run`); where and how often it was sorted on the way can
no longer be seen once it is sorted in the end (`Report.sorts_between_vanish`).
-/

import CurveSheet.Diagnostic.Basic
import Mathlib.Data.List.Basic
import Mathlib.Order.Nat
import Mathlib.Order.WithBot

namespace CurveSheet

/-! ### Stable sorting -/

section StableSort

variable {α κ : Type*} [LinearOrder κ] {key : α → κ} {given sorted s t u : List α}

/-- Two lists hold the same elements of every key, in the same order. -/
def SameByKey (key : α → κ) (s t : List α) : Prop :=
  ∀ k, s.filter (key · = k) = t.filter (key · = k)

/-- A list in the order of a key: the keys ascend, and the elements of one key stand as they were
given. -/
structure IsStableSort (key : α → κ) (given sorted : List α) : Prop where
  ascending : sorted.Pairwise (key · ≤ key ·)
  kept : SameByKey key sorted given

namespace SameByKey

theorem refl (s : List α) : SameByKey key s s := fun _ => rfl

theorem symm (h : SameByKey key s t) : SameByKey key t s := fun k => (h k).symm

theorem trans (h : SameByKey key s t) (h' : SameByKey key t u) : SameByKey key s u :=
  fun k => (h k).trans (h' k)

theorem append {s' t' : List α} (h : SameByKey key s t) (h' : SameByKey key s' t') :
    SameByKey key (s ++ s') (t ++ t') := by
  intro k
  rw [List.filter_append, List.filter_append, h k, h' k]

theorem mem_iff (h : SameByKey key s t) {a : α} : a ∈ s ↔ a ∈ t := by
  have hkey : a ∈ s.filter (key · = key a) ↔ a ∈ t.filter (key · = key a) := by rw [h]
  simpa using hkey

/-- Only keys that occur need to be looked at. -/
theorem of_forall_mem
    (h : ∀ k ∈ (s ++ t).map key, s.filter (key · = k) = t.filter (key · = k)) :
    SameByKey key s t := by
  intro k
  by_cases hk : k ∈ (s ++ t).map key
  · exact h k hk
  · have hnone : ∀ a ∈ s ++ t, ¬decide (key a = k) = true := fun a ha hkey =>
      hk (List.mem_map.2 ⟨a, ha, of_decide_eq_true hkey⟩)
    rw [List.filter_eq_nil_iff.2 fun a ha => hnone a (List.mem_append_left _ ha),
      List.filter_eq_nil_iff.2 fun a ha => hnone a (List.mem_append_right _ ha)]

/-- Elements may be put for others if different keys stay different. -/
theorem map {β κ' : Type*} [LinearOrder κ'] {key' : β → κ'} {f : α → β} {g : κ → κ'}
    (hg : Function.Injective g) (hkey : ∀ a, key' (f a) = g (key a)) (h : SameByKey key s t) :
    SameByKey key' (s.map f) (t.map f) := by
  refine of_forall_mem fun k hk => ?_
  rw [← List.map_append, List.map_map] at hk
  obtain ⟨a, -, rfl⟩ := List.mem_map.1 hk
  have hsame : ((key' · = (key' ∘ f) a) ∘ f : α → Bool) = (key · = key a) := by
    funext b
    simp only [Function.comp_apply, hkey, hg.eq_iff]
  rw [List.filter_map, List.filter_map, hsame, h (key a)]

/-- Nothing is lost or found twice. -/
theorem perm [DecidableEq α] (h : SameByKey key s t) : s.Perm t := by
  rw [List.perm_iff_count]
  intro a
  calc s.count a = (s.filter (key · = key a)).count a := (List.count_filter (by simp)).symm
    _ = (t.filter (key · = key a)).count a := by rw [h]
    _ = t.count a := List.count_filter (by simp)

/-- **Ascending keys leave one order.**  The first elements of two such lists have the least key,
and of this key both lists hold the same element first. -/
theorem eq_of_ascending (h : SameByKey key s t) (hs : s.Pairwise (key · ≤ key ·))
    (ht : t.Pairwise (key · ≤ key ·)) : s = t := by
  induction s generalizing t with
  | nil =>
    cases t with
    | nil => rfl
    | cons b t => exact absurd (h.mem_iff.2 (List.mem_cons_self ..)) List.not_mem_nil
  | cons a s ih =>
    cases t with
    | nil => exact absurd (h.mem_iff.1 (List.mem_cons_self ..)) List.not_mem_nil
    | cons b t =>
      obtain ⟨ha, hrest⟩ := List.pairwise_cons.1 hs
      obtain ⟨hb, hrest'⟩ := List.pairwise_cons.1 ht
      have hab : key a ≤ key b := by
        rcases List.mem_cons.1 (h.mem_iff.2 (List.mem_cons_self ..)) with hba | hmem
        · rw [hba]
        · exact ha b hmem
      have hba : key b ≤ key a := by
        rcases List.mem_cons.1 (h.mem_iff.1 (List.mem_cons_self ..)) with hab | hmem
        · rw [hab]
        · exact hb a hmem
      have hkey : key b = key a := le_antisymm hba hab
      have hfirst : a :: s.filter (key · = key a) = b :: t.filter (key · = key a) := by
        simpa [hkey] using h (key a)
      obtain ⟨rfl, -⟩ := List.cons.inj hfirst
      refine congrArg (a :: ·) (ih (fun k => ?_) hrest hrest')
      have hk := h k
      simp only [List.filter_cons] at hk
      split at hk
      · exact (List.cons.inj hk).2
      · exact hk

end SameByKey

namespace IsStableSort

/-- **A list has one stable sort.** -/
theorem eq_iff (h : IsStableSort key given sorted) : IsStableSort key given s ↔ s = sorted := by
  constructor
  · intro h'
    exact (h'.kept.trans h.kept.symm).eq_of_ascending h'.ascending h.ascending
  · rintro rfl
    exact h

theorem of_ascending (h : given.Pairwise (key · ≤ key ·)) : IsStableSort key given given :=
  ⟨h, .refl given⟩

/-- What comes behind by its keys can be sorted on its own. -/
theorem append {given' sorted' : List α} (h : IsStableSort key given sorted)
    (h' : IsStableSort key given' sorted') (hle : ∀ a ∈ sorted, ∀ b ∈ sorted', key a ≤ key b) :
    IsStableSort key (given ++ given') (sorted ++ sorted') :=
  ⟨List.pairwise_append.2 ⟨h.ascending, h'.ascending, hle⟩, h.kept.append h'.kept⟩

theorem map {β κ' : Type*} [LinearOrder κ'] {key' : β → κ'} {f : α → β} {g : κ → κ'}
    (hg : StrictMono g) (hkey : ∀ a, key' (f a) = g (key a)) (h : IsStableSort key given sorted) :
    IsStableSort key' (given.map f) (sorted.map f) := by
  refine ⟨List.pairwise_map.2 (h.ascending.imp fun {a b} hab => ?_), h.kept.map hg.injective hkey⟩
  rw [hkey, hkey, hg.le_iff_le]
  exact hab

end IsStableSort

/-- **Merging sorts stably.**  The elements of one key are in order already, so the sorted list
has them in the order in which they stood. -/
theorem isStableSort_mergeSort {le : α → α → Bool} (hle : ∀ a b, le a b = true ↔ key a ≤ key b)
    (given : List α) : IsStableSort key given (given.mergeSort le) := by
  have htrans : ∀ a b c, le a b = true → le b c = true → le a c = true := fun a b c hab hbc =>
    (hle a c).2 (((hle a b).1 hab).trans ((hle b c).1 hbc))
  have htotal : ∀ a b, (le a b || le b a) = true := fun a b => by
    rw [Bool.or_eq_true, hle, hle]
    exact le_total _ _
  refine ⟨(List.pairwise_mergeSort htrans htotal given).imp fun {a b} h => (hle a b).1 h,
    fun k => ?_⟩
  have hequal : (given.filter (key · = k)).Pairwise (le · · = true) := by
    rw [List.pairwise_filter]
    refine List.pairwise_of_forall fun a b ha hb => ?_
    rw [hle, of_decide_eq_true ha, of_decide_eq_true hb]
  have hsublist := (List.sublist_mergeSort htrans htotal hequal List.filter_sublist).filter
    (key · = k)
  rw [List.filter_filter] at hsublist
  simp only [Bool.and_self] at hsublist
  exact (hsublist.eq_of_length
    ((List.mergeSort_perm given le).filter _).length_eq.symm).symm

end StableSort

/-! ### The places of findings -/

namespace Diagnostic

/-- Where a finding stands in a sorted report: at its row, or behind all rows. -/
def place (d : Diagnostic) : WithTop ℕ :=
  match d.row with
  | some row => WithTop.some row
  | none => ⊤

theorem place_eq_top_iff {d : Diagnostic} : d.place = ⊤ ↔ d.row = none := by
  unfold place
  cases d.row <;> simp

theorem before_iff (a b : Diagnostic) : before a b = true ↔ a.place ≤ b.place := by
  unfold before place
  cases a.row <;> cases b.row <;> simp

end Diagnostic

namespace Report

open Diagnostic

/-- What is done with a report. -/
inductive Step where
  | push (d : Diagnostic)
  | extend (ds : List Diagnostic)
  | sort

/-- The findings that a step gives to a report. -/
def Step.given : Step → List Diagnostic
  | push d => [d]
  | extend ds => ds
  | sort => []

/-- The findings that steps give to a report, in the order in which they are given. -/
def given (steps : List Step) : List Diagnostic := steps.flatMap Step.given

/-- A report after a step. -/
def step (report : Report) : Step → Report
  | .push d => report.push d
  | .extend ds => report.extend ds
  | .sort => report.sort

/-- A report after steps. -/
def run (report : Report) (steps : List Step) : Report := steps.foldl step report

theorem run_append_sort (report : Report) (steps : List Step) :
    report.run (steps ++ [.sort]) = (report.run steps).sort := by
  rw [run, List.foldl_append]
  rfl

/-- **A sorted report is the stable sort of the report.** -/
theorem isStableSort_sort (report : Report) :
    IsStableSort place report.diagnostics report.sort.diagnostics :=
  isStableSort_mergeSort before_iff report.diagnostics

/-- A step leaves the findings of each place as they were given. -/
theorem sameByKey_step (report : Report) (s : Step) :
    SameByKey place (report.step s).diagnostics (report.diagnostics ++ s.given) := by
  cases s with
  | push d => exact .refl _
  | extend ds => exact .refl _
  | sort =>
    rw [Step.given, List.append_nil]
    exact report.isStableSort_sort.kept

/-- **All steps leave the findings of each place as they were given,** by induction over the
steps. -/
theorem sameByKey_run (report : Report) (steps : List Step) :
    SameByKey place (report.run steps).diagnostics (report.diagnostics ++ given steps) := by
  induction steps generalizing report with
  | nil =>
    rw [given, List.flatMap_nil, List.append_nil]
    exact .refl _
  | cons s steps ih =>
    have hstep := (report.sameByKey_step s).append (.refl (given steps))
    have hrest := (ih (report.step s)).trans hstep
    rwa [List.append_assoc] at hrest

/-- **Sorting in the end gives the stable sort of all that was given.** -/
theorem isStableSort_run_sort (report : Report) (steps : List Step) :
    IsStableSort place (report.diagnostics ++ given steps)
      (report.run (steps ++ [.sort])).diagnostics := by
  rw [run_append_sort]
  have hsort := (report.run steps).isStableSort_sort
  exact ⟨hsort.ascending, hsort.kept.trans (report.sameByKey_run steps)⟩

/-- Two ways of giving the same findings end alike, wherever they sort. -/
theorem run_sort_congr (report : Report) {steps steps' : List Step}
    (h : given steps = given steps') :
    report.run (steps ++ [.sort]) = report.run (steps' ++ [.sort]) := by
  have hsort := report.isStableSort_run_sort steps
  rw [h, (report.isStableSort_run_sort steps').eq_iff] at hsort
  exact congrArg Report.mk hsort

theorem sort_sort (report : Report) : report.sort.sort = report.sort :=
  report.run_sort_congr (show given [.sort] = given [] from rfl)

/-! ### Counting findings -/

variable {report report' : Report}

theorem count_eq_of_perm (h : report.diagnostics.Perm report'.diagnostics) (severity : Severity) :
    report.count severity = report'.count severity :=
  (h.filter _).length_eq

theorem summary_eq_of_perm (h : report.diagnostics.Perm report'.diagnostics) :
    report.summary = report'.summary := by
  have herrors : report.errors = report'.errors := count_eq_of_perm h .error
  have hwarnings : report.warnings = report'.warnings := count_eq_of_perm h .warning
  rw [summary, summary, hasErrors, hasErrors, herrors, hwarnings]

/-- **Sorting on the way leaves no trace.**  Steps that end with sorting leave the stable sort of
what the report had and what was given to it, by ascending rows with findings about the whole
batch last, so two ways of giving the same findings end alike wherever they sort.  No step loses
or repeats a finding, sorting twice is sorting once, and the numbers of errors and warnings and
the summary depend only on which findings were given. -/
theorem sorts_between_vanish (report : Report) :
    (∀ steps sorted, IsStableSort place (report.diagnostics ++ given steps) sorted ↔
      sorted = (report.run (steps ++ [.sort])).diagnostics) ∧
    (∀ steps steps', given steps = given steps' →
      report.run (steps ++ [.sort]) = report.run (steps' ++ [.sort])) ∧
    (∀ steps, (report.run steps).diagnostics.Perm (report.diagnostics ++ given steps)) ∧
    report.sort.sort = report.sort ∧
    ∀ steps steps', (given steps).Perm (given steps') →
      (report.run steps).errors = (report.run steps').errors ∧
        (report.run steps).warnings = (report.run steps').warnings ∧
        (report.run steps).summary = (report.run steps').summary := by
  refine ⟨fun steps sorted => (report.isStableSort_run_sort steps).eq_iff,
    fun steps steps' hgiven => report.run_sort_congr hgiven,
    fun steps => (report.sameByKey_run steps).perm, report.sort_sort,
    fun steps steps' hgiven => ?_⟩
  have hperm : (report.run steps).diagnostics.Perm (report.run steps').diagnostics :=
    ((report.sameByKey_run steps).perm.trans (hgiven.append_left _)).trans
      (report.sameByKey_run steps').perm.symm
  exact ⟨count_eq_of_perm hperm .error, count_eq_of_perm hperm .warning,
    summary_eq_of_perm hperm⟩

/-- A finding about the batch, two about one row and one about a row before it, with sorting
between and without. -/
theorem sorts_between_vanish_three_rows :
    let whole : Diagnostic := ⟨.warning, "fplot::batch::empty", "whole", none, none⟩
    let third : Diagnostic := ⟨.error, "fplot::row::equation", "third", some 3, none⟩
    let first : Diagnostic := ⟨.error, "fplot::row::comparison", "first", some 0, none⟩
    let again : Diagnostic := ⟨.warning, "fplot::row::equation", "again", some 3, none⟩
    let steps : List Step := [.push whole, .sort, .extend [third, first], .sort, .push again]
    let atOnce : List Step := [.extend [whole, third, first, again]]
    [first, third, again, whole] = (Report.empty.run (steps ++ [.sort])).diagnostics ∧
      Report.empty.run (steps ++ [.sort]) = Report.empty.run (atOnce ++ [.sort]) ∧
      (Report.empty.run steps).summary =
        (Report.empty.run [.push again, .push first, .push third, .push whole]).summary := by
  intro whole third first again steps atOnce
  obtain ⟨hsort, hsame, -, -, hcounts⟩ := Report.empty.sorts_between_vanish
  have hsorted : IsStableSort place (Report.empty.diagnostics ++ given steps)
      [first, third, again, whole] := ⟨by decide, .of_forall_mem (by decide)⟩
  exact ⟨(hsort _ _).1 hsorted, hsame _ _ rfl, (hcounts _ _ (by decide)).2.2⟩

end Report
end CurveSheet
