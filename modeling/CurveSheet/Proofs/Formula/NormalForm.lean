/-
# What a normal form is

A text that a pass leaves as it is has nothing left to repair, and that can be said without
passes: all its characters are in lower case, it has no full-width parenthesis, no `ln`
is a word of it, and at no start of a word is there a bare call (`IsNormalForm`).  Words are
words of ASCII (`IsWordBoundary`).

A rule that is idle has no match at the start of any word (`Rule.idle_iff`), and a pass over
a text on which all rules are idle gives the text back.  The other way round a repair might
be undone by a later one; but wrapping takes pending repairs away, so it gives back only
what it has not touched, and writing `log` for `ln` makes the text longer
(`Rule.Gives.idle_or_length_lt`).
-/

import CurveSheet.Proofs.Formula.Stability

namespace CurveSheet
namespace Formula

open Text

/-! ### Words in a text -/

/-- A word of ASCII starts or ends between the two parts of a text. -/
def IsWordBoundary (before after : List Char) : Prop :=
  before.getLast?.any isWordChar ≠ after.head?.any isWordChar

/-- `ln` is a word of the text. -/
def HasLogarithmWord (text : List Char) : Prop :=
  ∃ before after, text = before ++ ['l', 'n'] ++ after ∧
    IsWordBoundary before (['l', 'n'] ++ after) ∧ IsWordBoundary (before ++ ['l', 'n']) after

/-- A word of the text starts with a name, and blanks and the start of a run are behind it. -/
def HasBareCall (name text : List Char) : Prop :=
  ∃ before blanks c after, text = before ++ name ++ blanks ++ [c] ++ after ∧
    IsWordBoundary before (name ++ blanks ++ [c] ++ after) ∧
    (∀ b ∈ blanks, isBlank b = true) ∧ isRunChar c = true

/-- There is nothing to repair in a text. -/
structure IsNormalForm (text : List Char) : Prop where
  lowerCase : ∀ c ∈ text, lower [c] = [c]
  parentheses : '（' ∉ text ∧ '）' ∉ text
  logarithm : ¬HasLogarithmWord text
  calls : ∀ name ∈ functionNames, ¬HasBareCall name.toList text

/-! ### Idle rules -/

/-- A rule is idle on a text exactly if it matches at none of the starts of its words. -/
theorem Rule.idle_iff {rule : Rule} (hnil : rule [] = none) {inWord : Bool} {text : List Char} :
    rule.Idle inWord text ↔ ∀ before after, text = before ++ after →
      (before.getLast?.map isWordChar).getD inWord = false → rule after = none := by
  induction text generalizing inWord with
  | nil =>
    refine iff_of_true trivial fun before after h _ => ?_
    obtain ⟨rfl, rfl⟩ := List.append_eq_nil_iff.1 h.symm
    exact hnil
  | cons c text ih =>
    have hlast (before : List Char) : ((c :: before).getLast?.map isWordChar).getD inWord =
        (before.getLast?.map isWordChar).getD (isWordChar c) := by
      rw [List.getLast?_cons]
      cases before.getLast? <;> rfl
    rw [Rule.Idle, ih]
    constructor
    · rintro ⟨hhere, hrest⟩ before after htext hword
      cases before with
      | nil =>
        rw [List.nil_append] at htext
        exact htext ▸ hhere hword
      | cons d before =>
        rw [List.cons_append, List.cons.injEq] at htext
        obtain ⟨rfl, htext⟩ := htext
        exact hrest before after htext (hlast before ▸ hword)
    · intro h
      refine ⟨h [] _ rfl, fun before after htext hword => ?_⟩
      exact h (c :: before) after (by rw [htext, List.cons_append]) (hlast before ▸ hword)

theorem getD_map_isWordChar (before : List Char) :
    (before.getLast?.map isWordChar).getD false = before.getLast?.any isWordChar := by
  cases before.getLast? <;> rfl

theorem isWordBoundary_cons_iff {before after : List Char} {c : Char} (hc : isWordChar c = true) :
    IsWordBoundary before (c :: after) ↔ before.getLast?.any isWordChar = false := by
  simp [IsWordBoundary, hc]

theorem logarithmRule_ne_none_iff {text : List Char} :
    logarithmRule text ≠ none ↔
      ∃ after, text = 'l' :: 'n' :: after ∧ after.head?.any isWordChar = false := by
  constructor
  · intro h
    obtain ⟨⟨replacement, width⟩, hrule⟩ := Option.ne_none_iff_exists'.1 h
    obtain ⟨after, rfl, -, -⟩ := exists_of_logarithmRule hrule
    refine ⟨after, rfl, ?_⟩
    cases after with
    | nil => rfl
    | cons c after =>
      by_contra hword
      have hc : isWordChar c = true := by simpa using hword
      simp [logarithmRule, hc] at hrule
  · rintro ⟨after, rfl, hword⟩
    cases after with
    | nil => simp [logarithmRule]
    | cons c after =>
      have hc : isWordChar c = false := hword
      simp [logarithmRule, hc]

/-- The rule of the logarithm is idle exactly if `ln` is no word. -/
theorem idle_logarithmRule_iff {text : List Char} :
    logarithmRule.Idle false text ↔ ¬HasLogarithmWord text := by
  have hl : isWordChar 'l' = true := by decide
  have hn : isWordChar 'n' = true := by decide
  rw [Rule.idle_iff rfl]
  constructor
  · rintro h ⟨before, after, rfl, hstart, hend⟩
    rw [List.append_assoc] at h
    refine absurd (h before _ rfl ?_) (logarithmRule_ne_none_iff.2 ⟨after, rfl, ?_⟩)
    · rw [getD_map_isWordChar]
      exact (isWordBoundary_cons_iff hl).1 hstart
    · simpa [IsWordBoundary, hn] using hend
  · intro h before after htext hword
    by_contra hrule
    obtain ⟨behind, rfl, hbehind⟩ := logarithmRule_ne_none_iff.1 hrule
    rw [getD_map_isWordChar] at hword
    refine h ⟨before, behind, by simp [htext], (isWordBoundary_cons_iff hl).2 hword, ?_⟩
    simpa [IsWordBoundary, hn] using hbehind

/-- The rule of a function is idle exactly if there is no bare call of it. -/
theorem idle_callRule_iff {name : String} (hname : name ∈ functionNames) {text : List Char} :
    (callRule name.toList).Idle false text ↔ ¬HasBareCall name.toList text := by
  obtain ⟨first, letters, hletters⟩ := List.exists_cons_of_ne_nil (name_ne_nil hname)
  have hfirst : isWordChar first = true :=
    isWordChar_of_mem_name hname (hletters ▸ List.mem_cons_self ..)
  have hnil : callRule name.toList [] = none := by
    rw [callRule_eq_none_iff, hletters]
    rfl
  have hboundary (before rest : List Char) : IsWordBoundary before (name.toList ++ rest) ↔
      before.getLast?.any isWordChar = false := by
    rw [hletters, List.cons_append]
    exact isWordBoundary_cons_iff hfirst
  simp only [Rule.idle_iff hnil, callRule_eq_none_iff, getD_map_isWordChar, ← Bool.not_eq_true,
    startsBareCall_iff]
  constructor
  · rintro h ⟨before, blanks, c, after, rfl, hstart, hblanks, hc⟩
    rw [List.append_assoc, List.append_assoc, hboundary] at hstart
    refine h before (name.toList ++ blanks ++ [c] ++ after) (by simp) (by simp [hstart])
      ⟨blanks, c, hblanks, hc, List.prefix_append ..⟩
  · rintro h before after rfl hword ⟨blanks, c, hblanks, hc, behind, rfl⟩
    refine h ⟨before, blanks, c, behind, by simp, ?_, hblanks, hc⟩
    rw [List.append_assoc, List.append_assoc, hboundary]
    simpa using hword

/-! ### Lower case -/

theorem lower_singleton_iff {c : Char} : lower [c] = [c] ↔ isLower c = true := by
  simp [lower_eq_self_iff]

theorem foldWidth_eq_self_iff {c : Char} : foldWidth c = c ↔ c ≠ '（' ∧ c ≠ '）' := by
  unfold foldWidth
  constructor
  · rintro h
    constructor <;> rintro rfl <;> exact absurd h (by decide)
  · rintro ⟨hopen, hclose⟩
    rw [if_neg hopen, if_neg hclose]

theorem foldCase_eq_self_iff_normal {text : List Char} :
    foldCase text = text ↔ (∀ c ∈ text, lower [c] = [c]) ∧ '（' ∉ text ∧ '）' ∉ text := by
  simp only [foldCase_eq_self_iff, isFolded, Bool.and_eq_true, beq_iff_eq, foldWidth_eq_self_iff,
    lower_singleton_iff]
  constructor
  · intro h
    exact ⟨fun c hc => (h c hc).1, fun hmem => (h _ hmem).2.1 rfl, fun hmem => (h _ hmem).2.2 rfl⟩
  · rintro ⟨hlower, hopen, hclose⟩ c hc
    refine ⟨hlower c hc, ?_, ?_⟩
    · rintro rfl
      exact hopen hc
    · rintro rfl
      exact hclose hc

/-! ### Passes that change nothing -/

/-- The repair of `ln` finds none, or makes the text longer. -/
theorem Rule.Gives.idle_or_length_lt {inWord : Bool} {text result : List Char}
    (h : logarithmRule.Gives inWord text result) :
    result = text ∧ logarithmRule.Idle inWord text ∨ text.length < result.length := by
  induction h with
  | done => exact Or.inl ⟨rfl, trivial⟩
  | keep hrule hrest ih =>
    rcases ih with ⟨rfl, hidle⟩ | hlt
    · exact Or.inl ⟨rfl, hrule, hidle⟩
    · exact Or.inr (Nat.succ_lt_succ hlt)
  | @replace replacement matched rest result last hrule hrest ih =>
    right
    obtain ⟨behind, -, rfl, hwidth⟩ := exists_of_logarithmRule hrule
    have hle : rest.length ≤ result.length := by
      rcases ih with ⟨rfl, -⟩ | hlt
      · exact Nat.le_refl _
      · exact Nat.le_of_lt hlt
    simp only [List.length_append, List.length_cons, List.length_nil]
    omega

/-- Of a text that a pass leaves as it is, all rules are idle. -/
theorem idle_of_pass_eq_self {names : List String} {text : List Char}
    (h : pass names text = text) (hnames : names.Perm functionNames := by exact .refl _) :
    foldCase text = text ∧ logarithmRule.Idle false text ∧
      ∀ name ∈ functionNames, (callRule name.toList).Idle false text := by
  have hfold : foldCase text = text := by
    rw [← h]
    exact foldCase_pass text hnames
  have hpass : wrapCalls names (logarithmRule.apply text) = text := by
    rw [pass, hfold] at h
    exact h
  have hgives := Rule.gives_apply logarithmRule_isProper text
  rcases pending_wrapCalls (fun _ hname => hnames.subset hname) (logarithmRule.apply text) with
    ⟨hsame, hidle⟩ | hlt
  · rw [hpass] at hsame
    rw [← hsame] at hidle
    rcases hgives.idle_or_length_lt with ⟨-, hlog⟩ | hlonger
    · exact ⟨hfold, hlog, fun name hname => hidle name (hnames.symm.subset hname)⟩
    · rw [← hsame] at hlonger
      exact absurd hlonger (Nat.lt_irrefl _)
  · -- wrapping has taken something away that the repair of `ln` cannot have added
    exfalso
    rw [hpass] at hlt
    rcases hgives.pending_logarithm with hsame | hless | ⟨hle, -⟩
    · rw [hsame] at hlt
      exact Nat.lt_irrefl _ hlt
    · exact Nat.lt_asymm hlt hless
    · exact absurd hlt (Nat.not_lt_of_le hle)

theorem pass_eq_self_of_idle {text : List Char} (hfold : foldCase text = text)
    (hlog : logarithmRule.Idle false text)
    (hcalls : ∀ name ∈ functionNames, (callRule name.toList).Idle false text) :
    pass functionNames text = text := by
  rw [pass, hfold, Rule.apply, hlog.applyFrom_eq_self, wrapCalls_eq_self hcalls]

/-- **A pass leaves exactly the normal forms as they are.** -/
theorem pass_eq_self_iff_isNormalForm (text : List Char) :
    pass functionNames text = text ↔ IsNormalForm text := by
  constructor
  · intro h
    obtain ⟨hfold, hlog, hcalls⟩ := idle_of_pass_eq_self h
    obtain ⟨hlower, hparens⟩ := foldCase_eq_self_iff_normal.1 hfold
    exact ⟨hlower, hparens, idle_logarithmRule_iff.1 hlog, fun name hname =>
      (idle_callRule_iff hname).1 (hcalls name hname)⟩
  · rintro ⟨hlower, hparens, hlog, hcalls⟩
    exact pass_eq_self_of_idle (foldCase_eq_self_iff_normal.2 ⟨hlower, hparens⟩)
      (idle_logarithmRule_iff.2 hlog) fun name hname => (idle_callRule_iff hname).2
        (hcalls name hname)

end Formula
end CurveSheet
