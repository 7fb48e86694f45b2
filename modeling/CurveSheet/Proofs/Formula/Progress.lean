/-
# Every pass makes progress

A pass over a text in lower case never adds to its pending repairs, and it takes at least
one away if it changes anything (`pending_pass_lt`).  The order of the table does not matter for
that, so this is said of every table with the same names.

* Wrapping a call takes it away and adds nothing (`Rule.Gives.pending_call`).
* Writing `log` for `ln` takes an `ln` away, but may turn out to be a bare call of its
  own.  Such a call starts a word, so it is wrapped in the same pass: the count stays the
  same only where something is left to wrap (`Rule.Gives.pending_logarithm`).
-/

import CurveSheet.Proofs.Formula.Pending

namespace CurveSheet
namespace Formula

open Text

/-! ### Wrapping calls -/

/-- The rule matches nowhere in a text that stands behind a word character or not. -/
def Rule.Idle (rule : Rule) : (inWord : Bool) → List Char → Prop
  | _, [] => True
  | inWord, c :: rest =>
    (inWord = false → rule (c :: rest) = none) ∧ rule.Idle (isWordChar c) rest

/-- The start of a result, up to the first parenthesis, was the start of the text. -/
theorem Rule.Gives.prefix_of_call {name : List Char} {inWord : Bool} {text result p : List Char}
    (h : (callRule name).Gives inWord text result) (hp : p <+: result) (hparen : '(' ∉ p) :
    p <+: text := by
  induction h generalizing p with
  | done => exact hp
  | keep hrule hrest ih =>
    rcases List.prefix_cons_iff.1 hp with rfl | ⟨t, rfl, ht⟩
    · exact List.nil_prefix
    · rw [List.mem_cons, not_or] at hparen
      exact List.cons_prefix_cons.2 ⟨rfl, ih ht hparen.2⟩
  | @replace replacement matched rest result last hrule hrest ih =>
    obtain ⟨blanks, run, hmatched, -, -, -, rfl⟩ := exists_of_callRule_concat hrule
    have hcall : p <+: name ++ '(' :: (run ++ [')'] ++ result) := by simpa using hp
    have hname : p <+: name := prefix_of_prefix_append_cons hcall hparen
    rw [show matched ++ last :: rest = (matched ++ [last]) ++ rest by simp, hmatched]
    exact hname.trans (by simp)

theorem Rule.Gives.pendingHere_call_le {name : List Char} {inWord : Bool}
    {text result : List Char} (h : (callRule name).Gives inWord text result) :
    pendingHere functionNames result ≤ pendingHere functionNames text := by
  refine pendingHere_le (fun hln => ?_) fun other hother hcall => ?_
  · rw [startsLn_iff] at hln ⊢
    exact h.prefix_of_call hln (by decide)
  · obtain ⟨p, hp, hparen, hstarts⟩ := exists_prefix_of_startsBareCall hother hcall
    exact hstarts text (h.prefix_of_call hp hparen)

/-- **Wrapping calls takes pending repairs away, or finds no call to wrap.** -/
theorem Rule.Gives.pending_call {name : String} (hname : name ∈ functionNames) {inWord : Bool}
    {text result : List Char} (h : (callRule name.toList).Gives inWord text result) :
    result = text ∧ (callRule name.toList).Idle inWord text ∨
      pending functionNames result < pending functionNames text := by
  induction h with
  | done => exact Or.inl ⟨rfl, trivial⟩
  | @keep inWord c rest result hrule hrest ih =>
    rcases ih with ⟨rfl, hidle⟩ | hlt
    · exact Or.inl ⟨rfl, hrule, hidle⟩
    · have hhere := (Rule.Gives.keep hrule hrest).pendingHere_call_le
      exact Or.inr (Nat.add_lt_add_of_le_of_lt hhere hlt)
  | @replace replacement matched rest result last hrule hrest ih =>
    right
    obtain ⟨blanks, run, hmatched, -, -, hrun, rfl⟩ := exists_of_callRule_concat hrule
    have hle : pending functionNames result ≤ pending functionNames rest := by
      rcases ih with ⟨rfl, -⟩ | hlt
      · exact Nat.le_refl _
      · exact Nat.le_of_lt hlt
    have hstarts : startsBareCall name.toList (matched ++ last :: rest) = true := by
      rw [← Bool.not_eq_false, ← callRule_eq_none_iff, hrule]
      simp
    have hone : 1 + pending functionNames rest ≤
        pending functionNames (matched ++ last :: rest) := by
      cases matched with
      | nil => exact Nat.add_le_add_right (one_le_pendingHere hname hstarts) _
      | cons c matched =>
        refine Nat.add_le_add (one_le_pendingHere hname hstarts) ?_
        have := sumPlaces_append_le (pendingHere functionNames) (matched ++ [last]) rest
        rwa [show matched ++ [last] ++ rest = matched ++ last :: rest by simp] at this
    rw [pending_wrapped hname hrun]
    omega

/-! ### Writing `log` for `ln` -/

/-- What the repair of `ln` matches: the two letters, with no word character behind them. -/
theorem exists_of_logarithmRule {text replacement : List Char} {width : Nat}
    (h : logarithmRule text = some (replacement, width)) :
    ∃ rest, text = 'l' :: 'n' :: rest ∧ replacement = ['l', 'o', 'g'] ∧ width = 2 := by
  unfold logarithmRule at h
  split at h
  · rename_i rest
    refine ⟨rest, rfl, ?_⟩
    split at h
    · simp only [Option.ite_none_left_eq_some, Option.some.injEq, Prod.mk.injEq] at h
      exact ⟨h.2.1.symm, h.2.2.symm⟩
    · simp only [Option.some.injEq, Prod.mk.injEq] at h
      exact ⟨h.1.symm, h.2.symm⟩
  · cases h

/-- No `l` of a text that stands behind a word character or not starts a word. -/
def NoWordStartsWithL : (inWord : Bool) → List Char → Prop
  | _, [] => True
  | inWord, c :: rest => (c = 'l' → inWord = true) ∧ NoWordStartsWithL (isWordChar c) rest

/-- The start of a result, up to the first word that starts with `l`, was the start of the
text. -/
theorem Rule.Gives.prefix_of_logarithm {inWord : Bool} {text result p : List Char}
    (h : logarithmRule.Gives inWord text result) (hp : p <+: result)
    (hwords : NoWordStartsWithL inWord p) : p <+: text := by
  induction h generalizing p with
  | done => exact hp
  | keep hrule hrest ih =>
    rcases List.prefix_cons_iff.1 hp with rfl | ⟨t, rfl, ht⟩
    · exact List.nil_prefix
    · exact List.cons_prefix_cons.2 ⟨rfl, ih ht hwords.2⟩
  | @replace replacement matched rest result last hrule hrest ih =>
    obtain ⟨behind, -, rfl, -⟩ := exists_of_logarithmRule hrule
    rcases List.prefix_cons_iff.1 hp with rfl | ⟨t, rfl, ht⟩
    · exact List.nil_prefix
    · exact absurd (hwords.1 rfl) Bool.false_ne_true

theorem noWordStartsWithL_of_not_mem {p : List Char} (h : 'l' ∉ p) (inWord : Bool) :
    NoWordStartsWithL inWord p := by
  induction p generalizing inWord with
  | nil => trivial
  | cons c rest ih =>
    rw [List.mem_cons, not_or] at h
    exact ⟨fun hc => absurd hc.symm h.1, ih h.2 _⟩

theorem noWordStartsWithL_append {letters p : List Char}
    (hletters : ∀ c ∈ letters, isWordChar c = true) (hp : 'l' ∉ p) :
    NoWordStartsWithL true (letters ++ p) := by
  induction letters with
  | nil => exact noWordStartsWithL_of_not_mem hp true
  | cons c letters ih =>
    refine ⟨fun _ => rfl, ?_⟩
    rw [hletters c (List.mem_cons_self ..)]
    exact ih fun d hd => hletters d (List.mem_cons_of_mem _ hd)

theorem isWordChar_of_mem_name {name : String} (hname : name ∈ functionNames) {c : Char}
    (hc : c ∈ name.toList) : isWordChar c = true := by
  have := mem_functionNames_letters name hname c hc
  simp [isWordChar, this]

theorem not_mem_name_of_not_isWordChar {name : String} (hname : name ∈ functionNames) {d : Char}
    (hd : isWordChar d = false) : d ∉ name.toList := fun hmem =>
  Bool.false_ne_true (hd.symm.trans (isWordChar_of_mem_name hname hmem))

/-- Behind its first letter, no word of a bare call starts with `l`: the name is one word, and
blanks and runs have no letters but `x`. -/
theorem exists_prefix_noWordStartsWithL {name : String} (hname : name ∈ functionNames) {c : Char}
    {text : List Char} (h : startsBareCall name.toList (c :: text) = true) :
    ∃ p, p <+: text ∧ NoWordStartsWithL (isWordChar c) p ∧
      ∀ other, p <+: other → startsBareCall name.toList (c :: other) = true := by
  obtain ⟨blanks, d, hblanks, hd, hstart⟩ := startsBareCall_iff.1 h
  obtain ⟨first, letters, hletters⟩ := List.exists_cons_of_ne_nil (name_ne_nil hname)
  rw [hletters, List.append_assoc, List.cons_append, List.cons_prefix_cons] at hstart
  obtain ⟨rfl, hstart⟩ := hstart
  have hword : ∀ e ∈ first :: letters, isWordChar e = true := fun e he =>
    isWordChar_of_mem_name hname (hletters ▸ he)
  refine ⟨_, hstart, ?_, fun other hother => startsBareCall_iff.2
    ⟨blanks, d, hblanks, hd, ?_⟩⟩
  · rw [hword first (List.mem_cons_self ..)]
    refine noWordStartsWithL_append (fun e he => hword e (List.mem_cons_of_mem _ he)) ?_
    rw [List.mem_append, List.mem_singleton, not_or]
    refine ⟨fun hl => absurd (hblanks _ hl) (by decide), ?_⟩
    rintro rfl
    exact absurd hd (by decide)
  · rw [hletters, List.append_assoc, List.cons_append]
    exact List.cons_prefix_cons.2 ⟨rfl, hother⟩

theorem Rule.Gives.pendingHere_logarithm_le {c : Char} {rest result : List Char}
    (h : logarithmRule.Gives (isWordChar c) rest result) :
    pendingHere functionNames (c :: result) ≤ pendingHere functionNames (c :: rest) := by
  refine pendingHere_le (fun hln => ?_) fun name hname hcall => ?_
  · rw [startsLn_iff, List.cons_prefix_cons] at hln ⊢
    exact ⟨hln.1, h.prefix_of_logarithm hln.2 (noWordStartsWithL_of_not_mem (by decide) _)⟩
  · obtain ⟨p, hp, hwords, hstarts⟩ := exists_prefix_noWordStartsWithL hname hcall
    exact hstarts rest (h.prefix_of_logarithm hp hwords)

/-- At `log`, a bare call of the logarithm is all that can be pending. -/
theorem pendingHere_log (rest : List Char) :
    pendingHere functionNames ('l' :: 'o' :: 'g' :: rest) =
      if startsBareCall "log".toList ('l' :: 'o' :: 'g' :: rest) then 1 else 0 := by
  have hln : startsLn ('l' :: 'o' :: 'g' :: rest) = false := rfl
  simp [pendingHere, hln, functionNames, List.countP_cons, startsBareCall, cons_isPrefixOf?_cons]

/-- **Writing `log` for `ln` takes pending repairs away, or leaves a call to wrap.** -/
theorem Rule.Gives.pending_logarithm {inWord : Bool} {text result : List Char}
    (h : logarithmRule.Gives inWord text result) :
    result = text ∨ pending functionNames result < pending functionNames text ∨
      pending functionNames result ≤ pending functionNames text ∧
        ¬(callRule "log".toList).Idle inWord result := by
  induction h with
  | done => exact Or.inl rfl
  | @keep inWord c rest result hrule hrest ih =>
    have hhere := hrest.pendingHere_logarithm_le
    rcases ih with rfl | hlt | ⟨hle, hbusy⟩
    · exact Or.inl rfl
    · exact Or.inr (Or.inl (Nat.add_lt_add_of_le_of_lt hhere hlt))
    · exact Or.inr (Or.inr ⟨Nat.add_le_add hhere hle, fun hidle => hbusy hidle.2⟩)
  | @replace replacement matched rest result last hrule hrest ih =>
    right
    obtain ⟨behind, htext, rfl, hwidth⟩ := exists_of_logarithmRule hrule
    obtain ⟨c, rfl⟩ := List.length_eq_one_iff.1 (Nat.succ.inj hwidth)
    rw [List.singleton_append, List.cons.injEq, List.cons.injEq] at htext
    obtain ⟨rfl, rfl, rfl⟩ := htext
    have hle : pending functionNames result ≤ pending functionNames rest := by
      rcases ih with rfl | hlt | ⟨hle, -⟩
      · exact Nat.le_refl _
      · exact Nat.le_of_lt hlt
      · exact hle
    have htext : 1 + pending functionNames rest ≤ pending functionNames ('l' :: 'n' :: rest) :=
      Nat.add_le_add (Nat.le_add_right ..) (Nat.le_add_left ..)
    have hresult : pending functionNames ('l' :: 'o' :: 'g' :: result) =
        pendingHere functionNames ('l' :: 'o' :: 'g' :: result) + pending functionNames result := by
      simp [pending, sumPlaces, pendingHere_cons_eq_zero]
    rw [pendingHere_log] at hresult
    change pending functionNames ('l' :: 'o' :: 'g' :: result) <
        pending functionNames ('l' :: 'n' :: rest) ∨
      pending functionNames ('l' :: 'o' :: 'g' :: result) ≤
          pending functionNames ('l' :: 'n' :: rest) ∧
        ¬(callRule "log".toList).Idle false ('l' :: 'o' :: 'g' :: result)
    split at hresult
    · rename_i hcall
      refine Or.inr ⟨by omega, fun hidle => ?_⟩
      rw [callRule_eq_none_iff.1 (hidle.1 rfl)] at hcall
      cases hcall
    · exact Or.inl (by omega)

/-! ### Passes -/

theorem wrapCalls_cons (name : String) (names : List String) (text : List Char) :
    wrapCalls (name :: names) text = wrapCalls names ((callRule name.toList).apply text) := rfl

/-- Wrapping the calls of some functions, one after the other, takes pending repairs away, or
finds no call to wrap. -/
theorem pending_wrapCalls {names : List String} (hnames : ∀ name ∈ names, name ∈ functionNames)
    (text : List Char) :
    wrapCalls names text = text ∧ (∀ name ∈ names, (callRule name.toList).Idle false text) ∨
      pending functionNames (wrapCalls names text) < pending functionNames text := by
  induction names generalizing text with
  | nil => exact Or.inl ⟨rfl, by simp⟩
  | cons name names ih =>
    have hname := hnames name (List.mem_cons_self ..)
    have hfirst :=
      (Rule.gives_apply (callRule_isProper (name_ne_nil hname)) text).pending_call hname
    have hothers := ih (fun other hother => hnames other (List.mem_cons_of_mem _ hother))
      ((callRule name.toList).apply text)
    rw [wrapCalls_cons]
    rcases hfirst with ⟨hsame, hidle⟩ | hlt
    · rw [hsame] at hothers ⊢
      rcases hothers with ⟨hsame', hidle'⟩ | hlt
      · exact Or.inl ⟨hsame', by simpa using ⟨hidle, hidle'⟩⟩
      · exact Or.inr hlt
    · right
      rcases hothers with ⟨hsame', -⟩ | hlt'
      · rwa [hsame']
      · exact Nat.lt_trans hlt' hlt

/-- **A pass makes progress.**  A pass that changes a text in lower case and with ASCII
parentheses leaves fewer repairs pending, in whatever order it goes through the table.  If all
that the repair of `ln` did was to uncover a call of the logarithm, that call is wrapped. -/
theorem pending_pass_lt {names : List String} {text : List Char} (hfold : foldCase text = text)
    (hne : pass names text ≠ text) (hnames : names.Perm functionNames := by exact .refl _) :
    pending functionNames (pass names text) < pending functionNames text := by
  have hpass : pass names text = wrapCalls names (logarithmRule.apply text) := by
    rw [pass, hfold]
  have hlog := (Rule.gives_apply logarithmRule_isProper text).pending_logarithm
  have hwrap := pending_wrapCalls (fun _ h => hnames.subset h) (logarithmRule.apply text)
  rw [hpass] at hne ⊢
  rcases hwrap with ⟨hsame, hidle⟩ | hlt
  · rw [hsame] at hne ⊢
    rcases hlog with heq | hlt | ⟨-, hbusy⟩
    · exact absurd heq hne
    · exact hlt
    · exact absurd (hidle "log" (hnames.symm.subset (by decide))) hbusy
  · rcases hlog with heq | hlt' | ⟨hle, -⟩
    · rwa [heq] at hlt ⊢
    · exact Nat.lt_trans hlt hlt'
    · exact Nat.lt_of_lt_of_le hlt hle

end Formula
end CurveSheet
