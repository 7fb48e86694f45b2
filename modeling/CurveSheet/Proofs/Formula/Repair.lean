/-
# Repairs, one at a time

A pass makes all the repairs it finds in one go, one name after the other, and a normal form
is what up to sixteen passes make.  Here every repair is a step of its own: something at the
start of a word is written anew and the text around it stays (`Repair`, `RepairStep`).

Where a rule has replaced something, the word behind it starts where it started before: a
repair ends in a word character only if what it stands for did (`Repair.endsWord`).  So what a
rule writes in the course of a text is a row of single repairs (`Rule.Gives.repairs`), and so
are a pass and a normal form (`repairs_pass`, `repairs_normalChars`).  Whatever every step
leaves as it is, a normal form does too (`Repairs.eq_of_step`); if there is no `ln`, these are
all characters but blanks and parentheses (`normalize_by_repairs`).
-/

import CurveSheet.Proofs.Formula.NormalForm
import Mathlib.Logic.Relation

namespace CurveSheet
namespace Formula

open Text Function Relation

/-! ### Single repairs -/

/-- What is written for the start of a word, given what stands behind it. -/
inductive Repair : (typed repaired after : List Char) → Prop
  /-- `ln` is a whole word. -/
  | logarithm {after : List Char} (hend : after.head?.any isWordChar = false) :
      Repair ['l', 'n'] ['l', 'o', 'g'] after
  /-- A name, blanks and a whole run. -/
  | call {name : String} {blanks run after : List Char} (hname : name ∈ functionNames)
      (hblanks : ∀ c ∈ blanks, isBlank c = true) (hne : run ≠ [])
      (hrun : ∀ c ∈ run, isRunChar c = true) (hend : after.head?.any isRunChar = false) :
      Repair (name.toList ++ blanks ++ run) (name.toList ++ '(' :: run ++ [')']) after

/-- One repair, made where a word starts. -/
inductive RepairStep : (text result : List Char) → Prop
  | inText {before typed repaired after : List Char}
      (hstart : IsWordBoundary before (typed ++ after)) (hrepair : Repair typed repaired after) :
      RepairStep (before ++ typed ++ after) (before ++ repaired ++ after)

/-- Repairs, one after the other. -/
abbrev Repairs : (text result : List Char) → Prop := ReflTransGen RepairStep

/-- A repair keeps the first character, and a name starts with it. -/
theorem Repair.exists_cons {typed repaired after : List Char} (h : Repair typed repaired after) :
    ∃ first typed' repaired', first ∈ ['s', 'c', 't', 'l', 'a', 'e'] ∧
      typed = first :: typed' ∧ repaired = first :: repaired' := by
  cases h with
  | logarithm hend => exact ⟨'l', ['n'], ['o', 'g'], by simp, rfl, rfl⟩
  | call hname hblanks hne hrun hend =>
    obtain ⟨first, hfirst, hhead⟩ := mem_functionNames_head _ hname
    obtain ⟨letters, hletters⟩ := List.head?_eq_some_iff.1 hhead
    exact ⟨first, _, _, hfirst, by rw [hletters]; rfl, by rw [hletters]; rfl⟩

theorem isWordChar_of_mem_heads :
    ∀ c ∈ ['s', 'c', 't', 'l', 'a', 'e'], isWordChar c = true :=
  List.all_eq_true.1 (by decide)

/-- What is repaired starts a word exactly if no word character stands before it. -/
theorem Repair.isWordBoundary_iff {typed repaired after : List Char}
    (h : Repair typed repaired after) (before rest : List Char) :
    IsWordBoundary before (typed ++ rest) ↔ before.getLast?.any isWordChar = false := by
  obtain ⟨first, others, -, hfirst, rfl, -⟩ := h.exists_cons
  exact isWordBoundary_cons_iff (isWordChar_of_mem_heads first hfirst)

/-- What is repaired holds word characters, blanks and characters of runs. -/
theorem Repair.not_mem_typed {typed repaired after : List Char} (h : Repair typed repaired after)
    {d : Char} (hword : isWordChar d = false) (hblank : isBlank d = false)
    (hrunChar : isRunChar d = false) : d ∉ typed := by
  intro hmem
  cases h with
  | logarithm hend =>
    have hletters : ∀ c ∈ ['l', 'n'], isWordChar c = true := List.all_eq_true.1 (by decide)
    exact Bool.false_ne_true (hword.symm.trans (hletters d hmem))
  | call hname hblanks hne hrun hend =>
    rcases List.mem_append.1 hmem with hmem | hmem
    · rcases List.mem_append.1 hmem with hmem | hmem
      · exact not_mem_name_of_not_isWordChar hname hword hmem
      · exact Bool.false_ne_true (hblank.symm.trans (hblanks d hmem))
    · exact Bool.false_ne_true (hrunChar.symm.trans (hrun d hmem))

theorem repairStep_iff {text result : List Char} :
    RepairStep text result ↔ ∃ before typed repaired after, Repair typed repaired after ∧
      before.getLast?.any isWordChar = false ∧ text = before ++ typed ++ after ∧
        result = before ++ repaired ++ after := by
  constructor
  · rintro ⟨hstart, hrepair⟩
    exact ⟨_, _, _, _, hrepair, (hrepair.isWordBoundary_iff ..).1 hstart, rfl, rfl⟩
  · rintro ⟨before, typed, repaired, after, hrepair, hstart, rfl, rfl⟩
    exact .inText ((hrepair.isWordBoundary_iff ..).2 hstart) hrepair

/-- **Words start behind a repair where they started before it.** -/
theorem Repair.endsWord {typed repaired after : List Char} (h : Repair typed repaired after)
    (before between : List Char)
    (hword : (before ++ typed ++ between).getLast?.any isWordChar = false) :
    (before ++ repaired ++ between).getLast?.any isWordChar = false := by
  rcases List.eq_nil_or_concat between with rfl | ⟨between, c, rfl⟩
  · cases h with
    | logarithm hend =>
      have hn : isWordChar 'n' = true := by decide
      simp [hn] at hword
    | @call name blanks run _ hname hblanks hne hrun hend =>
      rw [show before ++ (name.toList ++ '(' :: run ++ [')']) ++ [] =
        (before ++ name.toList ++ '(' :: run) ++ [')'] by simp, List.getLast?_concat]
      decide
  · simpa [List.getLast?_append] using hword

/-! ### Rules make repairs -/

/-- Whatever the rule replaces is a repair. -/
def Rule.IsRepair (rule : Rule) : Prop :=
  ∀ ⦃typed repaired after⦄, rule (typed ++ after) = some (repaired, typed.length) →
    Repair typed repaired after

theorem isRepair_logarithmRule : logarithmRule.IsRepair := by
  intro typed repaired after h
  have hsome : logarithmRule (typed ++ after) ≠ none := by
    rw [h]
    exact Option.some_ne_none _
  obtain ⟨behind, htext, hend⟩ := logarithmRule_ne_none_iff.1 hsome
  obtain ⟨_, -, rfl, hwidth⟩ := exists_of_logarithmRule h
  obtain ⟨rfl, rfl⟩ : typed = ['l', 'n'] ∧ after = behind := List.append_inj htext hwidth
  exact .logarithm hend

theorem isRepair_callRule {name : String} (hname : name ∈ functionNames) :
    (callRule name.toList).IsRepair := by
  intro typed repaired after h
  obtain ⟨blanks, run, behind, htext, hblanks, hne, hrun, rfl, hwidth, hend⟩ :=
    exists_of_callRule h
  obtain ⟨rfl, rfl⟩ := List.append_inj htext hwidth
  exact .call hname hblanks hne hrun hend

/-- **What a rule makes of a text, single repairs make of it,** from the left to the right: the
text before is repaired already, and a word starts behind it if one started there. -/
theorem Rule.Gives.repairs {rule : Rule} (hrule : rule.IsRepair) {inWord : Bool}
    {text result : List Char} (h : rule.Gives inWord text result) (before : List Char)
    (hbefore : inWord = false → before.getLast?.any isWordChar = false) :
    Repairs (before ++ text) (before ++ result) := by
  induction h generalizing before with
  | done => exact .refl
  | @keep inWord c rest result hkeep hrest ih =>
    have hrepairs := ih (before ++ [c]) (by simp)
    simpa using hrepairs
  | @replace replacement matched rest result last hmatch hrest ih =>
    have hrepair : Repair (matched ++ [last]) replacement rest := hrule (by simpa using hmatch)
    have hstep : RepairStep (before ++ (matched ++ last :: rest)) (before ++ replacement ++ rest) :=
      repairStep_iff.2 ⟨before, _, _, _, hrepair, hbefore rfl, by simp, rfl⟩
    have hrepairs := ih (before ++ replacement) fun hlast => by
      have := hrepair.endsWord before [] (by simp [hlast])
      simpa using this
    rw [← List.append_assoc before replacement result]
    exact .head hstep hrepairs

theorem repairs_apply {rule : Rule} (hproper : rule.IsProper) (hrule : rule.IsRepair)
    (text : List Char) : Repairs text (rule.apply text) :=
  (Rule.gives_apply hproper text).repairs hrule [] fun _ => rfl

theorem repairs_wrapCalls {names : List String} (hnames : ∀ name ∈ names, name ∈ functionNames)
    (text : List Char) : Repairs text (wrapCalls names text) := by
  induction names generalizing text with
  | nil => exact .refl
  | cons name names ih =>
    have hname := hnames name (List.mem_cons_self ..)
    have hfirst : Repairs text ((callRule name.toList).apply text) :=
      repairs_apply (callRule_isProper (name_ne_nil hname)) (isRepair_callRule hname) text
    rw [wrapCalls_cons]
    exact hfirst.trans (ih (fun other hother => hnames other (List.mem_cons_of_mem _ hother)) _)

/-- **A pass makes repairs of a text in lower case,** whatever the order of its table. -/
theorem repairs_pass {names : List String} (hnames : names.Perm functionNames)
    (text : List Char) : Repairs (foldCase text) (pass names text) :=
  (repairs_apply logarithmRule_isProper isRepair_logarithmRule _).trans
    (repairs_wrapCalls (fun _ hname => hnames.subset hname) _)

theorem repairs_iterate_pass {names : List String} (hnames : names.Perm functionNames)
    (text : List Char) (n : Nat) : Repairs (foldCase text) ((pass names)^[n + 1] text) := by
  induction n with
  | zero => exact repairs_pass hnames text
  | succ n ih =>
    have hfold : foldCase ((pass names)^[n + 1] text) = (pass names)^[n + 1] text := by
      rw [iterate_succ_apply']
      exact foldCase_pass _ hnames
    have hlast := repairs_pass hnames ((pass names)^[n + 1] text)
    rw [hfold] at hlast
    rw [iterate_succ_apply']
    exact ih.trans hlast

theorem repairs_normalChars (text : List Char) :
    Repairs (foldCase text) (normalChars functionNames text) := by
  rw [normalChars_eq_iterate]
  exact repairs_iterate_pass (.refl _) text 15

/-- What every repair leaves as it is, repairs leave as it is. -/
theorem Repairs.eq_of_step {α : Type} {f : List Char → α}
    (hstep : ∀ {text result}, RepairStep text result → f result = f text)
    {text result : List Char} (h : Repairs text result) : f result = f text := by
  induction h with
  | refl => rfl
  | tail _ hlast ih => exact (hstep hlast).trans ih

/-! ### What repairs leave -/

/-- Parentheses of either width. -/
def isParenthesis (c : Char) : Bool := c == '(' || c == ')' || c == '（' || c == '）'

/-- Parentheses are all that is folded, and what they are folded to. -/
theorem foldWidth_cases (c : Char) :
    foldWidth c = c ∨ isParenthesis c = true ∧ isParenthesis (foldWidth c) = true := by
  unfold foldWidth
  split_ifs with hopen hclose
  · subst hopen
    decide
  · subst hclose
    decide
  · exact Or.inl rfl

/-- A text less its blanks and parentheses. -/
def stripped (text : List Char) : List Char := text.filter fun c => !isBlank c && !isParenthesis c

theorem stripped_append (left right : List Char) :
    stripped (left ++ right) = stripped left ++ stripped right := List.filter_append ..

theorem stripped_blanks {blanks : List Char} (h : ∀ c ∈ blanks, isBlank c = true) :
    stripped blanks = [] :=
  List.filter_eq_nil_iff.2 fun c hc => by simp [h c hc]

theorem stripped_map_foldWidth (text : List Char) :
    stripped (text.map foldWidth) = stripped text := by
  induction text with
  | nil => rfl
  | cons c text ih =>
    have hhead : stripped [foldWidth c] = stripped [c] := by
      rcases foldWidth_cases c with hsame | ⟨hparen, hfolded⟩
      · rw [hsame]
      · simp [stripped, hparen, hfolded]
    rw [List.map_cons, ← List.singleton_append, stripped_append, hhead, ih, ← stripped_append,
      List.singleton_append]

theorem infix_of_infix_append_cons {α : Type} {p left right : List α} {x : α}
    (h : p <:+: left ++ x :: right) (hne : p ≠ []) (hx : x ∉ p) :
    p <:+: left ∨ p <:+: right := by
  rcases List.infix_append_iff.1 h with hleft | hright | ⟨p, q, rfl, hp, hq⟩
  · exact Or.inl hleft
  · rcases List.infix_cons_iff.1 hright with hstart | hright
    · rcases List.prefix_cons_iff.1 hstart with rfl | ⟨t, rfl, -⟩
      · exact absurd rfl hne
      · simp at hx
    · exact Or.inr hright
  · rcases List.prefix_cons_iff.1 hq with rfl | ⟨t, rfl, -⟩
    · rw [List.append_nil]
      exact Or.inl hp.isInfix
    · simp at hx

/-- **A repair of a text without `ln` takes blanks away and puts parentheses in.**  There is
still no `ln` then: letters that stand side by side did so before. -/
theorem RepairStep.stripped_eq {text result : List Char} (h : RepairStep text result)
    (hln : ¬['l', 'n'] <:+: text) : stripped result = stripped text ∧ ¬['l', 'n'] <:+: result := by
  obtain ⟨before, typed, repaired, after, hrepair, -, rfl, rfl⟩ := repairStep_iff.1 h
  cases hrepair with
  | logarithm hend => exact absurd (List.infix_append before ['l', 'n'] after) hln
  | @call name blanks run _ hname hblanks hne hrun hend =>
    constructor
    · have hopen : stripped ('(' :: run) = stripped run := by
        rw [← List.singleton_append, stripped_append]
        rfl
      have hclose : stripped [')'] = [] := by decide
      simp only [stripped_append, stripped_blanks hblanks, hopen, hclose, List.append_nil]
    · intro hinfix
      rw [show before ++ (name.toList ++ '(' :: run ++ [')']) ++ after =
        (before ++ name.toList) ++ '(' :: (run ++ ')' :: after) by simp] at hinfix
      have hpart (front behind : List Char) {part : List Char} (hhas : ['l', 'n'] <:+: part)
          (htext : before ++ (name.toList ++ blanks ++ run) ++ after = front ++ part ++ behind) :
          False :=
        hln (htext ▸ hhas.trans (List.infix_append front part behind))
      rcases infix_of_infix_append_cons hinfix (by simp) (by decide) with hname | hinfix
      · exact hpart [] (blanks ++ run ++ after) hname (by simp)
      · rcases infix_of_infix_append_cons hinfix (by simp) (by decide) with hrun | hafter
        · exact hpart (before ++ name.toList ++ blanks) after hrun (by simp)
        · exact hpart (before ++ name.toList ++ blanks ++ run) [] hafter (by simp)

theorem Repairs.stripped_eq {text result : List Char} (h : Repairs text result)
    (hln : ¬['l', 'n'] <:+: text) : stripped result = stripped text ∧ ¬['l', 'n'] <:+: result := by
  induction h with
  | refl => exact ⟨rfl, hln⟩
  | tail _ hlast ih =>
    obtain ⟨hsame, hln⟩ := hlast.stripped_eq ih.2
    exact ⟨hsame.trans ih.1, hln⟩

/-- Lower case with ASCII parentheses has an `ln` only where lower case has. -/
theorem not_infix_foldCase {text : List Char} (h : ¬['l', 'n'] <:+: lower text) :
    ¬['l', 'n'] <:+: foldCase text := by
  intro hinfix
  obtain ⟨part, hpart, hmap⟩ := List.infix_map_iff.1 hinfix
  have hstart : ['l', 'n'] <+: part :=
    prefix_of_prefix_map_foldWidth (by simp) (hmap ▸ List.prefix_refl _)
  exact h (hstart.isInfix.trans hpart)

/-- **A normal form is made by repairs only,** of the text in lower case and with ASCII
parentheses.  So if there is no `ln`, it has the characters that lower case has, but for
blanks and parentheses. -/
theorem normalize_by_repairs (text : String) :
    Repairs (foldCase text.toList) (normalize text).toList ∧
      (¬['l', 'n'] <:+: lower text.toList →
        stripped (normalize text).toList = stripped (lower text.toList)) := by
  have hrepairs : Repairs (foldCase text.toList) (normalize text).toList := by
    rw [toList_normalize]
    exact repairs_normalChars text.toList
  refine ⟨hrepairs, fun hln => ?_⟩
  rw [(hrepairs.stripped_eq (not_infix_foldCase hln)).1, foldCase, stripped_map_foldWidth]

/-- Lower case depends on what stands around a sigma, repairs do not. -/
theorem normalize_by_repairs_final_sigma :
    ¬['l', 'n'] <:+: lower "SIN 2X（ΑΣ）ACOSx".toList ∧
      stripped (normalize "SIN 2X（ΑΣ）ACOSx").toList = "sin2xαςacosx".toList := by
  have hln : ¬['l', 'n'] <:+: lower "SIN 2X（ΑΣ）ACOSx".toList := by decide +kernel
  refine ⟨hln, ?_⟩
  rw [(normalize_by_repairs _).2 hln]
  decide +kernel

end Formula
end CurveSheet
