/-
# The scanner inside blocks

Where lines follow the indentation of blocks, the scanner is described by the number of
blocks around it, the place and the tokens so far (`inBlocks`).  It ends the blocks that
lie further to the right than the next line (`exists_unindent_eq`).  A run goes on from any
state that is reached (`Runs`), since every step moves the cursor.
-/

import CurveSheet.Proofs.Yaml.Gap
import CurveSheet.Yaml.Scalar.Written
import CurveSheet.Yaml.Token.Scanner

namespace CurveSheet
namespace Yaml
namespace Scanner

/-! ### States -/

/-- The kinds of tokens of which the latest comes first, in their order. -/
def kindsOf (tokens : List Token) : List TokenKind := (tokens.map (·.kind)).reverse

@[simp] theorem kindsOf_cons (token : Token) (tokens : List Token) :
    kindsOf (token :: tokens) = kindsOf tokens ++ [token.kind] := by
  rw [kindsOf, List.map_cons, List.reverse_cons, kindsOf]

/-- The end has not been read if something else was read last. -/
theorem atEnd_eq_false {s : Scanner} {kinds : List TokenKind} {kind : TokenKind}
    (h : kindsOf s.tokens = kinds ++ [kind]) (hkind : kind ≠ .streamEnd) : s.atEnd = false := by
  rw [atEnd]
  cases htokens : s.tokens with
  | nil => rfl
  | cons token tokens =>
    rw [htokens, kindsOf_cons] at h
    obtain ⟨-, hlast⟩ := List.append_inj' h rfl
    rw [List.head?_cons, Option.any_some, (List.cons.inj hlast).1]
    exact beq_eq_false_iff_ne.2 hkind

/-- The indentation of the innermost of `level` blocks, of which each lies a step further in than
the one around it. -/
def levelIndent : Nat → Int
  | 0 => -1
  | level + 1 => (indentStep * level : Nat)

/-- The indentations around the innermost of `level` blocks. -/
def levelIndents : Nat → List Int
  | 0 => []
  | level + 1 => levelIndent level :: levelIndents level

theorem levelIndent_mono {m n : Nat} (h : m ≤ n) : levelIndent m ≤ levelIndent n := by
  cases m with
  | zero =>
    cases n with
    | zero => exact Int.le_refl _
    | succ n => simp only [levelIndent]; omega
  | succ m =>
    obtain ⟨n, rfl⟩ := Nat.exists_eq_succ_of_ne_zero (Nat.ne_of_gt (Nat.zero_lt_of_lt h))
    have := Nat.mul_le_mul_left indentStep (Nat.le_of_succ_le_succ h)
    simp only [levelIndent]
    omega

/-- The scanner inside `level` blocks, with no brackets around it and no key open. -/
def inBlocks (level : Nat) (cursor : Cursor) (tokens : List Token) (keyAllowed : Bool) : Scanner :=
  ⟨cursor, tokens, levelIndent level, levelIndents level, keyAllowed, none, []⟩

theorem skipGap_eq {s : Scanner} {allowed : Bool} {ahead : Cursor}
    (h : gapFrom s.inFlow s.keyAllowed false s.cursor.mark s.cursor.rest = (allowed, ahead)) :
    s.skipGap = { s with cursor := ahead, keyAllowed := allowed } := by
  simp only [skipGap, h]

/-- Blocks that a line does not leave are not ended. -/
theorem unindent_eq_self {s : Scanner} {column : Int} (h : s.indent ≤ column) :
    s.unindent column = s := by
  rw [unindent]
  split
  · rfl
  · cases s.outerIndents with
    | nil => rfl
    | cons outer rest => rw [endBlocks, if_neg (Int.not_lt.2 h)]

section

variable {level : Nat} {cursor : Cursor} {tokens : List Token} {keyAllowed : Bool}

@[simp] theorem expireKeys_inBlocks : (inBlocks level cursor tokens keyAllowed).expireKeys =
    some (inBlocks level cursor tokens keyAllowed) := rfl

@[simp] theorem dropKey_inBlocks : (inBlocks level cursor tokens keyAllowed).dropKey =
    some (inBlocks level cursor tokens keyAllowed) := rfl

theorem skipGap_inBlocks {allowed : Bool} {ahead : Cursor}
    (h : gapFrom false keyAllowed false cursor.mark cursor.rest = (allowed, ahead)) :
    (inBlocks level cursor tokens keyAllowed).skipGap = inBlocks level ahead tokens allowed :=
  skipGap_eq h

/-- **A line further to the left ends blocks**, and each of them leaves a token. -/
theorem exists_unindent_eq {column : Int} {target : Nat} (htarget : target ≤ level)
    (hle : levelIndent target ≤ column) (hlt : column < levelIndent (target + 1)) :
    ∃ tokens', kindsOf tokens' = kindsOf tokens ++ List.replicate (level - target) .blockEnd ∧
      (inBlocks level cursor tokens keyAllowed).unindent column =
        inBlocks target cursor tokens' keyAllowed := by
  induction level generalizing tokens with
  | zero =>
    obtain rfl := Nat.le_zero.1 htarget
    exact ⟨tokens, by simp, unindent_eq_self hle⟩
  | succ level ih =>
    rcases Nat.eq_or_lt_of_le htarget with rfl | htarget
    · exact ⟨tokens, by simp, unindent_eq_self hle⟩
    · have hleft : column < (inBlocks (level + 1) cursor tokens keyAllowed).indent :=
        Int.lt_of_lt_of_le hlt (levelIndent_mono htarget)
      obtain ⟨tokens', hkinds, hends⟩ := @ih (⟨.blockEnd, cursor.mark, cursor.mark⟩ :: tokens)
        (Nat.le_of_lt_succ htarget)
      refine ⟨tokens', ?_, ?_⟩
      · rw [hkinds, kindsOf_cons, List.append_assoc, List.singleton_append, ← List.replicate_succ]
        congr 2
        omega
      · change endBlocks column _ (levelIndents (level + 1)) = _
        rw [levelIndents, endBlocks, if_pos hleft]
        exact hends

/-- A step at a place, once the gap before it and the ends of blocks are dealt with. -/
theorem step_inBlocks {allowed : Bool} {ahead : Cursor} {target : Nat} {tokens' : List Token}
    (hgap : gapFrom false keyAllowed false cursor.mark cursor.rest = (allowed, ahead))
    (hends : (inBlocks level ahead tokens allowed).unindent ahead.column =
      inBlocks target ahead tokens' allowed) :
    (inBlocks level cursor tokens keyAllowed).step =
      match ahead.rest with
      | [] => (inBlocks target ahead tokens' allowed).fetchEnd
      | c :: _ => (inBlocks target ahead tokens' allowed).fetch c := by
  have hcolumn : (inBlocks level ahead tokens allowed).cursor.column = ahead.column := rfl
  rw [step, skipGap_inBlocks hgap, expireKeys_inBlocks]
  simp only [hcolumn, hends]
  rfl

end

/-! ### Runs -/

/-- A run from the first state comes to the second. -/
def Runs (s t : Scanner) : Prop :=
  ∀ fuel, s.cursor.rest.length + 1 < fuel →
    ∃ fuel', t.cursor.rest.length + 1 < fuel' ∧ run none fuel s = run none fuel' t

theorem Runs.refl (s : Scanner) : Runs s s := fun fuel hfuel => ⟨fuel, hfuel, rfl⟩

theorem Runs.trans {s t u : Scanner} (hfirst : Runs s t) (hsecond : Runs t u) : Runs s u := by
  intro fuel hfuel
  obtain ⟨fuel₁, hfuel₁, hrun₁⟩ := hfirst fuel hfuel
  obtain ⟨fuel₂, hfuel₂, hrun₂⟩ := hsecond fuel₁ hfuel₁
  exact ⟨fuel₂, hfuel₂, hrun₁.trans hrun₂⟩

/-- One step that is not the last. -/
theorem Runs.of_step {s t : Scanner} (hstep : s.step = some t) (hkeys : t.expireKeys = some t)
    (hend : t.atEnd = false) (hless : t.cursor.rest.length < s.cursor.rest.length) : Runs s t := by
  intro fuel hfuel
  obtain ⟨fuel, rfl⟩ := Nat.exists_eq_succ_of_ne_zero (Nat.ne_of_gt (Nat.zero_lt_of_lt hfuel))
  refine ⟨fuel, by omega, ?_⟩
  rw [run, hstep]
  have hwithin : (some t).filter (isWithin none) = some t := rfl
  rw [hwithin, Option.bind_some, hkeys]
  simp only [hend, Bool.false_eq_true, if_false]

/-- The last step leaves all tokens. -/
theorem run_eq_of_step {s t : Scanner} (hstep : s.step = some t) (hkeys : t.expireKeys = some t)
    (hend : t.atEnd = true) {fuel : Nat} (hfuel : s.cursor.rest.length + 1 < fuel) :
    run none fuel s = t.tokens := by
  obtain ⟨fuel, rfl⟩ := Nat.exists_eq_succ_of_ne_zero (Nat.ne_of_gt (Nat.zero_lt_of_lt hfuel))
  have hwithin : (some t).filter (isWithin none) = some t := rfl
  rw [run, hstep, hwithin, Option.bind_some, hkeys]
  simp only [hend, if_true]

end Scanner
end Yaml
end CurveSheet
