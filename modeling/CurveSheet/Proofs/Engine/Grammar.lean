/-
# Balanced texts

What balances is said by a grammar: a balanced text is empty, or a balanced text in
parentheses with a balanced text behind it (`Balanced`).  A text without other characters
that closes `depth` parentheses more than it opens is cut by them into balanced texts
(`Closes`), so counting from zero to zero finds just the balanced ones
(`balanced_iff`), and what is no parenthesis does not count.  A text is refused for a closing
parenthesis exactly if some start of it closes more than it opens
(`openAfter_eq_none_iff`).

A depth is never more than the number of characters, so a counter of 32 bits with a sign
counts every text of fewer than `2^31` characters without turning over
(`toInt_step32_of_prefix`), and with it the engine finds what it finds by counting without
bounds (`imbalance32?_eq`).
-/

import CurveSheet.Engine.Draw
import CurveSheet.Proofs.Engine.Balance

namespace CurveSheet
namespace Engine

/-! ### The grammar -/

/-- Parentheses, each opened before it is closed. -/
inductive Balanced : List Char → Prop
  | empty : Balanced []
  | nested {inner after : List Char} (hinner : Balanced inner) (hafter : Balanced after) :
      Balanced ('(' :: inner ++ ')' :: after)

/-- An opening or a closing parenthesis. -/
def isRound (c : Char) : Bool := c == '(' || c == ')'

/-- A balanced text closes what it opens, and nothing else. -/
theorem Balanced.openAfter_eq {text : List Char} (h : Balanced text) (depth : Nat) :
    openAfter depth text = some depth := by
  induction h generalizing depth with
  | empty => rfl
  | @nested inner after hinner hafter ihInner ihAfter =>
    have hopen : openAfter depth ('(' :: (inner ++ ')' :: after)) =
        openAfter (depth + 1) (inner ++ ')' :: after) := rfl
    have hclose : openAfter (depth + 1) (')' :: after) = openAfter depth after := rfl
    rw [List.cons_append, hopen, openAfter_append, ihInner, Option.bind_some, hclose, ihAfter]

/-- Balanced texts with a closing parenthesis between each and the next, `depth` of them. -/
inductive Closes : Nat → List Char → Prop
  | last {text : List Char} (h : Balanced text) : Closes 0 text
  | next {depth : Nat} {inner after : List Char} (hinner : Balanced inner)
      (hafter : Closes depth after) : Closes (depth + 1) (inner ++ ')' :: after)

/-- Parentheses around a balanced text go to the first of the texts behind them. -/
theorem Closes.nested {depth : Nat} {inner after : List Char} (hinner : Balanced inner)
    (h : Closes depth after) : Closes depth ('(' :: inner ++ ')' :: after) := by
  cases h with
  | last hafter => exact .last (.nested hinner hafter)
  | @next depth first rest hfirst hrest =>
    have hjoined := Closes.next (.nested hinner hfirst) hrest
    rwa [List.append_assoc, List.cons_append] at hjoined

/-- **A text that counting brings from a depth to zero closes that many.**  By induction
along the text: an opening parenthesis takes the first of the closing ones that follow. -/
theorem closes_of_openAfter {depth : Nat} {text : List Char}
    (hround : ∀ c ∈ text, isRound c = true) (h : openAfter depth text = some 0) :
    Closes depth text := by
  induction text generalizing depth with
  | nil =>
    obtain rfl := Option.some.inj h
    exact .last .empty
  | cons c text ih =>
    have hrest : ∀ d ∈ text, isRound d = true := fun d hd => hround d (List.mem_cons_of_mem _ hd)
    have hc : c = '(' ∨ c = ')' := by simpa [isRound] using hround c (List.mem_cons_self ..)
    rcases hc with rfl | rfl
    · cases ih hrest (show openAfter (depth + 1) text = some 0 from h) with
      | next hinner hafter => exact .nested hinner hafter
    · cases depth with
      | zero => cases h
      | succ depth => exact .next .empty (ih hrest h)

/-- **The balanced texts are those that counting brings from zero to zero.** -/
theorem balanced_iff {text : List Char} (hround : ∀ c ∈ text, isRound c = true) :
    Balanced text ↔ openAfter 0 text = some 0 := by
  refine ⟨fun h => h.openAfter_eq 0, fun h => ?_⟩
  cases closes_of_openAfter hround h with
  | last hbalanced => exact hbalanced

theorem balanced_filter_iff (text : List Char) :
    Balanced (text.filter isRound) ↔ imbalance? text = none := by
  rw [balanced_iff fun c hc => (List.mem_filter.1 hc).2, openAfter_filter rfl rfl,
    imbalance?_eq_none_iff]

/-! ### Texts that close too much -/

/-- **Counting ends early exactly if some start of the text closes more than is open.** -/
theorem openAfter_eq_none_iff {text : List Char} {depth : Nat} :
    openAfter depth text = none ↔ ∃ p, p <+: text ∧ depth + p.count '(' < p.count ')' := by
  constructor
  · intro h
    by_contra hno
    have hstarts : ∀ p, p <+: text → p.count ')' ≤ depth + p.count '(' := fun p hp =>
      Nat.le_of_not_lt fun hlt => hno ⟨p, hp, hlt⟩
    have hall := hstarts text (List.prefix_refl _)
    have hsome : openAfter depth text = some (depth + text.count '(' - text.count ')') :=
      openAfter_eq_some_iff.2 ⟨hstarts, by omega⟩
    rw [h] at hsome
    cases hsome
  · rintro ⟨p, hp, hlt⟩
    by_contra hne
    obtain ⟨left, hleft⟩ := Option.ne_none_iff_exists'.1 hne
    have := (openAfter_eq_some_iff.1 hleft).1 p hp
    omega

/-! ### A counter of 32 bits -/

/-- What a character adds to the depth. -/
def rise (c : Char) : Int := if c = '(' then 1 else if c = ')' then -1 else 0

/-- The depth behind one more character, in 32 bits with a sign; it turns over at the ends. -/
def step32 (depth : Int32) (c : Char) : Int32 :=
  if c = '(' then depth + 1 else if c = ')' then depth - 1 else depth

/-- The depth behind a text, in 32 bits with a sign; none if a closing parenthesis brings it
below zero. -/
def openAfter32 (depth : Int32) : List Char → Option Int32
  | [] => some depth
  | c :: rest =>
    if c = ')' ∧ step32 depth c < 0 then none else openAfter32 (step32 depth c) rest

/-- How the parentheses of a text fail to balance, counted in 32 bits. -/
def imbalance32? (text : List Char) : Option Imbalance :=
  match openAfter32 0 text with
  | none => some .unexpectedClose
  | some depth => if 0 < depth then some .unclosedOpen else none

/-- A step that does not leave the 32 bits is exact. -/
theorem toInt_step32 (depth : Int32) (c : Char) (hlow : -2 ^ 31 < depth.toInt)
    (hhigh : depth.toInt + 1 < 2 ^ 31) : (step32 depth c).toInt = depth.toInt + rise c := by
  have hone : (1 : Int32).toInt = 1 := rfl
  unfold step32 rise
  split_ifs
  · rw [Int32.toInt_add, hone, Int.bmod_eq_of_le (by omega) (by omega)]
  · rw [Int32.toInt_sub, hone, Int.bmod_eq_of_le (by omega) (by omega)]
    rfl
  · rw [Int.add_zero]

theorem rise_le_one (c : Char) : rise c ≤ 1 := by
  unfold rise
  split_ifs <;> omega

/-- Counting goes on from the depth that a character leads to, unless this is below zero. -/
theorem openAfter_cons (depth : Nat) (c : Char) (text : List Char) :
    openAfter depth (c :: text) =
      if depth + rise c < 0 then none else openAfter (depth + rise c).toNat text := by
  simp only [openAfter, rise]
  split_ifs with hopen hbelow hclose hbelow hbelow
  · omega
  · rfl
  · obtain rfl : depth = 0 := by omega
    rfl
  · obtain ⟨depth, rfl⟩ : ∃ before, depth = before + 1 := ⟨depth - 1, by omega⟩
    have hnext : ((depth + 1 : Nat) + -1 : Int).toNat = depth := by omega
    rw [hnext]
  · omega
  · simp

/-- **Counting in 32 bits is counting,** as long as there is room for every character. -/
theorem map_toInt_openAfter32 {depth : Int32} {count : Nat} {text : List Char}
    (hdepth : depth.toInt = count) (hroom : count + text.length < 2 ^ 31) :
    (openAfter32 depth text).map Int32.toInt = (openAfter count text).map Int.ofNat := by
  induction text generalizing depth count with
  | nil => exact congrArg some hdepth
  | cons c text ih =>
    rw [List.length_cons] at hroom
    have hstep : (step32 depth c).toInt = count + rise c := by
      rw [toInt_step32 depth c (by omega) (by omega), hdepth]
    have hbelow : c = ')' ∧ step32 depth c < 0 ↔ count + rise c < 0 := by
      rw [Int32.lt_iff_toInt_lt, hstep, Int32.toInt_zero, and_iff_right_iff_imp]
      intro h
      unfold rise at h
      split_ifs at h with hopen hclose
      · omega
      · exact hclose
      · omega
    rw [openAfter_cons, openAfter32]
    by_cases h : count + rise c < 0
    · rw [if_pos (hbelow.2 h), if_pos h]
      rfl
    · have hrise := rise_le_one c
      rw [if_neg (mt hbelow.1 h), if_neg h]
      exact ih (by rw [hstep, Int.toNat_of_nonneg (by omega)]) (by omega)

theorem imbalance32?_eq {text : List Char} (h : text.length < 2 ^ 31) :
    imbalance32? text = imbalance? text := by
  have hcount : (openAfter32 0 text).map Int32.toInt = (openAfter 0 text).map Int.ofNat :=
    map_toInt_openAfter32 rfl (by omega)
  unfold imbalance32? imbalance?
  cases hopen : openAfter 0 text with
  | none =>
    rw [hopen, Option.map_none, Option.map_eq_none_iff] at hcount
    rw [hcount]
  | some depth =>
    rw [hopen, Option.map_some, Option.map_eq_some_iff] at hcount
    obtain ⟨word, hword, hvalue⟩ := hcount
    have hpos : (0 : Int32) < word ↔ 0 < depth := by
      rw [Int32.lt_iff_toInt_lt, hvalue, Int32.toInt_zero]
      exact Int.natCast_pos
    rw [hword]
    cases depth with
    | zero => simp [hpos]
    | succ depth => simp [hpos]

/-- **The counter never turns over:** every step that it makes along a text of fewer than `2^31`
characters is exact. -/
theorem toInt_step32_of_prefix {text before : List Char} {c : Char} {depth : Int32}
    (hlength : text.length < 2 ^ 31) (hstart : before ++ [c] <+: text)
    (hdepth : openAfter32 0 before = some depth) :
    (step32 depth c).toInt = depth.toInt + rise c := by
  have hshort : before.length + 1 ≤ text.length := by simpa using hstart.length_le
  have hcount : (openAfter32 0 before).map Int32.toInt = (openAfter 0 before).map Int.ofNat :=
    map_toInt_openAfter32 rfl (by omega)
  rw [hdepth, Option.map_some, eq_comm, Option.map_eq_some_iff] at hcount
  obtain ⟨count, hopen, hvalue⟩ := hcount
  have htotal := (openAfter_eq_some_iff.1 hopen).2
  have hopened : before.count '(' ≤ before.length := List.count_le_length
  have hvalue : depth.toInt = count := hvalue.symm
  exact toInt_step32 depth c (by omega) (by omega)

/-! ### The engine's verdict -/

/-- **What the engine accepts.**  A formula passes exactly if its parentheses are a balanced
text.  It is refused for a closing parenthesis exactly if some start of it closes more
parentheses than it opens, and for an opening one if it does not balance otherwise.  In a
formula of fewer than `2^31` characters a counter of 32 bits never turns over, and counting
with it gives the same verdict. -/
theorem formulaFault?_decides_balanced (formula : String) :
    (formulaFault? formula = none ↔ Balanced (formula.toList.filter isRound)) ∧
    (formulaFault? formula = some (.unbalanced formula .unexpectedClose) ↔
      ∃ p, p <+: formula.toList ∧ p.count '(' < p.count ')') ∧
    (formulaFault? formula = some (.unbalanced formula .unclosedOpen) ↔
      ¬Balanced (formula.toList.filter isRound) ∧
        ¬∃ p, p <+: formula.toList ∧ p.count '(' < p.count ')') ∧
    (formula.length < 2 ^ 31 →
      imbalance32? formula.toList = imbalance? formula.toList ∧
        ∀ before c depth, before ++ [c] <+: formula.toList → openAfter32 0 before = some depth →
          (step32 depth c).toInt = depth.toInt + rise c) := by
  have hclose : (∃ p, p <+: formula.toList ∧ p.count '(' < p.count ')') ↔
      imbalance? formula.toList = some .unexpectedClose := by
    rw [imbalance?_eq_unexpectedClose_iff, openAfter_eq_none_iff]
    simp only [Nat.zero_add]
  rw [balanced_filter_iff, hclose, formulaFault?]
  refine ⟨by simp, by simp, ?_, fun hlength => ⟨imbalance32?_eq hlength,
    fun _ _ _ hstart hdepth => toInt_step32_of_prefix hlength hstart hdepth⟩⟩
  cases imbalance? formula.toList with
  | none => simp
  | some imbalance => cases imbalance <;> simp

/-- Two pairs side by side in a third, and a step of the counter in them. -/
theorem formulaFault?_decides_balanced_nested :
    Balanced ("sin((x)(2))".toList.filter isRound) ∧
      "sin((x)(2))".length < 2 ^ 31 ∧
      imbalance32? "sin((x)(2))".toList = imbalance? "sin((x)(2))".toList ∧
      "sin((x)".toList ++ ['('] <+: "sin((x)(2))".toList ∧
      openAfter32 0 "sin((x)".toList = some 1 ∧
      (step32 1 '(').toInt = (1 : Int32).toInt + rise '(' := by
  obtain ⟨haccept, -, -, hcounter⟩ := formulaFault?_decides_balanced "sin((x)(2))"
  obtain ⟨hsame, hexact⟩ := hcounter (by decide)
  have hstart : "sin((x)".toList ++ ['('] <+: "sin((x)(2))".toList := by decide
  have hdepth : openAfter32 0 "sin((x)".toList = some 1 := by decide
  exact ⟨haccept.1 (by decide), by decide, hsame, hstart, hdepth, hexact _ _ _ hstart hdepth⟩

end Engine
end CurveSheet
