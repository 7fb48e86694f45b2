/-
# JSON texts and numbers read back

A character of a text is read back from whatever is written for it
(`readTextFrom?_escapedChar`), so a text is read back from between its quotes
(`readText?_escaped`).  Counts and measurements are read back as what they are: the
digits of a count are an integer, and the text of a measurement never is one
(`readNumber?_toDigits`, `readNumber?_finiteChars`).
-/

import CurveSheet.Proofs.Json.Reader
import CurveSheet.Proofs.Number.Characters
import CurveSheet.Proofs.Number.ReadBack

namespace CurveSheet
namespace Json

/-! ### Texts -/

/-- Four digits of a control give its code unit. -/
theorem readUnit?_hex4 {n : Nat} (h : n < 0x20) (rest : List Char) :
    readUnit? (hex4 n ++ rest) = some (n, rest) := by
  have hall : ∀ n : Fin 0x20,
      (hex4 n.val).length = 4 ∧ Yaml.hexValue? (hex4 n.val) = some n.val := by
    decide
  obtain ⟨hlength, hvalue⟩ := hall ⟨n, h⟩
  rw [readUnit?, List.take_left' hlength, List.drop_left' hlength, if_pos hlength, hvalue]
  rfl

/-- An escape by code unit gives back the control. -/
theorem readCode?_hex4 {c : Char} (h : c.toNat < 0x20) (rest : List Char) :
    readCode? (hex4 c.toNat ++ rest) = some (c, rest) := by
  unfold readCode?
  rw [readUnit?_hex4 h]
  dsimp only
  rw [if_pos (.inl (by omega)), Char.ofNat_toNat]

/-- **A character is read back** from what is written for it. -/
theorem readTextFrom?_escapedChar (c : Char) (fuel : Nat) (rest : List Char) :
    readTextFrom? (fuel + 1) (escapedChar c ++ rest) =
      (readTextFrom? fuel rest).map fun read => (c :: read.1, read.2) := by
  have hletter {letter : Char} (h : letter ≠ 'u') (hc : escapeLetter? letter = some c) :
      readTextFrom? (fuel + 1) (['\\', letter] ++ rest) =
        (readTextFrom? fuel rest).map fun read => (c :: read.1, read.2) := by
    change readTextFrom? (fuel + 1) ('\\' :: letter :: rest) = _
    rw [readTextFrom?, if_neg (by decide), if_pos rfl, readEscape?, if_neg h, hc]
    rfl
  unfold escapedChar
  split_ifs with h1 h2 h3 h4 h5 h6 h7 h8
  · subst h1
    exact hletter (by decide) rfl
  · subst h2
    exact hletter (by decide) rfl
  · subst h3
    exact hletter (by decide) rfl
  · subst h4
    exact hletter (by decide) rfl
  · subst h5
    exact hletter (by decide) rfl
  · subst h6
    exact hletter (by decide) rfl
  · subst h7
    exact hletter (by decide) rfl
  · change readTextFrom? (fuel + 1) ('\\' :: 'u' :: (hex4 c.toNat ++ rest)) = _
    rw [readTextFrom?, if_neg (by decide), if_pos rfl, readEscape?, if_pos rfl,
      readCode?_hex4 h8]
  · change readTextFrom? (fuel + 1) (c :: rest) = _
    rw [readTextFrom?, if_neg h1, if_neg h2, if_neg h8]

theorem readTextFrom?_escaped {chars : List Char} {fuel : Nat} (h : chars.length < fuel)
    (rest : List Char) :
    readTextFrom? fuel (chars.flatMap escapedChar ++ '"' :: rest) = some (chars, rest) := by
  induction chars generalizing fuel with
  | nil =>
    obtain ⟨fuel, rfl⟩ := Nat.exists_eq_succ_of_ne_zero (Nat.ne_of_gt h)
    rfl
  | cons c chars ih =>
    obtain ⟨fuel, rfl⟩ := Nat.exists_eq_succ_of_ne_zero (Nat.ne_of_gt (Nat.zero_lt_of_lt h))
    rw [List.flatMap_cons, List.append_assoc, readTextFrom?_escapedChar,
      ih (Nat.lt_of_succ_lt_succ h)]
    rfl

theorem length_le_escaped (chars : List Char) :
    chars.length ≤ (chars.flatMap escapedChar).length := by
  have hone (c : Char) : 1 ≤ (escapedChar c).length := by
    unfold escapedChar
    split_ifs <;> simp
  induction chars with
  | nil => exact Nat.le_refl _
  | cons c chars ih =>
    have := hone c
    rw [List.flatMap_cons, List.length_append, List.length_cons]
    omega

/-- **A text is read back** from between its quotes. -/
theorem readText?_escaped (s : String) (rest : List Char) :
    readText? (s.toList.flatMap escapedChar ++ '"' :: rest) = some (s, rest) := by
  have hfuel : s.toList.length <
      (s.toList.flatMap escapedChar ++ '"' :: rest).length + 1 := by
    have := length_le_escaped s.toList
    rw [List.length_append]
    omega
  rw [readText?, readTextFrom?_escaped hfuel, Option.map_some, String.ofList_toList]

/-! ### Numbers -/

/-- A number ends where no character of numbers follows. -/
theorem readNumber?_append {word rest : List Char} {value : Data}
    (hword : ∀ c ∈ word, isNumberChar c = true) (hrest : rest.head?.any isNumberChar = false)
    (h : number? word = some value) : readNumber? (word ++ rest) = some (value, rest) := by
  have hstop : rest.takeWhile isNumberChar = [] ∧ rest.dropWhile isNumberChar = rest := by
    cases rest with
    | nil => exact ⟨rfl, rfl⟩
    | cons c rest =>
      have hc : isNumberChar c = false := hrest
      simp [hc]
  rw [readNumber?, List.takeWhile_append_of_pos hword, List.dropWhile_append_of_pos hword,
    hstop.1, hstop.2, List.append_nil, h]
  rfl

theorem isNumberChar_of_isNumeric {c : Char} (h : isNumeric c = true) : isNumberChar c = true := by
  simp only [isNumeric, Bool.or_eq_true, beq_iff_eq] at h
  rcases h with (((h | rfl) | rfl) | rfl) | rfl
  · rw [isNumberChar, h, Bool.true_or]
  all_goals decide

/-- A word that starts with a digit is not negative. -/
theorem head?_beq_minus {word : List Char} (h : word.head?.any isDigit = true) :
    (word.head? == some '-') = false := by
  rw [beq_eq_false_iff_ne]
  intro hhead
  rw [hhead] at h
  exact absurd h (by decide)

theorem isWholePart_iff {whole : List Char} : isWholePart whole = true ↔
    whole ≠ [] ∧ (whole.length = 1 ∨ whole.head? ≠ some '0') := by
  simp [isWholePart]

theorem any_isDigit_of_forall {whole : List Char} (hne : whole ≠ [])
    (h : ∀ c ∈ whole, isDigit c = true) (rest : List Char) :
    (whole ++ rest).head?.any isDigit = true := by
  cases whole with
  | nil => exact absurd rfl hne
  | cons c whole => exact h c (List.mem_cons_self ..)

/-- The digits of a count are an integer. -/
theorem number?_toDigits (n : Nat) : number? (Nat.toDigits 10 n) = some (.integer n) := by
  have hdigits : ∀ c ∈ Nat.toDigits 10 n, isDigit c = true := fun _ hc =>
    isDigit_of_mem_toDigits hc
  have hminus := head?_beq_minus (any_isDigit_of_forall Nat.toDigits_ne_nil hdigits [])
  have hspan := span_isDigit hdigits (rfl : ([] : List Char).head?.any isDigit = false)
  have hwhole : isWholePart (Nat.toDigits 10 n) = true := by
    refine isWholePart_iff.2 ⟨Nat.toDigits_ne_nil, ?_⟩
    by_cases hn : n = 0
    · exact .inl (hn ▸ rfl)
    · exact .inr (head?_toDigits_ne_zero hn)
  rw [List.append_nil] at hminus hspan
  unfold number?
  simp only [hminus, Bool.false_eq_true, if_false, hspan, hwhole, Bool.not_true, List.isEmpty_nil,
    if_true, digitsValue_toDigits]

/-- The text of a measure is the number that it denotes, and never an integer. -/
theorem number?_of_isMeasure {measure : List Char} (h : Layout.IsMeasure measure) {x : Finite}
    (negative : Bool)
    (hread : Binary64.read? ((if negative then ['-'] else []) ++ measure) = some (.finite x)) :
    number? ((if negative then ['-'] else []) ++ measure) = some (.real x) := by
  obtain ⟨whole, tail, rfl, hne, hdigits, hzero, htail⟩ := h
  have hspan : (whole ++ tail).span isDigit = (whole, tail) := by
    refine span_isDigit hdigits ?_
    rcases htail with ⟨c, rest, rfl, -⟩ | ⟨rest, rfl⟩ <;> rfl
  have hnonempty : tail.isEmpty = false := by
    rcases htail with ⟨c, rest, rfl, -⟩ | ⟨rest, rfl⟩ <;> rfl
  have hfraction : (tail.head? == some '.' && !(tail.drop 1).head?.any isDigit) = false := by
    rcases htail with ⟨c, rest, rfl, hc⟩ | ⟨rest, rfl⟩
    · rw [List.drop_one, List.tail_cons, List.head?_cons, List.head?_cons, Option.any_some, hc]
      rfl
    · rfl
  have hwhole := isWholePart_iff.2 ⟨hne, hzero⟩
  have hbody : (if (((if negative then ['-'] else []) ++ (whole ++ tail)).head? == some '-') = true
      then ((if negative then ['-'] else []) ++ (whole ++ tail)).drop 1
      else (if negative then ['-'] else []) ++ (whole ++ tail)) = whole ++ tail := by
    cases negative with
    | true => rfl
    | false =>
      rw [if_neg Bool.false_ne_true, List.nil_append,
        head?_beq_minus (any_isDigit_of_forall hne hdigits tail), if_neg Bool.false_ne_true]
  unfold number?
  simp only [hbody, hspan, hwhole, hnonempty, hfraction, Bool.not_true, Bool.false_eq_true,
    if_false, hread]

/-- **A count is read back.** -/
theorem readNumber?_toDigits (n : Nat) {rest : List Char}
    (hrest : rest.head?.any isNumberChar = false) :
    readNumber? (Nat.toDigits 10 n ++ rest) = some (.integer n, rest) := by
  refine readNumber?_append (fun c hc => ?_) hrest (number?_toDigits n)
  rw [isNumberChar, isDigit_of_mem_toDigits hc, Bool.true_or]

/-- **A measurement is read back.** -/
theorem readNumber?_finiteChars (x : Finite) {rest : List Char}
    (hrest : rest.head?.any isNumberChar = false) :
    readNumber? (Layout.json.finiteChars x ++ rest) = some (.real x, rest) := by
  refine readNumber?_append (fun c hc => ?_) hrest ?_
  · exact isNumberChar_of_isNumeric (Layout.json.isNumeric_of_mem_finiteChars hc)
  · exact number?_of_isMeasure
      (Layout.isMeasure_magnitudeChars (rfl : Layout.json.wholeFraction = true) x.rank) x.negative
      (Layout.json.read?_finiteChars x)

end Json
end CurveSheet
