/-
# Escapes read back

What is written for a character behind a backslash stands for that character again:
either a letter (`escape?_letter`) or digits in base sixteen, which have the value of the
code point (`hexValue?_upperHex`).  The main statement is `exists_escaped_eq`.
-/

import CurveSheet.Yaml.Scalar.Quoted
import CurveSheet.Yaml.Scalar.Written

namespace CurveSheet
namespace Yaml

/-! ### Digits in base sixteen -/

theorem hexDigit?_upperHexDigit {n : Nat} (h : n < 16) : hexDigit? (upperHexDigit n) = some n :=
  (by decide : ∀ n : Fin 16, hexDigit? (upperHexDigit n) = some n.val) ⟨n, h⟩

theorem length_upperHex (width n : Nat) : (upperHex width n).length = width := by
  induction width generalizing n with
  | zero => rfl
  | succ width ih => rw [upperHex, List.length_append, ih, List.length_singleton]

/-- A number is the value of its digits, if they are enough. -/
theorem hexValue?_upperHex {width n : Nat} (h : n < 16 ^ width) :
    hexValue? (upperHex width n) = some n := by
  induction width generalizing n with
  | zero =>
    obtain rfl : n = 0 := by simpa using h
    rfl
  | succ width ih =>
    have hdiv : n / 16 < 16 ^ width := by
      rw [Nat.pow_succ] at h
      omega
    rw [upperHex, hexValue?, List.foldl_append, ← hexValue?, ih hdiv, List.foldl_cons,
      List.foldl_nil, Option.bind_some, hexDigit?_upperHexDigit (by omega), Option.map_some,
      Nat.div_add_mod]

/-- Every character is the one with its code point. -/
theorem charOfCode?_toNat (c : Char) : charOfCode? c.toNat = some c := by
  rw [charOfCode?, if_pos, Char.ofNat_toNat]
  exact c.valid

/-! ### Escapes -/

/-- No letter of an escape ends a line, and each stands for its character. -/
theorem escape?_letter {c letter : Char} (h : escapeLetters.lookup c = some letter)
    (rest : List Char) : isBreak letter = false ∧ escape? (letter :: rest) = some (c, 1) := by
  have hall : escapeLetters.all fun pair =>
      !isBreak pair.2 && simpleEscape? pair.2 == some pair.1 := by decide
  obtain ⟨front, back, hletters, -⟩ := List.lookup_eq_some_iff.1 h
  have hpair := List.all_eq_true.1 hall (c, letter) (by simp [hletters])
  rw [Bool.and_eq_true, Bool.not_eq_true', beq_iff_eq] at hpair
  refine ⟨hpair.1, ?_⟩
  rw [escape?, hpair.2]

/-- An escape by code point stands for its character. -/
theorem escape?_code {c sign : Char} {width : Nat} (hsign : simpleEscape? sign = none)
    (hwidth : codeWidth? sign = some width) (hc : c.toNat < 16 ^ width) (rest : List Char) :
    escape? (sign :: (upperHex width c.toNat ++ rest)) = some (c, 1 + width) := by
  have hdigits : (upperHex width c.toNat ++ rest).take width = upperHex width c.toNat := by
    rw [List.take_append_of_le_length (Nat.le_of_eq (length_upperHex ..).symm),
      List.take_of_length_le (Nat.le_of_eq (length_upperHex ..))]
  rw [escape?, hsign]
  simp only [hwidth, hdigits, length_upperHex, Nat.lt_irrefl, if_false, hexValue?_upperHex hc,
    Option.bind_some, charOfCode?_toNat, Option.map_some]

/-- **What is written behind a backslash for a character stands for it.** -/
theorem exists_escaped_eq (c : Char) : ∃ letters, escaped c = '\\' :: letters ∧
    letters.head?.any isBreak = false ∧
      ∀ rest, escape? (letters ++ rest) = some (c, letters.length) := by
  have hcode : c.toNat < 16 ^ 8 := by
    rcases c.valid with h | h
    · exact Nat.lt_trans h (by decide)
    · exact Nat.lt_trans h.2 (by decide)
  have hwide : ∀ {sign : Char} {width : Nat}, simpleEscape? sign = none →
      codeWidth? sign = some width → isBreak sign = false → c.toNat < 16 ^ width →
      ∃ letters, ['\\', sign] ++ upperHex width c.toNat = '\\' :: letters ∧
        letters.head?.any isBreak = false ∧
          ∀ rest, escape? (letters ++ rest) = some (c, letters.length) := by
    intro sign width hsign hwidth hbreak hc
    refine ⟨sign :: upperHex width c.toNat, rfl, hbreak, fun rest => ?_⟩
    rw [List.cons_append, escape?_code hsign hwidth hc, List.length_cons, length_upperHex,
      Nat.add_comm]
  cases hletter : escapeLetters.lookup c with
  | some letter =>
    refine ⟨[letter], by rw [escaped, hletter], (escape?_letter hletter []).1,
      fun rest => (escape?_letter hletter rest).2⟩
  | none =>
    rw [escaped, hletter]
    by_cases hbyte : c.toNat < 0x100
    · simp only [if_pos hbyte]
      exact hwide rfl rfl rfl hbyte
    · by_cases hplane : c.toNat < 0x10000
      · simp only [if_neg hbyte, if_pos hplane]
        exact hwide rfl rfl rfl hplane
      · simp only [if_neg hbyte, if_neg hplane]
        exact hwide rfl rfl rfl hcode

end Yaml
end CurveSheet
