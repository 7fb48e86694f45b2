/-
# The lines of a text

A scalar of several lines is written line by line: what stands on a line is written
character by character (`indentLines_append`), line ends stand for themselves
(`indentLines_breaks`), and a line that starts with a character is indented
(`indentLines_fresh`).
-/

import CurveSheet.Proofs.Yaml.Scalar.Words
import CurveSheet.Yaml.Scalar.Written

namespace CurveSheet
namespace Yaml

section

variable {indent : Nat} {letter : Char → List Char}

theorem indentLines_append {word : List Char} (h : ∀ c ∈ word, isBreak c = false)
    (rest : List Char) :
    indentLines indent letter false (word ++ rest) =
      word.flatMap letter ++ indentLines indent letter false rest := by
  induction word with
  | nil => rfl
  | cons c word ih =>
    rw [List.cons_append, indentLines, if_neg (by rw [h c (List.mem_cons_self ..)]; decide),
      if_neg Bool.false_ne_true, ih fun d hd => h d (List.mem_cons_of_mem _ hd), List.flatMap_cons,
      List.nil_append, List.append_assoc]

/-- Line ends stand for themselves, and a line starts behind them. -/
theorem indentLines_breaks {breaks : List Char} (h : ∀ c ∈ breaks, isBreak c = true)
    (hne : breaks ≠ []) (fresh : Bool) (rest : List Char) :
    indentLines indent letter fresh (breaks ++ rest) =
      breaks ++ indentLines indent letter true rest := by
  induction breaks generalizing fresh with
  | nil => exact absurd rfl hne
  | cons c breaks ih =>
    rw [List.cons_append, indentLines, if_pos (h c (List.mem_cons_self ..)), List.cons_append]
    cases breaks with
    | nil => rfl
    | cons d breaks => rw [ih (fun d hd => h d (List.mem_cons_of_mem _ hd)) (List.cons_ne_nil _ _)]

/-- A line that starts with a character is indented. -/
theorem indentLines_fresh {c : Char} (h : isBreak c = false) (rest : List Char) :
    indentLines indent letter true (c :: rest) =
      indentation indent ++ indentLines indent letter false (c :: rest) := by
  have hbreak : ¬ isBreak c = true := by rw [h]; exact Bool.false_ne_true
  rw [indentLines, if_neg hbreak, if_pos rfl, indentLines, if_neg hbreak,
    if_neg Bool.false_ne_true, List.nil_append, List.append_assoc]

end

/-- What holds of every character of a text holds of its last one. -/
theorem any_getLast?_of_forall {p : Char → Bool} {text : List Char} (h : ∀ c ∈ text, p c = true)
    (hne : text ≠ []) : text.getLast?.any p = true := by
  obtain ⟨c, hc⟩ := Option.ne_none_iff_exists'.1 (mt List.getLast?_eq_none_iff.1 hne)
  rw [hc, Option.any_some]
  exact h c (List.mem_of_getLast? hc)

/-- Whether a text ends with a line end shows at its last part that is not empty. -/
theorem any_isBreak_getLast?_append {front : List Char} (h : ∀ c ∈ front, isBreak c = false)
    (rest : List Char) :
    (front ++ rest).getLast?.any isBreak = rest.getLast?.any isBreak := by
  rw [List.getLast?_append]
  cases hlast : rest.getLast? with
  | some c => rfl
  | none =>
    rw [Option.none_or, Option.any_none, Option.any_eq_false]
    intro c hc
    simp [h c (List.mem_of_getLast? hc)]

end Yaml
end CurveSheet
