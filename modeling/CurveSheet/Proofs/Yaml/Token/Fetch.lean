/-
# Which token starts

The character at the cursor decides which token is read, together with the one behind it and
the start of the line.  What can be written without quotes is taken for a plain scalar
(`fetch_plain`), and each of the signs that are written for what it is.
-/

import CurveSheet.Proofs.Yaml.Scalar.Plain
import CurveSheet.Yaml.Token.Scanner

namespace CurveSheet
namespace Yaml
namespace Scanner

theorem atMarker_eq_false {cursor : Cursor} {c : Char}
    (h : cursor.column ≠ 0 ∨ cursor.rest.head? ≠ some c) : cursor.atMarker c = false := by
  rw [Cursor.atMarker, Bool.and_eq_false_iff, Bool.and_eq_false_iff]
  left
  rcases h with h | h
  · exact .inl (beq_eq_false_iff_ne.2 h)
  · refine .inr (beq_eq_false_iff_ne.2 fun heq => h ?_)
    cases hrest : cursor.rest with
    | nil => rw [hrest] at heq; cases heq
    | cons d rest =>
      rw [hrest, List.take_succ_cons] at heq
      rw [(List.cons.inj heq).1]
      rfl

theorem atMarker_cons {cursor : Cursor} {c d : Char} {rest : List Char}
    (hrest : cursor.rest = c :: rest) (hd : c ≠ d) : cursor.atMarker d = false := by
  refine atMarker_eq_false (.inr ?_)
  rw [hrest]
  exact fun h => hd (Option.some.inj h)

/-- Three indicators may start a plain scalar. -/
theorem eq_of_isIndicator {c : Char} (h : isIndicator c = true) (hopening : isOpening c = false) :
    c = '?' ∨ c = '-' ∨ c = ':' := by
  simp only [isIndicator, isOpening, Bool.or_eq_true, List.contains_iff_mem,
    List.mem_cons, Bool.eq_false_iff, ne_eq] at h hopening
  grind

/-- A plain scalar starts here: nothing at the cursor means anything else. -/
structure StartsPlain (cursor : Cursor) (c : Char) (rest : List Char) : Prop where
  rest_eq : cursor.rest = c :: rest
  separator : isSeparator c = false
  opening : isOpening c = false
  sign : (c = '?' ∨ c = '-' ∨ c = ':') → endsWord rest.head? = false
  marker : cursor.column ≠ 0 ∨ (c ≠ '-' ∧ c ≠ '.')

/-- What starts a plain scalar is taken for one. -/
theorem fetch_plain {s : Scanner} {c : Char} {rest : List Char} (h : StartsPlain s.cursor c rest)
    (hflow : s.inFlow = false) : s.fetch c = s.fetchPlain := by
  obtain ⟨hrest, hseparator, hopening, hsign, hmarker⟩ := h
  have hne {d : Char} (hd : isOpening d = true) : c ≠ d := by
    rintro rfl
    rw [hopening] at hd
    cases hd
  have hnext : s.cursor.peekAt 1 = rest.head? := by
    rw [Cursor.peekAt, hrest]
    cases rest <;> rfl
  have hhead {d : Char} (hd : s.cursor.column ≠ 0 ∨ c ≠ d) : s.cursor.atMarker d = false := by
    refine atMarker_eq_false (hd.imp_right fun hd => ?_)
    rw [hrest, List.head?_cons]
    exact fun heq => hd (Option.some.inj heq)
  have hplain : startsPlain s.inFlow c rest.head? = true := by
    by_cases hindicator : isIndicator c = true
    · have hword : endsWord rest.head? = false := hsign (eq_of_isIndicator hindicator hopening)
      have hgap : rest.head?.any isGap = false := by
        cases rest with
        | nil => rfl
        | cons d rest => exact (not_isSeparator hword).2
      rw [startsPlain, hflow, hword, hgap]
      rcases eq_of_isIndicator hindicator hopening with rfl | rfl | rfl <;> rfl
    · rw [startsPlain, hseparator, Bool.eq_false_iff.2 hindicator]
      rfl
  rw [hflow] at hplain
  unfold fetch
  rw [hnext, hflow]
  dsimp only
  rw [Bool.false_or]
  have hword {d : Char} (hd : d = '?' ∨ d = '-' ∨ d = ':') :
      ¬ (c = d ∧ endsWord rest.head? = true) := by
    rintro ⟨rfl, h⟩
    rw [hsign hd] at h
    cases h
  rw [if_neg fun h => hne (by decide) h.2, hhead (hmarker.imp_right fun h => h.1),
    if_neg Bool.false_ne_true, hhead (hmarker.imp_right fun h => h.2), if_neg Bool.false_ne_true,
    if_neg (hne (by decide)), if_neg (hne (by decide)), if_neg (hne (by decide)),
    if_neg (hne (by decide)), if_neg (hne (by decide)), if_neg (hword (by decide)),
    if_neg (hword (by decide)), if_neg (hword (by decide)), if_neg (hne (by decide)),
    if_neg (hne (by decide)), if_neg (hne (by decide)), if_neg fun h => hne (by decide) h.1,
    if_neg fun h => hne (by decide) h.1, if_neg (hne (by decide)), if_neg (hne (by decide)),
    if_pos hplain]

theorem fetchPlain_eq {s t : Scanner} {plain : PlainText} (hkey : s.openKey = some t)
    (hplain : t.cursor.plain t.inFlow (t.indent + 1).toNat = some plain) :
    s.fetchPlain = some { t.takeTo (.scalar plain.text .plain) plain.cursor with
      keyAllowed := plain.broken } := by
  rw [fetchPlain, hkey]
  simp only [hplain, Option.map_some]

/-- A colon before a separator is that of a value. -/
theorem fetch_colon {s : Scanner} {after : List Char} (hrest : s.cursor.rest = ':' :: after)
    (hafter : endsWord after.head? = true) : s.fetch ':' = s.fetchColon := by
  have hnext : s.cursor.peekAt 1 = after.head? := by
    rw [Cursor.peekAt, hrest]
    cases after <;> rfl
  have hdash := atMarker_cons hrest (by decide : ':' ≠ '-')
  have hdot := atMarker_cons hrest (by decide : ':' ≠ '.')
  unfold fetch
  simp [hdash, hdot, hnext, hafter]

theorem fetch_quote {double : Bool} {s : Scanner} {rest : List Char}
    (hrest : s.cursor.rest = closingQuote double :: rest) :
    s.fetch (closingQuote double) = s.fetchQuoted double := by
  have hdash := atMarker_cons hrest (by cases double <;> decide : closingQuote double ≠ '-')
  have hdot := atMarker_cons hrest (by cases double <;> decide : closingQuote double ≠ '.')
  unfold fetch
  cases double <;> simp [hdash, hdot, closingQuote]

theorem fetch_bar {s : Scanner} {rest : List Char} (hrest : s.cursor.rest = '|' :: rest)
    (hflow : s.inFlow = false) : s.fetch '|' = s.fetchBlock false := by
  have hdash := atMarker_cons hrest (by decide : '|' ≠ '-')
  have hdot := atMarker_cons hrest (by decide : '|' ≠ '.')
  unfold fetch
  simp [hdash, hdot, hflow]

theorem fetch_openBracket {s : Scanner} {rest : List Char} (hrest : s.cursor.rest = '[' :: rest) :
    s.fetch '[' = s.fetchOpen .flowSequenceStart := by
  have hdash := atMarker_cons hrest (by decide : '[' ≠ '-')
  have hdot := atMarker_cons hrest (by decide : '[' ≠ '.')
  unfold fetch
  simp [hdash, hdot]

theorem fetch_closeBracket {s : Scanner} {rest : List Char} (hrest : s.cursor.rest = ']' :: rest) :
    s.fetch ']' = s.fetchClose .flowSequenceEnd := by
  have hdash := atMarker_cons hrest (by decide : ']' ≠ '-')
  have hdot := atMarker_cons hrest (by decide : ']' ≠ '.')
  unfold fetch
  simp [hdash, hdot]

/-- A dash before a space is that of an entry. -/
theorem fetch_dash {s : Scanner} {rest : List Char} (hrest : s.cursor.rest = '-' :: ' ' :: rest) :
    s.fetch '-' = s.fetchDash := by
  have hdash : s.cursor.atMarker '-' = false := by
    rw [Cursor.atMarker, hrest]
    cases rest <;> simp
  have hdot := atMarker_cons hrest (by decide : '-' ≠ '.')
  have hnext : s.cursor.peekAt 1 = some ' ' := by
    rw [Cursor.peekAt, hrest]
    rfl
  unfold fetch
  simp [hdash, hdot, hnext, endsWord, isSeparator, isGap]

end Scanner
end Yaml
end CurveSheet
