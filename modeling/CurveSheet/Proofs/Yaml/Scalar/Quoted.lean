/-
# Quoted scalars read back

What stands between quotes is a row of words with gaps between them (`Quotes`).  A word is
written with letters that are read as it, a gap with separators that are read as it, and so
the row is read up to its closing quote (`Cursor.exists_quoted_eq`).
-/

import CurveSheet.Proofs.Yaml.Scalar.Lines

namespace CurveSheet
namespace Yaml

/-- The letters are read as the word, whatever ends it. -/
def ReadsWord (double : Bool) (letters word : List Char) : Prop :=
  ∀ rest, quotedWord double 0 rest = some ⟨[], 0, rest⟩ →
    quotedWord double 0 (letters ++ rest) = some ⟨word, letters.length, rest⟩

/-- The separators are read as the gap, and no line starts behind them. -/
structure ReadsGap (separators gap : List Char) : Prop where
  separates : separators.head?.any isSeparator = true
  reads : ∀ rest mark, rest.head?.any isSeparator = false → ∃ got mark', got.text = gap ∧
    0 < mark'.column ∧
      (⟨separators ++ rest, mark⟩ : Cursor).scanGap 0 .none = some (got, ⟨rest, mark'⟩)

/-- A text and what is written for it up to the closing quote. -/
inductive Quotes (double : Bool) : (text body : List Char) → Prop where
  | last {letters word : List Char} (hword : ReadsWord double letters word) :
    Quotes double word (letters ++ [closingQuote double])
  | gap {letters word separators gap text body : List Char} (hword : ReadsWord double letters word)
    (hgap : ReadsGap separators gap) (hbody : body.head?.any isSeparator = false)
    (h : Quotes double text body) :
    Quotes double (word ++ gap ++ text) (letters ++ (separators ++ body))

theorem Quotes.ne_nil {double : Bool} {text body : List Char} (h : Quotes double text body) :
    body ≠ [] := by
  cases h with
  | last _ => exact List.append_ne_nil_of_right_ne_nil _ (List.cons_ne_nil _ _)
  | gap _ hgap _ _ =>
    have hne := hgap.separates
    refine List.append_ne_nil_of_right_ne_nil _ (List.append_ne_nil_of_left_ne_nil ?_ _)
    rintro rfl
    cases hne

/-! ### Reading -/

/-- No word starts with a separator. -/
theorem quotedWord_separator {double : Bool} {rest : List Char}
    (h : rest.head?.any isSeparator = true) : quotedWord double 0 rest = some ⟨[], 0, rest⟩ := by
  cases rest with
  | nil => cases h
  | cons c rest => rw [quotedWord, if_pos (show isSeparator c = true from h)]

/-- The closing quote ends a word. -/
theorem quotedWord_closingQuote (double : Bool) (rest : List Char) :
    quotedWord double 0 (closingQuote double :: '\n' :: rest) =
      some ⟨[], 0, closingQuote double :: '\n' :: rest⟩ := by
  cases double <;> rfl

/-- One word of a quoted scalar and what ends it. -/
theorem quotedFrom_word {double : Bool} {letters word rest : List Char} {mark : Mark}
    (hword : ReadsWord double letters word) (hcolumn : 0 < mark.column)
    (hrest : quotedWord double 0 rest = some ⟨[], 0, rest⟩) (hne : rest ≠ [])
    (hescape : rest.head? ≠ some '\\') (fuel : Nat) :
    quotedFrom double (fuel + 1) ⟨letters ++ rest, mark⟩ =
      if rest.head? = some (closingQuote double) then
        some (word, (⟨rest, mark.pastAll letters⟩ : Cursor).skip 1)
      else match (⟨rest, mark.pastAll letters⟩ : Cursor).scanGap 0 .none with
        | none => none
        | some (gap, next) => (quotedFrom double fuel next).map fun (tail, last) =>
            (word ++ gap.text ++ tail, last) := by
  have hmarker : (⟨letters ++ rest, mark⟩ : Cursor).atDocumentMarker = false :=
    Cursor.atDocumentMarker_eq_false hcolumn
  have hempty : (letters ++ rest).isEmpty = false := by
    rw [List.isEmpty_eq_false_iff]
    exact List.append_ne_nil_of_right_ne_nil _ hne
  have hpeek : ((⟨rest, mark.pastAll letters⟩ : Cursor).peek == some '\\') = false := by
    rw [beq_eq_false_iff_ne]
    exact hescape
  rw [quotedFrom, hmarker, hempty, Bool.or_false, if_neg Bool.false_ne_true, hword rest hrest]
  simp only [List.take_left', hpeek, Bool.false_eq_true, if_false]
  rfl

/-- A row of words is read to its end. -/
theorem exists_quotedFrom_eq {double : Bool} {text body : List Char} (h : Quotes double text body)
    {fuel : Nat} (hfuel : body.length < fuel) {mark : Mark} (hcolumn : 0 < mark.column)
    (rest : List Char) : ∃ mark',
      quotedFrom double fuel ⟨body ++ '\n' :: rest, mark⟩ = some (text, ⟨'\n' :: rest, mark'⟩) := by
  have hclosing : closingQuote double ≠ '\\' ∧ isSeparator (closingQuote double) = false := by
    cases double <;> decide
  obtain _ | fuel := fuel
  · exact absurd hfuel (Nat.not_lt_zero _)
  induction h generalizing fuel mark with
  | last hword =>
    rw [List.append_assoc, List.singleton_append,
      quotedFrom_word hword hcolumn (quotedWord_closingQuote ..) (List.cons_ne_nil _ _)
        (by simpa using hclosing.1), List.head?_cons, if_pos rfl]
    exact ⟨_, rfl⟩
  | @gap letters word separators gap text body hword hgap hbody h ih =>
    obtain ⟨c, blanks, rfl⟩ := List.exists_cons_of_ne_nil
      (show separators ≠ [] by rintro rfl; cases hgap.separates)
    have hc : isSeparator c = true := hgap.separates
    simp only [List.length_append, List.length_cons] at hfuel
    obtain _ | fuel := fuel
    · omega
    have hstop : (body ++ '\n' :: rest).head?.any isSeparator = false := by
      obtain ⟨d, body, rfl⟩ := List.exists_cons_of_ne_nil h.ne_nil
      exact hbody
    obtain ⟨got, mark', hgot, hcolumn', hscan⟩ := hgap.reads _ (mark.pastAll letters) hstop
    obtain ⟨mark'', hread⟩ := ih hcolumn' fuel (by omega)
    refine ⟨mark'', ?_⟩
    have hhead : (c :: blanks ++ (body ++ '\n' :: rest)).head? = some c := rfl
    have hstarts : (c :: blanks ++ (body ++ '\n' :: rest)).head?.any isSeparator = true := hc
    rw [List.append_assoc, List.append_assoc,
      quotedFrom_word hword hcolumn (quotedWord_separator hstarts) (List.cons_ne_nil _ _), hhead,
      if_neg,
      hscan]
    · simp only [hread, Option.map_some, hgot]
    · rw [Option.some_inj]
      rintro rfl
      rw [hclosing.2] at hc
      cases hc
    · rw [hhead]
      intro heq
      obtain rfl := Option.some.inj heq
      exact absurd hc (by decide)

/-- **A quoted text on its line is read back.** -/
theorem Cursor.exists_quoted_eq {double : Bool} {text body : List Char}
    (h : Quotes double text body) (mark : Mark) (rest : List Char) : ∃ mark',
      (⟨closingQuote double :: body ++ '\n' :: rest, mark⟩ : Cursor).quoted double =
        some (text, ⟨'\n' :: rest, mark'⟩) := by
  refine exists_quotedFrom_eq h ?_ (Nat.succ_pos _) rest
  simp only [List.length_append, List.length_cons]
  omega

end Yaml
end CurveSheet
