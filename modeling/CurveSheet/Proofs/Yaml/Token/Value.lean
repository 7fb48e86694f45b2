/-
# Values behind keys

Behind the colon of a key stands a written scalar, or brackets with nothing between them, up
to the end of the line or of the block of its lines.  The scanner takes each and is left
before the next line (`exists_runs_scalar`, `exists_runs_brackets`).
-/

import CurveSheet.Proofs.Yaml.Scalar.Written
import CurveSheet.Proofs.Yaml.Token.Line

namespace CurveSheet
namespace Yaml
namespace Scanner

section

variable {n column : Nat} {mark : Mark} {tokens : List Token}

/-- Behind a colon and a space the value of the key starts. -/
theorem step_value (hmark : indentStep * n < mark.column) {c : Char} (hc : startsToken c = true)
    (rest : List Char) : (inBlocks (n + 1) ⟨' ' :: c :: rest, mark⟩ tokens false).step =
      (inBlocks (n + 1) ⟨c :: rest, mark.past ' '⟩ tokens false).fetch c := by
  have hgap : gapFrom false false false mark (' ' :: c :: rest) =
      (false, ⟨c :: rest, mark.past ' '⟩) := by
    have hstart : (c :: rest).head?.all startsToken = true := hc
    have hcolumn : 0 < (mark.past ' ').column := Nat.succ_pos _
    rw [gapFrom_space, gapFrom_stop hstart (.inl hcolumn)]
  have hinside : levelIndent (n + 1) ≤ ((mark.past ' ').column : Int) := by
    rw [column_past, levelIndent]
    omega
  exact @step_inBlocks (n + 1) ⟨' ' :: c :: rest, mark⟩ tokens false false
    ⟨c :: rest, mark.past ' '⟩ (n + 1) tokens hgap (unindent_eq_self hinside)

/-- A plain text starts a token, and this token is a plain scalar. -/
theorem exists_startsPlain {text : List Char} (h : IsPlain text) (hopens : opensPlain text = true)
    (hmark : mark.column ≠ 0) (behind : List Char) :
    ∃ c letters, text = c :: letters ∧ startsToken c = true ∧
      StartsPlain (⟨text ++ '\n' :: behind, mark⟩ : Cursor) c (letters ++ '\n' :: behind) := by
  obtain ⟨c, letters, rfl⟩ := List.exists_cons_of_ne_nil h.ne_nil
  have hseparator : isSeparator c = false := h.head
  have hcomment : c ≠ '#' := fun hc => h.noComment (by rw [hc]; rfl)
  rw [opensPlain, Bool.and_eq_true, Bool.not_eq_true', Bool.not_eq_true'] at hopens
  refine ⟨c, letters, rfl, ?_, rfl, hseparator, hopens.1, fun hsign => ?_, .inl hmark⟩
  · rw [startsToken, hseparator, bne_iff_ne.2 hcomment]
    rfl
  · have hsigns : (some c == some '?' || some c == some '-' || some c == some ':') = true := by
      rcases hsign with rfl | rfl | rfl <;> rfl
    have hends := hopens.2
    rw [List.head?_cons, hsigns, Bool.true_and, List.tail_cons] at hends
    cases letters with
    | nil => cases hends
    | cons d letters => exact hends

/-- A plain text behind a colon. -/
theorem exists_runs_plain {text body : List Char} (h : IsPlain text)
    (hopens : opensPlain text = true) (hmark : indentStep * n < mark.column)
    (hcolumn : column ≤ indentStep * n) (hbody : StartsLine body) :
    ∃ t, Runs (inBlocks (n + 1) ⟨' ' :: (text ++ '\n' :: (List.replicate column ' ' ++ body)), mark⟩
        tokens false) t ∧
      BeforeLine (n + 1) column body (kindsOf tokens ++ [.scalar text .plain]) t := by
  obtain ⟨c, letters, hcons, hstart, hplain⟩ :=
    @exists_startsPlain (mark.past ' ') text h hopens (Nat.succ_ne_zero _)
      (List.replicate column ' ' ++ body)
  have hright : (levelIndent (n + 1) + 1).toNat ≤ (mark.past ' ').column := by
    rw [column_past, levelIndent]
    omega
  have hleft : column < (levelIndent (n + 1) + 1).toNat := by
    rw [levelIndent]
    omega
  obtain ⟨mark', hmark', hread⟩ := exists_plain_eq h hleft (hbody.any_isSeparator) hright
  have hfetch : (inBlocks (n + 1)
      ⟨text ++ '\n' :: (List.replicate column ' ' ++ body), mark.past ' '⟩ tokens
      false).fetchPlain = some (inBlocks (n + 1) ⟨body, mark'⟩
        (⟨.scalar text .plain, mark.past ' ', mark'⟩ :: tokens) true) := by
    rw [@fetchPlain_eq _ (inBlocks (n + 1) ⟨text ++ '\n' :: (List.replicate column ' ' ++ body),
      mark.past ' '⟩ tokens false) ⟨text, true, ⟨body, mark'⟩⟩ rfl hread]
    rfl
  have hstep := @step_value n mark tokens hmark _ hstart (letters ++ '\n' ::
    (List.replicate column ' ' ++ body))
  rw [← List.cons_append, ← hcons, fetch_plain hplain rfl, hfetch] at hstep
  refine ⟨_, Runs.of_step hstep expireKeys_inBlocks ?_ ?_, ?_⟩
  · exact atEnd_eq_false (kindsOf_cons _ _) (by simp)
  · change body.length < (' ' :: (text ++ _)).length
    simp only [List.length_cons, List.length_append]
    omega
  · rw [← kindsOf_cons ⟨.scalar text .plain, mark.past ' ', mark'⟩ tokens, ← hmark']
    exact beforeLine_here _ _ hbody

/-- A literal block behind a colon. -/
theorem exists_runs_literal {text body : List Char} (hshown : ∀ c ∈ text, isShown c = true)
    (hne : text ≠ []) (hmark : indentStep * n < mark.column) (hcolumn : column ≤ indentStep * n)
    (hbody : StartsLine body) :
    ∃ t, Runs (inBlocks (n + 1) ⟨' ' :: (literal (indentStep * n + indentStep) text ++
        (List.replicate column ' ' ++ body)), mark⟩ tokens false) t ∧
      BeforeLine (n + 1) column body (kindsOf tokens ++ [.scalar text .literal]) t := by
  obtain ⟨mark', hmark', hread⟩ := Cursor.exists_block_eq hshown hne
    (Nat.lt_of_le_of_lt hcolumn (Nat.lt_add_of_pos_right (by decide : 0 < indentStep)))
    (hbody.any_isSeparator) (mark.past ' ')
  obtain ⟨letters, hcons⟩ :
      ∃ letters, literal (indentStep * n + indentStep) text = '|' :: letters :=
    ⟨_, literal_eq _ text⟩
  rw [hcons] at hread ⊢
  have hfetch : (inBlocks (n + 1) ⟨'|' :: letters ++ (List.replicate column ' ' ++ body),
      mark.past ' '⟩ tokens false).fetchBlock false = some (inBlocks (n + 1) ⟨body, mark'⟩
        (⟨.scalar text .literal, mark.past ' ', mark'⟩ :: tokens) true) := by
    change Option.map _ (Cursor.block ⟨_, _⟩ false ((indentStep * n : Nat) : Int)) = _
    rw [hread]
    rfl
  have hstep := (@step_value n mark tokens hmark '|' (by decide) _).trans
    ((fetch_bar rfl rfl).trans hfetch)
  refine ⟨_, Runs.of_step hstep expireKeys_inBlocks ?_ ?_, ?_⟩
  · exact atEnd_eq_false (kindsOf_cons _ _) (by simp)
  · change body.length < (' ' :: '|' :: (_ ++ (_ ++ body))).length
    simp only [List.length_cons, List.length_append]
    omega
  · rw [← kindsOf_cons ⟨.scalar text .literal, mark.past ' ', mark'⟩ tokens, ← hmark']
    exact beforeLine_here _ _ hbody

/-- A quoted text behind a colon. -/
theorem exists_runs_quoted {double : Bool} {text letters body : List Char}
    (h : Quotes double text letters) (hmark : indentStep * n < mark.column)
    (hbody : StartsLine body) :
    ∃ t, Runs (inBlocks (n + 1) ⟨' ' :: (closingQuote double :: letters ++ '\n' ::
        (List.replicate column ' ' ++ body)), mark⟩ tokens false) t ∧
      BeforeLine (n + 1) column body (kindsOf tokens ++
        [.scalar text (if double then .doubleQuoted else .singleQuoted)]) t := by
  have hstart : startsToken (closingQuote double) = true := by cases double <;> decide
  obtain ⟨mark', hread⟩ := Cursor.exists_quoted_eq h (mark.past ' ')
    (List.replicate column ' ' ++ body)
  have hfetch : (inBlocks (n + 1) ⟨closingQuote double :: letters ++ '\n' ::
      (List.replicate column ' ' ++ body), mark.past ' '⟩ tokens false).fetchQuoted double =
        some (inBlocks (n + 1) ⟨'\n' :: (List.replicate column ' ' ++ body), mark'⟩
          (⟨.scalar text (if double then .doubleQuoted else .singleQuoted), mark.past ' ', mark'⟩ ::
            tokens) false) := by
    change Option.map _ (Cursor.quoted ⟨_, _⟩ double) = _
    rw [hread]
    rfl
  have hstep := (@step_value n mark tokens hmark _ hstart (letters ++ '\n' ::
    (List.replicate column ' ' ++ body))).trans ((fetch_quote rfl).trans hfetch)
  refine ⟨_, Runs.of_step hstep expireKeys_inBlocks ?_ ?_, ?_⟩
  · exact atEnd_eq_false (kindsOf_cons _ _) (by simp)
  · change ('\n' :: _).length < (' ' :: closingQuote double :: (letters ++ _)).length
    simp only [List.length_cons, List.length_append]
    omega
  · rw [← kindsOf_cons ⟨.scalar text (if double then .doubleQuoted else .singleQuoted),
      mark.past ' ', mark'⟩ tokens]
    exact beforeLine_newline _ _ _ hbody

/-- **A written scalar behind a colon** is one token, and the next line starts behind it. -/
theorem exists_runs_scalar {chars text body : List Char} {style : ScalarStyle}
    (h : WrittenAs (indentStep * n + indentStep) chars text style)
    (hmark : indentStep * n < mark.column) (hcolumn : column ≤ indentStep * n)
    (hbody : StartsLine body) :
    ∃ t, Runs (inBlocks (n + 1) ⟨' ' :: (chars ++ (List.replicate column ' ' ++ body)), mark⟩
        tokens false) t ∧
      BeforeLine (n + 1) column body (kindsOf tokens ++ [.scalar text style]) t := by
  cases h with
  | plain h hopens =>
    rw [List.append_assoc, List.singleton_append]
    exact exists_runs_plain h hopens hmark hcolumn hbody
  | singleQuoted h =>
    rw [List.append_assoc, List.singleton_append]
    exact exists_runs_quoted h hmark hbody
  | doubleQuoted h =>
    rw [List.append_assoc, List.singleton_append]
    exact exists_runs_quoted h hmark hbody
  | literal hshown hne => exact exists_runs_literal hshown hne hmark hcolumn hbody

/-- Brackets with nothing between them behind a colon. -/
theorem exists_runs_brackets {body : List Char} (hmark : indentStep * n < mark.column)
    (hbody : StartsLine body) :
    ∃ t, Runs (inBlocks (n + 1) ⟨' ' :: '[' :: ']' :: '\n' :: (List.replicate column ' ' ++ body),
        mark⟩ tokens false) t ∧
      BeforeLine (n + 1) column body
        (kindsOf tokens ++ [.flowSequenceStart, .flowSequenceEnd]) t := by
  generalize hrest : '\n' :: (List.replicate column ' ' ++ body) = rest
  have hinside : levelIndent (n + 1) ≤ (((mark.past ' ').past '[').column : Int) := by
    rw [column_past, column_past, levelIndent]
    omega
  let opened : Scanner := { inBlocks (n + 1) ⟨']' :: rest, (mark.past ' ').past '['⟩
    (⟨.flowSequenceStart, mark.past ' ', (mark.past ' ').past '['⟩ :: tokens) true with
    outerKeys := [none] }
  have hopen :
      (inBlocks (n + 1) ⟨' ' :: '[' :: ']' :: rest, mark⟩ tokens false).step = some opened := by
    rw [@step_value n mark tokens hmark '[' (by decide), fetch_openBracket rfl]
    rfl
  have hclose : opened.step = some (inBlocks (n + 1) ⟨rest, ((mark.past ' ').past '[').past ']'⟩
      (⟨.flowSequenceEnd, (mark.past ' ').past '[', ((mark.past ' ').past '[').past ']'⟩ ::
        ⟨.flowSequenceStart, mark.past ' ', (mark.past ' ').past '['⟩ :: tokens) false) := by
    have hgap : opened.skipGap = opened := by
      have hstop : gapFrom true true false ((mark.past ' ').past '[') (']' :: rest) =
          (true, ⟨']' :: rest, (mark.past ' ').past '['⟩) := gapFrom_stop rfl (.inr (by simp))
      exact skipGap_eq hstop
    have hkeys : opened.expireKeys = some opened := rfl
    rw [step, hgap, hkeys]
    dsimp only
    rw [unindent_eq_self hinside]
    exact (fetch_closeBracket rfl).trans rfl
  refine ⟨_, (Runs.of_step hopen rfl ?_ ?_).trans
    (Runs.of_step hclose expireKeys_inBlocks ?_ ?_), ?_⟩
  · exact atEnd_eq_false (kindsOf_cons _ _) (by simp)
  · exact Nat.lt_succ_of_lt (Nat.lt_succ_self _)
  · exact atEnd_eq_false (kindsOf_cons _ _) (by simp)
  · exact Nat.lt_succ_self _
  · have hline := @beforeLine_newline (n + 1) column body
      (⟨.flowSequenceEnd, (mark.past ' ').past '[', ((mark.past ' ').past '[').past ']'⟩ ::
        ⟨.flowSequenceStart, mark.past ' ', (mark.past ' ').past '['⟩ :: tokens)
      (((mark.past ' ').past '[').past ']') false hbody
    rw [kindsOf_cons, kindsOf_cons, List.append_assoc, hrest] at hline
    exact hline

end

/-! ### Fields -/

section

variable {n column : Nat} {name body : List Char} {kinds : List TokenKind} {s : Scanner}

/-- **A field with a scalar** is the tokens of its key and one more. -/
theorem exists_runs_field {chars text : List Char} {style : ScalarStyle}
    (h : BeforeEntry n (name ++ ':' :: ' ' :: (chars ++ (List.replicate column ' ' ++ body)))
      kinds s)
    (hname : IsName name) (hwritten : WrittenAs (indentStep * n + indentStep) chars text style)
    (hcolumn : column ≤ indentStep * n) (hbody : StartsLine body) :
    ∃ t, Runs s t ∧
      BeforeLine (n + 1) column body (kinds ++ (keyKinds name ++ [.scalar text style])) t := by
  obtain ⟨mark, tokens, hmark, hkinds, hkey⟩ := exists_runs_key h hname rfl
  obtain ⟨t, hvalue, hline⟩ := @exists_runs_scalar n column mark tokens _ _ _ _ hwritten hmark
    hcolumn hbody
  rw [hkinds, List.append_assoc] at hline
  exact ⟨t, hkey.trans hvalue, hline⟩

/-- A field without anything but its key on its line. -/
theorem exists_runs_header
    (h : BeforeEntry n (name ++ ':' :: '\n' :: (List.replicate column ' ' ++ body)) kinds s)
    (hname : IsName name) (hbody : StartsLine body) :
    ∃ t, Runs s t ∧ BeforeLine (n + 1) column body (kinds ++ keyKinds name) t := by
  obtain ⟨mark, tokens, -, hkinds, hkey⟩ := exists_runs_key h hname rfl
  exact ⟨_, hkey, hkinds ▸ beforeLine_newline tokens mark false hbody⟩

/-- A field with empty brackets. -/
theorem exists_runs_emptyField
    (h : BeforeEntry n (name ++ ':' :: ' ' :: '[' :: ']' :: '\n' ::
      (List.replicate column ' ' ++ body)) kinds s)
    (hname : IsName name) (hbody : StartsLine body) :
    ∃ t, Runs s t ∧ BeforeLine (n + 1) column body
      (kinds ++ (keyKinds name ++ [.flowSequenceStart, .flowSequenceEnd])) t := by
  obtain ⟨mark, tokens, hmark, hkinds, hkey⟩ := exists_runs_key h hname rfl
  obtain ⟨t, hvalue, hline⟩ := @exists_runs_brackets n column mark tokens _ hmark hbody
  rw [hkinds, List.append_assoc] at hline
  exact ⟨t, hkey.trans hvalue, hline⟩

end

end Scanner
end Yaml
end CurveSheet
