/-
# Plain scalars read back

A text is *plain* if nothing in it means anything to a reader of plain scalars
(`IsPlain`).  Such a text is read back word by word up to the end of its line, and what
follows on the next line is left alone if it lies far enough to the left (`exists_plain_eq`).
Texts that are written without quotes are plain, and so are words without colons.
-/

import CurveSheet.Proofs.Yaml.Scalar.Words

namespace CurveSheet
namespace Yaml

/-- The text starts with a word and has nothing else than words and spaces between them; no word
is a comment, and none ends with a colon. -/
structure IsPlain (text : List Char) : Prop where
  ne_nil : text ≠ []
  head : text.head?.any isSeparator = false
  noComment : text.head? ≠ some '#'
  spaces : ∀ c ∈ text, isSeparator c = true → c = ' '
  last : text.getLast? ≠ some ' '
  noColon : hasPair (· == ':') isSeparator (text ++ ['\n']) = false
  noComments : hasPair isSeparator (· == '#') text = false

/-- A word is plain if there is no colon or number sign in it. -/
theorem IsPlain.of_word {word : List Char} (hne : word ≠ [])
    (h : ∀ c ∈ word, isSeparator c = false ∧ c ≠ ':' ∧ c ≠ '#') : IsPlain word where
  ne_nil := hne
  head := by
    cases word with
    | nil => rfl
    | cons c rest => exact (h c (List.mem_cons_self ..)).1
  noComment hhead := (h '#' (List.mem_of_mem_head? hhead)).2.2 rfl
  spaces c hc hseparator := by
    rw [(h c hc).1] at hseparator
    cases hseparator
  last hlast := absurd (h ' ' (List.mem_of_getLast? hlast)).1 (by decide)
  noColon := hasPair_eq_false_of_left fun c hc => by
    rw [beq_eq_false_iff_ne]
    rcases List.mem_append.1 hc with hc | hc
    · exact (h c hc).2.1
    · rw [List.mem_singleton.1 hc]
      decide
  noComments := hasPair_eq_false_of_right fun c hc => by
    rw [beq_eq_false_iff_ne]
    exact (h c hc).2.2

/-- What stands behind a gap in a plain text is plain. -/
theorem IsPlain.of_gap {word gap rest : List Char} (h : IsPlain (word ++ (gap ++ rest)))
    (hgap : ∀ c ∈ gap, isSeparator c = true) (hne : gap ≠ [])
    (hrest : rest.head?.any isSeparator = false) : IsPlain rest := by
  have hlast : gap.getLast?.any isSeparator = true := by
    obtain ⟨c, hc⟩ := Option.ne_none_iff_exists'.1 (mt List.getLast?_eq_none_iff.1 hne)
    rw [hc, Option.any_some]
    exact hgap c (List.mem_of_getLast? hc)
  have hrestNe : rest ≠ [] := by
    rintro rfl
    obtain ⟨c, hc⟩ := Option.ne_none_iff_exists'.1 (mt List.getLast?_eq_none_iff.1 hne)
    refine h.last ?_
    have hspace := h.spaces c (by simp [List.mem_of_getLast? hc]) (hgap c (List.mem_of_getLast? hc))
    rw [List.append_nil, List.getLast?_append, hc, hspace]
    rfl
  have hcomments := (hasPair_of_append (hasPair_of_append h.noComments).2.1)
  have hcolon := h.noColon
  rw [List.append_assoc, List.append_assoc] at hcolon
  refine ⟨hrestNe, hrest, ?_, fun c hc => h.spaces c (by simp [hc]), ?_,
    (hasPair_of_append (hasPair_of_append hcolon).2.1).2.1, hcomments.2.1⟩
  · intro hhead
    have := hcomments.2.2
    rw [hlast, hhead, Option.any_some] at this
    cases this
  · intro hlast
    refine h.last ?_
    rw [← List.append_assoc, List.getLast?_append, hlast]
    rfl

/-- A gap in a plain text is spaces. -/
theorem IsPlain.gap_spaces {word gap rest : List Char} (h : IsPlain (word ++ (gap ++ rest)))
    (hgap : ∀ c ∈ gap, isSeparator c = true) : ∀ c ∈ gap, c = ' ' := fun c hc =>
  h.spaces c (List.mem_append_right _ (List.mem_append_left _ hc)) (hgap c hc)

/-- No word of a plain text ends with a colon. -/
theorem IsPlain.noColon_of_gap {word rest : List Char} {d : Char}
    (h : IsPlain (word ++ d :: rest)) : hasPair (· == ':') isSeparator (word ++ [d]) = false := by
  have hall := h.noColon
  rw [← List.singleton_append, ← List.append_assoc, List.append_assoc _ rest] at hall
  exact (hasPair_of_append hall).1

/-! ### Reading -/

/-- A word without a colon before a separator is read to its end. -/
theorem plainWord_append {word rest : List Char} {d : Char}
    (hword : ∀ c ∈ word, isSeparator c = false) (hd : isSeparator d = true)
    (hcolon : hasPair (· == ':') isSeparator (word ++ [d]) = false) :
    plainWord false (word ++ d :: rest) = some (word, d :: rest) := by
  induction word with
  | nil => rw [List.nil_append, plainWord, if_pos hd]
  | cons c word ih =>
    rw [List.cons_append, hasPair_cons, Bool.or_eq_false_iff] at hcolon
    have hends : (c == ':' && endsWord (word ++ d :: rest).head?) = false := by
      rw [← hcolon.1]
      cases word <;> rfl
    rw [List.cons_append, plainWord, if_neg (by rw [hword c (List.mem_cons_self ..)]; decide),
      Bool.false_and, Bool.false_and, if_neg Bool.false_ne_true, hends, Bool.false_and,
      Bool.or_false, if_neg Bool.false_ne_true,
      ih (fun e he => hword e (List.mem_cons_of_mem _ he)) hcolon.2,
      Option.map_some]

section

variable {floor : Nat} {gap : Gap} {mark : Mark}

/-- Nothing ends a plain scalar before its first word. -/
theorem atStart_eq_false {text rest : List Char} (h : IsPlain text) (hcolumn : 0 < mark.column) :
    ((⟨text ++ rest, mark⟩ : Cursor).atDocumentMarker ||
      (⟨text ++ rest, mark⟩ : Cursor).peek == some '#') = false := by
  obtain ⟨c, text, rfl⟩ := List.exists_cons_of_ne_nil h.ne_nil
  have hmarker : (⟨c :: text ++ rest, mark⟩ : Cursor).atDocumentMarker = false :=
    Cursor.atDocumentMarker_eq_false hcolumn
  rw [hmarker, Bool.false_or, beq_eq_false_iff_ne]
  exact h.noComment

/-- One word of a plain scalar and the gap behind it. -/
theorem plainFrom_word {fuel : Nat} {word rest : List Char} {d : Char}
    (hstart : ((⟨word ++ d :: rest, mark⟩ : Cursor).atDocumentMarker ||
      (⟨word ++ d :: rest, mark⟩ : Cursor).peek == some '#') = false)
    (hne : word ≠ []) (hword : ∀ c ∈ word, isSeparator c = false) (hd : isSeparator d = true)
    (hcolon : hasPair (· == ':') isSeparator (word ++ [d]) = false) {next : Gap} {ahead : Cursor}
    (hgap : (⟨d :: rest, mark.pastAll word⟩ : Cursor).scanGap floor .none = some (next, ahead)) :
    plainFrom false floor (fuel + 1) gap ⟨word ++ d :: rest, mark⟩ =
      if ahead.column < floor then some ⟨gap.text ++ word, next.broken, ahead⟩
      else (plainFrom false floor fuel next ahead).map fun tail =>
        { tail with text := gap.text ++ word ++ tail.text } := by
  obtain ⟨c, letters, rfl⟩ := List.exists_cons_of_ne_nil hne
  rw [plainFrom, hstart, if_neg Bool.false_ne_true, plainWord_append hword hd hcolon]
  simp only [List.head?_cons, Option.any_some, hd, if_true, hgap, Bool.not_false, Bool.true_and,
    decide_eq_true_eq]

/-- **A plain text is read word by word**, up to what lies further to the left on the next
line. -/
theorem exists_plainFrom_eq {column : Nat} {body : List Char} (hfloor : column < floor)
    (hbody : body.head?.any isSeparator = false) {text : List Char} (h : IsPlain text) {fuel : Nat}
    (hfuel : text.length < fuel) (hcolumn : floor ≤ mark.column) :
    ∃ mark', mark'.column = column ∧
      plainFrom false floor fuel gap
          ⟨text ++ '\n' :: (List.replicate column ' ' ++ body), mark⟩ =
        some ⟨gap.text ++ text, true, ⟨body, mark'⟩⟩ := by
  have hwords := inWords isSeparator text
  induction hwords generalizing fuel gap mark with
  | @last word hword =>
    obtain ⟨fuel, rfl⟩ := Nat.exists_eq_succ_of_ne_zero (Nat.ne_of_gt (Nat.zero_lt_of_lt hfuel))
    obtain ⟨mark', hmark', hgap⟩ := exists_scanGap_newline floor column (mark.pastAll word) hbody
    have hleft : (⟨body, mark'⟩ : Cursor).column < floor := by rwa [Cursor.column, hmark']
    refine ⟨mark', hmark', ?_⟩
    rw [plainFrom_word (atStart_eq_false h (by omega)) h.ne_nil hword (by decide) h.noColon hgap,
      if_pos hleft]
  | @gap word blanks rest d hword hblanks hrest _ ih =>
    obtain ⟨fuel, rfl⟩ := Nat.exists_eq_succ_of_ne_zero (Nat.ne_of_gt (Nat.zero_lt_of_lt hfuel))
    have hplain := h.of_gap hblanks (List.cons_ne_nil _ _) hrest
    have hstop : (rest ++ '\n' :: (List.replicate column ' ' ++ body)).head?.any isSeparator =
        false := by
      obtain ⟨e, tail, rfl⟩ := List.exists_cons_of_ne_nil hplain.ne_nil
      exact hrest
    have hgap := scanGap_blanks floor (h.gap_spaces hblanks) (mark.pastAll word) hstop
    have hright : floor ≤ ((mark.pastAll word).pastAll (d :: blanks)).column := by
      simp only [column_pastAll]
      omega
    have hcursor : ¬ (⟨rest ++ '\n' :: (List.replicate column ' ' ++ body),
        (mark.pastAll word).pastAll (d :: blanks)⟩ : Cursor).column < floor := Nat.not_lt.2 hright
    have hshorter : rest.length < fuel := by
      simp only [List.length_append, List.length_cons] at hfuel
      omega
    obtain ⟨mark', hmark', hrec⟩ := @ih ⟨false, d :: blanks, [], []⟩ _ hplain fuel hshorter hright
    refine ⟨mark', hmark', ?_⟩
    have htext := @atStart_eq_false mark _ ('\n' :: (List.replicate column ' ' ++ body)) h
      (by omega)
    simp only [List.append_assoc, List.cons_append] at htext ⊢
    rw [plainFrom_word htext (word_ne_nil (hblanks d (List.mem_cons_self ..)) h.head) hword
        (hblanks d (List.mem_cons_self ..)) h.noColon_of_gap hgap,
      if_neg hcursor, hrec, Option.map_some]
    simp [Gap.text]

/-- **A plain text on its line is read back**, up to what lies further to the left on the next
line. -/
theorem exists_plain_eq {column : Nat} {text body : List Char} (h : IsPlain text)
    (hfloor : column < floor) (hbody : body.head?.any isSeparator = false)
    (hcolumn : floor ≤ mark.column) :
    ∃ mark', mark'.column = column ∧
      (⟨text ++ '\n' :: (List.replicate column ' ' ++ body), mark⟩ : Cursor).plain false floor =
        some ⟨text, true, ⟨body, mark'⟩⟩ := by
  have hfuel : text.length < (text ++ '\n' :: (List.replicate column ' ' ++ body)).length + 1 := by
    rw [List.length_append]
    omega
  exact @exists_plainFrom_eq floor .none mark column body hfloor hbody text h _ hfuel hcolumn

end

/-! ### Texts written without quotes -/

/-- Nothing at the start of the text says that it is something else than a plain scalar. -/
def opensPlain (text : List Char) : Bool :=
  !text.head?.any isOpening &&
    !((text.head? == some '?' || text.head? == some '-' || text.head? == some ':') &&
      endsWord text.tail.head?)

/-- **What can be written without quotes is plain.** -/
theorem isPlain_of_plainAllowed {text : List Char} (hne : text ≠ [])
    (h : plainAllowed text = true) : IsPlain text ∧ opensPlain text = true := by
  simp only [plainAllowed, needsEscapes, hasIndicator, Bool.and_eq_true, Bool.not_eq_true',
    Bool.or_eq_false_iff, Bool.not_eq_false', List.all_eq_true, List.any_eq_false,
    Bool.not_eq_true] at h
  obtain ⟨⟨⟨⟨⟨hshown, -⟩, hbreak⟩, hhead⟩, hlast⟩,
    ⟨⟨⟨⟨⟨-, hopening⟩, hdash⟩, hcolon⟩, hcolonLast⟩, hcomment⟩⟩ := h
  have hspaces : ∀ c ∈ text, isSeparator c = true → c = ' ' := fun c hc =>
    eq_space_of_isShown (hshown c hc) (hbreak c hc)
  obtain ⟨c, rest, rfl⟩ := List.exists_cons_of_ne_nil hne
  have hfirst : isSeparator c = false := by
    rw [Bool.eq_false_iff]
    intro hseparator
    rw [hspaces c (List.mem_cons_self ..) hseparator] at hhead
    cases hhead
  refine ⟨⟨hne, hfirst, ?_, hspaces, ?_, ?_, hcomment⟩, ?_⟩
  · intro hnumber
    rw [hnumber] at hopening
    cases hopening
  · intro hspace
    rw [hspace] at hlast
    cases hlast
  · rw [hasPair_append, hcolon]
    cases hend : (c :: rest).getLast? with
    | none => rfl
    | some d =>
      rw [hend] at hcolonLast
      have hd : (d == ':') = false := hcolonLast
      rw [Option.any_some, hd]
      rfl
  · -- a colon at the start would be followed by a word
    have hstart : ((c :: rest).head? == some ':' && endsWord (c :: rest).tail.head?) = false := by
      cases rest with
      | nil =>
        rw [show endsWord ([c] : List Char).tail.head? = true from rfl, Bool.and_true]
        exact hcolonLast
      | cons d rest =>
        rw [hasPair, Bool.or_eq_false_iff] at hcolon
        exact hcolon.1
    rw [opensPlain, hopening, Bool.and_or_distrib_right, hdash, hstart]
    rfl

end Yaml
end CurveSheet
