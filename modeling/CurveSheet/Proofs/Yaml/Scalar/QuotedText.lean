/-
# Texts between quotes

Single quotes write a text as a row of words and gaps if its lines can be folded
(`quotes_singleQuotedBody`), double quotes any text (`quotes_doubleQuoted`).  In double
quotes a gap is spaces, and all that cannot be shown is part of a word; in single quotes a
gap may be line ends, with the indentation behind them.
-/

import CurveSheet.Proofs.Yaml.Scalar.Escape
import CurveSheet.Proofs.Yaml.Scalar.Quoted

namespace CurveSheet
namespace Yaml

/-! ### Gaps -/

/-- Spaces are read as themselves. -/
theorem readsGap_spaces {d : Char} {blanks : List Char} (h : ∀ c ∈ d :: blanks, c = ' ') :
    ReadsGap (d :: blanks) (d :: blanks) where
  separates := by
    rw [h d (List.mem_cons_self ..)]
    rfl
  reads rest mark hrest := by
    refine ⟨_, _, ?_, ?_, scanGap_blanks 0 h mark hrest⟩
    · rfl
    · rw [column_pastAll, List.length_cons]
      omega

/-- Spaces are written as themselves. -/
theorem flatMap_spaces {letter : Char → List Char} (hletter : letter ' ' = [' '])
    {blanks : List Char} (h : ∀ c ∈ blanks, c = ' ') : blanks.flatMap letter = blanks := by
  induction blanks with
  | nil => rfl
  | cons c blanks ih =>
    rw [List.flatMap_cons, h c (List.mem_cons_self ..), hletter, List.singleton_append,
      ih fun d hd => h d (List.mem_cons_of_mem _ hd)]

/-- A gap moves over line ends that stand for themselves. -/
theorem exists_scanGapFrom_breaks {breaks rest : List Char}
    (hbreaks : ∀ c ∈ breaks, isShown c = true ∧ isBreak c = true) (floor : Nat) (gap : Gap)
    (mark : Mark) : ∃ mark', scanGapFrom floor gap mark (breaks ++ rest) =
      scanGapFrom floor (breaks.foldl Gap.addBreak gap) mark' rest := by
  induction breaks generalizing gap mark with
  | nil => exact ⟨mark, rfl⟩
  | cons c breaks ih =>
    obtain ⟨hshown, hbreak⟩ := hbreaks c (List.mem_cons_self ..)
    obtain ⟨hself, hreturn⟩ := breakChar_eq_self hshown hbreak
    obtain ⟨mark', h⟩ := ih (fun d hd => hbreaks d (List.mem_cons_of_mem _ hd))
      (gap.addBreak c) (mark.down c.utf8Size)
    refine ⟨mark', ?_⟩
    rw [List.cons_append, scanGapFrom_break hbreak hreturn, hself, h, List.foldl_cons]

theorem foldl_addBreak (first more breaks : List Char) :
    breaks.foldl Gap.addBreak ⟨true, [], first, more⟩ = ⟨true, [], first, more ++ breaks⟩ := by
  induction breaks generalizing more with
  | nil => rw [List.append_nil]; rfl
  | cons c breaks ih =>
    rw [List.foldl_cons, Gap.addBreak, if_pos rfl, ih, List.append_assoc, List.singleton_append]

/-- Line ends that are no line feeds are read as themselves; the indentation behind them counts
for nothing. -/
theorem readsGap_breaks {c : Char} {breaks : List Char} {indent : Nat} (hindent : 0 < indent)
    (hbreaks : ∀ d ∈ c :: breaks, isShown d = true ∧ isBreak d = true) (hc : c ≠ '\n') :
    ReadsGap (c :: breaks ++ indentation indent) (c :: breaks) where
  separates := by
    have hbreak := (hbreaks c (List.mem_cons_self ..)).2
    rw [List.cons_append, List.head?_cons, Option.any_some, isSeparator, hbreak, Bool.or_true]
  reads rest mark hrest := by
    obtain ⟨mark', h⟩ := @exists_scanGapFrom_breaks _ (indentation indent ++ rest) hbreaks 0 .none
      mark
    refine ⟨⟨true, [], [c], breaks⟩, mark'.pastAll (indentation indent), ?_, ?_, ?_⟩
    · have hfirst : ([c] : List Char) ≠ ['\n'] := by simpa using hc
      rw [Gap.text, if_pos rfl, if_neg hfirst]
      rfl
    · rw [column_pastAll, indentation, List.length_replicate]
      omega
    · rw [Cursor.scanGap, List.append_assoc, h, List.foldl_cons,
        show Gap.none.addBreak c = ⟨true, [], [c], []⟩ from rfl, foldl_addBreak, indentation,
        scanGapFrom_spaces, scanGapFrom_stop hrest, List.nil_append]
      rfl

/-! ### Words -/

/-- The characters of an escape are passed over once it has been read. -/
theorem quotedWord_covered {double : Bool} {word rest behind : List Char} {width : Nat}
    (h : quotedWord double 0 rest = some ⟨word, width, behind⟩) (letters : List Char) :
    quotedWord double letters.length (letters ++ rest) =
      some ⟨word, letters.length + width, behind⟩ := by
  induction letters with
  | nil => simpa using h
  | cons c letters ih =>
    rw [List.length_cons, List.cons_append, quotedWord, ih, Option.map_some, Nat.add_right_comm]
    rfl

/-- A word is read with the letters of one more character before it. -/
theorem readsWord_cons {double : Bool} {c : Char} {first letters word : List Char}
    (hfirst : ∀ rest word width behind, quotedWord double 0 rest = some ⟨word, width, behind⟩ →
      quotedWord double 0 (first ++ rest) = some ⟨c :: word, first.length + width, behind⟩)
    (h : ReadsWord double letters word) : ReadsWord double (first ++ letters) (c :: word) := by
  intro rest hrest
  rw [List.append_assoc, hfirst _ _ _ _ (h rest hrest), List.length_append]

/-- A character that stands for itself. -/
theorem quotedWord_self {double : Bool} {c : Char} (hseparator : isSeparator c = false)
    (hquote : c ≠ closingQuote double) (hescape : double = true → c ≠ '\\')
    {rest word behind : List Char} {width : Nat}
    (h : quotedWord double 0 rest = some ⟨word, width, behind⟩) :
    quotedWord double 0 ([c] ++ rest) = some ⟨c :: word, 1 + width, behind⟩ := by
  rw [List.singleton_append, quotedWord, if_neg (by rw [hseparator]; decide), h, Nat.add_comm 1]
  cases double with
  | true =>
    have hquote : c ≠ '"' := hquote
    rw [if_pos rfl, if_neg hquote, if_neg (hescape rfl)]
    rfl
  | false =>
    have hquote : c ≠ '\'' := hquote
    rw [if_neg Bool.false_ne_true, if_neg hquote]
    rfl

/-- A character between double quotes is read back. -/
theorem quotedWord_doubleQuotedChar {c : Char} (hc : c ≠ ' ') {rest word behind : List Char}
    {width : Nat} (h : quotedWord true 0 rest = some ⟨word, width, behind⟩) :
    quotedWord true 0 (doubleQuotedChar c ++ rest) =
      some ⟨c :: word, (doubleQuotedChar c).length + width, behind⟩ := by
  unfold doubleQuotedChar
  split
  · obtain ⟨letters, hletters, hbreak, hread⟩ := exists_escaped_eq c
    have hhead : (letters ++ rest).head?.any isBreak = false := by
      cases letters with
      | nil => exact absurd (hread []) (by simp [escape?])
      | cons d letters => exact hbreak
    rw [hletters, List.cons_append, quotedWord, if_neg (by decide), if_pos rfl,
      if_neg (by decide), if_pos rfl, hhead, if_neg Bool.false_ne_true, hread]
    dsimp only
    rw [quotedWord_covered h, Option.map_some, QuotedWord.push, List.length_cons,
      Nat.add_right_comm]
  · rename_i hself
    simp only [Bool.or_eq_true, Bool.not_eq_true', beq_iff_eq, not_or, Bool.not_eq_false,
      Bool.not_eq_true] at hself
    obtain ⟨⟨⟨hshown, hbreak⟩, hquote⟩, hescape⟩ := hself
    have hseparator : isSeparator c = false := by
      rw [Bool.eq_false_iff]
      intro hseparator
      exact hc (eq_space_of_isShown hshown hbreak hseparator)
    exact @quotedWord_self true c hseparator hquote (fun _ => hescape) _ _ _ _ h

/-- A character between single quotes is read back. -/
theorem quotedWord_singleQuotedChar {c : Char} (hc : isSeparator c = false)
    {rest word behind : List Char} {width : Nat}
    (h : quotedWord false 0 rest = some ⟨word, width, behind⟩) :
    quotedWord false 0 (singleQuotedChar c ++ rest) =
      some ⟨c :: word, (singleQuotedChar c).length + width, behind⟩ := by
  unfold singleQuotedChar
  split
  · rename_i hquote
    subst hquote
    have hcovered := quotedWord_covered h ['\'']
    change quotedWord false 0 ('\'' :: '\'' :: rest) = _
    change quotedWord false 1 ('\'' :: rest) = _ at hcovered
    rw [quotedWord, if_neg (by decide), if_neg Bool.false_ne_true, if_pos rfl, List.head?_cons,
      if_pos rfl, hcovered, Option.map_some, QuotedWord.push]
    congr 2
    simp only [List.length_cons, List.length_nil]
    omega
  · rename_i hquote
    exact @quotedWord_self false c hc hquote (by simp) _ _ _ _ h

/-- A word without spaces between double quotes. -/
theorem readsWord_doubleQuoted {word : List Char} (h : ∀ c ∈ word, c ≠ ' ') :
    ReadsWord true (word.flatMap doubleQuotedChar) word := by
  induction word with
  | nil => exact fun rest hrest => hrest
  | cons c word ih =>
    rw [List.flatMap_cons]
    exact readsWord_cons (fun _ _ _ _ => quotedWord_doubleQuotedChar (h c (List.mem_cons_self ..)))
      (ih fun d hd => h d (List.mem_cons_of_mem _ hd))

/-- A word between single quotes. -/
theorem readsWord_singleQuoted {word : List Char} (h : ∀ c ∈ word, isSeparator c = false) :
    ReadsWord false (word.flatMap singleQuotedChar) word := by
  induction word with
  | nil => exact fun rest hrest => hrest
  | cons c word ih =>
    rw [List.flatMap_cons]
    exact readsWord_cons (fun _ _ _ _ => quotedWord_singleQuotedChar (h c (List.mem_cons_self ..)))
      (ih fun d hd => h d (List.mem_cons_of_mem _ hd))

/-! ### Texts between quotes -/

/-- No letter of a character other than a space is a separator. -/
theorem any_isSeparator_doubleQuotedChar {c : Char} (hc : c ≠ ' ') (rest : List Char) :
    (doubleQuotedChar c ++ rest).head?.any isSeparator = false := by
  unfold doubleQuotedChar
  split
  · obtain ⟨letters, hletters, -, -⟩ := exists_escaped_eq c
    rw [hletters]
    rfl
  · rename_i hself
    simp only [Bool.or_eq_true, Bool.not_eq_true', beq_iff_eq, not_or, Bool.not_eq_false,
      Bool.not_eq_true] at hself
    change isSeparator c = false
    rw [Bool.eq_false_iff]
    intro hseparator
    exact hc (eq_space_of_isShown hself.1.1.1 hself.1.1.2 hseparator)

/-- **Double quotes write any text.** -/
theorem quotes_doubleQuoted (text : List Char) :
    Quotes true text (text.flatMap doubleQuotedChar ++ ['"']) := by
  have hspace {word : List Char} (h : ∀ c ∈ word, isSpace c = false) : ∀ c ∈ word, c ≠ ' ' :=
    fun c hc heq => absurd (heq ▸ h c hc) (by decide)
  have hwords := inWords isSpace text
  induction hwords with
  | last hword => exact .last (readsWord_doubleQuoted (hspace hword))
  | @gap word gap rest d hword hgap hrest _ ih =>
    have hspaces : ∀ c ∈ d :: gap, c = ' ' := fun c hc => beq_iff_eq.1 (hgap c hc)
    have hbody : (rest.flatMap doubleQuotedChar ++ ['"']).head?.any isSeparator = false := by
      cases rest with
      | nil => rfl
      | cons c rest =>
        rw [List.flatMap_cons, List.append_assoc]
        refine any_isSeparator_doubleQuotedChar (fun h => ?_) _
        rw [h] at hrest
        cases hrest
    have hquotes := Quotes.gap (readsWord_doubleQuoted (hspace hword)) (readsGap_spaces hspaces)
      hbody ih
    rw [List.flatMap_append, List.flatMap_append, flatMap_spaces (by decide) hspaces]
    simpa only [List.append_assoc] using hquotes

/-- What stands behind the opening single quote. -/
def singleQuotedBody (indent : Nat) (text : List Char) : List Char :=
  indentLines indent singleQuotedChar false text ++
    ((if text.getLast?.any isBreak then indentation indent else []) ++ ['\''])

theorem singleQuoted_eq (indent : Nat) (text : List Char) :
    singleQuoted indent text = '\'' :: singleQuotedBody indent text := by
  rw [singleQuoted, singleQuotedBody, List.cons_append, List.cons_append, List.append_assoc]

/-- A separator that can be shown is a space or ends a line. -/
theorem eq_space_or_isBreak {c : Char} (hshown : isShown c = true) (h : isSeparator c = true) :
    c = ' ' ∨ isBreak c = true := by
  by_cases hbreak : isBreak c = true
  · exact .inr hbreak
  · exact .inl (eq_space_of_isShown hshown (Bool.eq_false_iff.2 hbreak) h)

/-- Without a space next to a line end, separators in a row are all spaces or all line ends. -/
theorem separators_alike {gap : List Char} (h : ∀ c ∈ gap, c = ' ' ∨ isBreak c = true)
    (hspace : hasPair isSpace isBreak gap = false) (hbreak : hasPair isBreak isSpace gap = false) :
    (∀ c ∈ gap, c = ' ') ∨ ∀ c ∈ gap, isBreak c = true := by
  induction gap with
  | nil => exact .inl (List.forall_mem_nil _)
  | cons c gap ih =>
    rw [hasPair_cons, Bool.or_eq_false_iff] at hspace hbreak
    have hrest := ih (fun d hd => h d (List.mem_cons_of_mem _ hd)) hspace.2 hbreak.2
    cases gap with
    | nil =>
      rcases h c (List.mem_cons_self ..) with hc | hc
      · exact .inl (by simpa using hc)
      · exact .inr (by simpa using hc)
    | cons d gap =>
      have hd : d ∈ d :: gap := List.mem_cons_self ..
      rcases h c (List.mem_cons_self ..) with rfl | hc
      · refine .inl (List.forall_mem_cons.2 ⟨rfl, hrest.resolve_right fun hall => ?_⟩)
        have hbefore : (isSpace ' ' && isBreak d) = false := hspace.1
        rw [hall d hd] at hbefore
        cases hbefore
      · refine .inr (List.forall_mem_cons.2 ⟨hc, hrest.resolve_left fun hall => ?_⟩)
        have hbefore : (isBreak c && isSpace d) = false := hbreak.1
        rw [hc, hall d hd] at hbefore
        cases hbefore

section

variable {indent : Nat} {rest : List Char}

theorem singleQuotedBody_append {front : List Char} (h : ∀ c ∈ front, isBreak c = false) :
    singleQuotedBody indent (front ++ rest) =
      front.flatMap singleQuotedChar ++ singleQuotedBody indent rest := by
  rw [singleQuotedBody, indentLines_append h, any_isBreak_getLast?_append h, List.append_assoc]
  rfl

theorem singleQuotedBody_breaks {breaks : List Char} (h : ∀ c ∈ breaks, isBreak c = true)
    (hne : breaks ≠ []) (hrest : rest.head?.any isBreak = false) :
    singleQuotedBody indent (breaks ++ rest) =
      breaks ++ indentation indent ++ singleQuotedBody indent rest := by
  rw [singleQuotedBody, indentLines_breaks h hne]
  cases rest with
  | nil =>
    rw [List.append_nil, any_getLast?_of_forall h hne, if_pos rfl]
    simp only [indentLines, List.append_assoc, List.append_nil]
    rfl
  | cons c rest =>
    have hlast : (breaks ++ c :: rest).getLast? = (c :: rest).getLast? := by
      rw [List.getLast?_append, List.getLast?_cons, Option.some_or]
    rw [indentLines_fresh hrest, hlast, singleQuotedBody]
    simp only [List.append_assoc]

/-- What is written for a text that does not start with a separator does not start with one. -/
theorem any_isSeparator_singleQuotedBody (indent : Nat)
    (h : rest.head?.any isSeparator = false) :
    (singleQuotedBody indent rest).head?.any isSeparator = false := by
  cases rest with
  | nil => rfl
  | cons c rest =>
    have hc : isSeparator c = false := h
    have hfront := @singleQuotedBody_append indent rest [c] (by
      simpa using (not_isSeparator hc).1)
    rw [List.singleton_append] at hfront
    rw [hfront, List.flatMap_singleton, singleQuotedChar]
    split
    · rfl
    · exact hc

end

/-- **Single quotes write a text in which no space stands next to a line end**, if it has no
line feed and all its characters can be shown. -/
theorem quotes_singleQuotedBody {indent : Nat} (hindent : 0 < indent) {text : List Char}
    (h : singleQuotedAllowed text = true) (hfeed : '\n' ∉ text) :
    Quotes false text (singleQuotedBody indent text) := by
  simp only [singleQuotedAllowed, needsEscapes, Bool.and_eq_true, Bool.not_eq_true',
    Bool.or_eq_false_iff, Bool.not_eq_false', List.all_eq_true] at h
  obtain ⟨⟨hshown, hspace⟩, hbreak⟩ := h
  have hwords := inWords isSeparator text
  induction hwords with
  | @last word hword =>
    have hbody := @singleQuotedBody_append indent [] word fun c hc =>
      (not_isSeparator (hword c hc)).1
    rw [List.append_nil] at hbody
    rw [hbody]
    exact .last (readsWord_singleQuoted hword)
  | @gap word gap rest d hword hgap hrest _ ih =>
    have hmem : ∀ c ∈ d :: gap, c ∈ word ++ (d :: gap ++ rest) := fun c hc =>
      List.mem_append_right _ (List.mem_append_left _ hc)
    have hmemRest : ∀ c ∈ rest, c ∈ word ++ (d :: gap ++ rest) := fun c hc =>
      List.mem_append_right _ (List.mem_append_right _ hc)
    obtain ⟨-, hspace, -⟩ := hasPair_of_append hspace
    obtain ⟨hspaceGap, hspaceRest, -⟩ := hasPair_of_append hspace
    obtain ⟨-, hbreak, -⟩ := hasPair_of_append hbreak
    obtain ⟨hbreakGap, hbreakRest, -⟩ := hasPair_of_append hbreak
    have hquotes := ih (fun hc => hfeed (hmemRest _ hc)) hbreakRest
      (fun c hc => hshown c (hmemRest c hc)) hspaceRest
    have hbody := any_isSeparator_singleQuotedBody indent hrest
    have halike := separators_alike (fun c hc =>
      eq_space_or_isBreak (hshown c (hmem c hc)) (hgap c hc)) hspaceGap hbreakGap
    rw [singleQuotedBody_append fun c hc => (not_isSeparator (hword c hc)).1]
    rcases halike with hall | hall
    · rw [singleQuotedBody_append fun c hc => by rw [hall c hc]; rfl,
        flatMap_spaces (by decide) hall, ← List.append_assoc word]
      exact .gap (readsWord_singleQuoted hword) (readsGap_spaces hall) hbody hquotes
    · have hd : d ≠ '\n' := fun h => hfeed (h ▸ hmem d (List.mem_cons_self ..))
      have hreads := readsGap_breaks hindent (fun c hc => ⟨hshown c (hmem c hc), hall c hc⟩) hd
      rw [singleQuotedBody_breaks hall (List.cons_ne_nil _ _) (head?_not_isSeparator hrest).1,
        ← List.append_assoc word]
      exact .gap (readsWord_singleQuoted hword) hreads hbody hquotes

end Yaml
end CurveSheet
