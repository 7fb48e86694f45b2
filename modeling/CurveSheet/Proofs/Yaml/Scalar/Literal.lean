/-
# Literal blocks read back

How many of the line ends behind the last line belong to the text of a literal block is what
the sign behind the bar says (`Ending.chomp`), and how far the lines are indented is what
another sign says or the first line shows.  So the whole block is read back up to the next
line (`Cursor.exists_block_eq`).
-/

import CurveSheet.Proofs.Yaml.Scalar.BlockLines

namespace CurveSheet
namespace Yaml

/-! ### The signs behind the bar -/

/-- What the sign for the end of a block says. -/
def chompingOf (text : List Char) : Chomping :=
  match text.reverse with
  | [] => .strip
  | [c] => if isBreak c then .keep else .strip
  | c :: d :: _ => if !isBreak c then .strip else if isBreak d then .keep else .clip

/-- The indentation that is given behind the bar, 0 if there is none. -/
def givenIndent (text : List Char) : Nat := if text.head?.any isSpaceOrBreak then indentStep else 0

/-- The signs are read for what they say. -/
theorem exists_blockMarks_eq (text rest : List Char) : ∃ signs,
    indentationSign text ++ chompingSign text = signs ∧
      blockMarks (signs ++ '\n' :: rest) =
        some (chompingOf text, givenIndent text, signs.length) := by
  have hchomping : (chompingSign text, chompingOf text) ∈
      [(['-'], Chomping.strip), (['+'], .keep), ([], .clip)] := by
    unfold chompingSign chompingOf
    cases text.reverse with
    | nil => decide
    | cons c front =>
      cases front with
      | nil => cases h : isBreak c <;> simp [h]
      | cons d front => cases hc : isBreak c <;> cases hd : isBreak d <;> simp [hc, hd]
  have hindent : (indentationSign text, givenIndent text) ∈ [(['2'], 2), ([], 0)] := by
    unfold indentationSign givenIndent
    split <;> decide
  refine ⟨_, rfl, ?_⟩
  generalize chompingSign text = sign at *
  generalize chompingOf text = chomping at *
  generalize indentationSign text = digit at *
  generalize givenIndent text = given at *
  simp only [List.mem_cons, Prod.mk.injEq, List.not_mem_nil, or_false] at hchomping hindent
  rcases hchomping with ⟨rfl, rfl⟩ | ⟨rfl, rfl⟩ | ⟨rfl, rfl⟩ <;>
  rcases hindent with ⟨rfl, rfl⟩ | ⟨rfl, rfl⟩ <;> rfl

/-- **What the sign says belongs to the text is all of it.** -/
theorem Ending.chomp {text kept lastBreak emptyLines : List Char} {cursor : Cursor}
    (h : Ending text kept lastBreak emptyLines) :
    (⟨kept, lastBreak, emptyLines, cursor⟩ : BlockLines).chomp (chompingOf text) = text := by
  have hreverse {kept : List Char} (h : kept.getLast?.any (!isBreak ·) = true) :
      ∃ c front, kept.reverse = c :: front ∧ isBreak c = false := by
    rw [← List.head?_reverse] at h
    cases hkept : kept.reverse with
    | nil => rw [hkept] at h; cases h
    | cons c front =>
      rw [hkept, List.head?_cons, Option.any_some, Bool.not_eq_true'] at h
      exact ⟨c, front, rfl, h⟩
  cases h with
  | within h =>
    obtain ⟨c, front, htext, hc⟩ := hreverse h
    have hstrip : chompingOf text = .strip := by
      rw [chompingOf, htext]
      cases front <;> simp [hc]
    rw [hstrip, BlockLines.chomp]
  | @behind _ _ b h hbreaks =>
    cases emptyLines with
    | nil =>
      obtain ⟨c, front, hkept, hc⟩ := hreverse h
      have hclip : chompingOf (kept ++ [b]) = .clip := by
        rw [chompingOf, List.reverse_append, hkept]
        simp [hc, hbreaks b (List.mem_cons_self ..)]
      rw [hclip, BlockLines.chomp]
    | cons d emptyLines =>
      obtain ⟨c, front, hlast⟩ := List.exists_cons_of_ne_nil
        (mt List.reverse_eq_nil_iff.1 (List.cons_ne_nil d emptyLines))
      have hmem : ∀ e ∈ c :: front, isBreak e = true := fun e he =>
        hbreaks e (List.mem_cons_of_mem _ (List.mem_reverse.1 (hlast ▸ he)))
      have hkeep : chompingOf (kept ++ b :: d :: emptyLines) = .keep := by
        rw [chompingOf, List.reverse_append, List.reverse_cons, hlast]
        cases front with
        | nil => simp [hmem c (List.mem_cons_self ..), hbreaks b (List.mem_cons_self ..)]
        | cons e front =>
          simp [hmem c (List.mem_cons_self ..),
            hmem e (List.mem_cons_of_mem _ (List.mem_cons_self ..))]
      rw [hkeep, BlockLines.chomp, List.append_assoc, List.singleton_append]

/-- A text of line ends belongs to the block as a whole. -/
theorem chompingOf_of_breaks {text : List Char} (h : ∀ c ∈ text, isBreak c = true)
    (hne : text ≠ []) : chompingOf text = .keep := by
  obtain ⟨c, front, hlast⟩ := List.exists_cons_of_ne_nil (mt List.reverse_eq_nil_iff.1 hne)
  have hmem : ∀ d ∈ c :: front, isBreak d = true := fun d hd =>
    h d (List.mem_reverse.1 (hlast ▸ hd))
  rw [chompingOf, hlast]
  cases front with
  | nil => simp [hmem c (List.mem_cons_self ..)]
  | cons d front =>
    simp [hmem c (List.mem_cons_self ..), hmem d (List.mem_cons_of_mem _ (List.mem_cons_self ..))]

/-! ### Whole blocks -/

theorem length_le_endedLines (indent : Nat) (fresh : Bool) (text : List Char) :
    text.length ≤ (endedLines indent fresh text).length := by
  have hlines (fresh : Bool) (text : List Char) :
      text.length ≤ (indentLines indent (fun c => [c]) fresh text).length := by
    induction text generalizing fresh with
    | nil => exact Nat.le_refl _
    | cons c text ih =>
      rw [indentLines]
      split
      · exact Nat.succ_le_succ (ih true)
      · have := ih false
        simp only [List.length_append, List.length_cons, List.length_nil]
        omega
  rw [endedLines, List.length_append]
  exact Nat.le_add_right_of_le (hlines fresh text)

theorem literal_eq (indent : Nat) (text : List Char) :
    literal indent text = '|' ::
      (indentationSign text ++ chompingSign text ++ '\n' :: endedLines indent true text) := by
  simp only [literal, endedLines, List.append_assoc, List.cons_append]

/-- Behind the first line of a block its lines are read. -/
theorem Cursor.exists_block_eq_blockGap (parent : Nat) (text behind : List Char) (mark : Mark) :
    ∃ first, first.column = 0 ∧
      (⟨literal (parent + indentStep) text ++ behind, mark⟩ : Cursor).block false parent =
        let lines := endedLines (parent + indentStep) true text ++ behind
        let indent := if givenIndent text = 0 then 0 else parent + indentStep
        match (⟨lines, first⟩ : Cursor).blockGap indent with
        | none => none
        | some gap =>
          let floor := if indent = 0 then max gap.widest (parent + 1) else indent
          (blockLinesFrom false floor ((literal (parent + indentStep) text ++ behind).length + 1) []
            gap.breaks false gap.cursor).map fun lines =>
              (lines.chomp (chompingOf text), lines.cursor) := by
  obtain ⟨signs, hsigns, hmarks⟩ := exists_blockMarks_eq text
    (endedLines (parent + indentStep) true text ++ behind)
  have htext : literal (parent + indentStep) text ++ behind =
      '|' :: (signs ++ '\n' :: (endedLines (parent + indentStep) true text ++ behind)) := by
    rw [literal_eq, hsigns, List.cons_append, List.append_assoc, List.cons_append]
  rw [htext]
  generalize endedLines (parent + indentStep) true text ++ behind = lines at *
  have hbehind : (((⟨signs ++ '\n' :: lines, mark.past '|'⟩ : Cursor).skip
      signs.length).skipToLineEnd) = ⟨'\n' :: lines, (mark.past '|').pastAll signs⟩ := by
    rw [Cursor.skip, List.drop_left, List.take_left]
    rfl
  have hstart : (⟨'|' :: (signs ++ '\n' :: lines), mark⟩ : Cursor).skip 1 =
      ⟨signs ++ '\n' :: lines, mark.past '|'⟩ := rfl
  have hlines := lineEnd_shown (by decide : isShownBreak '\n' = true) lines
    ((mark.past '|').pastAll signs)
  refine ⟨((mark.past '|').pastAll signs).down 1, rfl, ?_⟩
  rw [Cursor.block]
  have hgiven : (if givenIndent text = 0 then 0 else (parent : Int).toNat + givenIndent text) =
      if givenIndent text = 0 then 0 else parent + indentStep := by
    rw [givenIndent, Int.toNat_natCast]
    split <;> rfl
  have hleast : max ((parent : Int) + 1).toNat 1 = parent + 1 := by omega
  have hends :
      ¬ (!endsLine (⟨'\n' :: lines, (mark.past '|').pastAll signs⟩ : Cursor).peek) = true :=
    Bool.false_ne_true
  simp only [hstart, hmarks, hbehind, hlines, if_neg hends, hgiven, hleast]
  rfl

/-- The gap before the first line of a block with characters. -/
theorem exists_blockGap_first {indent : Nat} {breaks : List Char} {c : Char}
    (hbreaks : ∀ d ∈ breaks, isShownBreak d = true) (hc : isBreak c = false)
    (hshown : isShown c = true) (hindent : indent ≠ 0) {mark : Mark} (hmark : mark.column = 0)
    (rest behind : List Char) :
    let text := breaks ++ c :: rest
    let given := if givenIndent text = 0 then 0 else indent
    ∃ widest mark', mark'.column = indent ∧ (given = 0 → widest = indent) ∧
      (⟨endedLines indent true text ++ behind, mark⟩ : Cursor).blockGap given =
        some ⟨widest, breaks, ⟨endedLines indent false (c :: rest) ++ behind, mark'⟩⟩ := by
  intro text given
  have hlines : endedLines indent true text ++ behind =
      breaks ++ (List.replicate indent ' ' ++ (endedLines indent false (c :: rest) ++ behind)) := by
    rw [show endedLines indent true text = _ from endedLines_breaks_append
      (fun d hd => (isShownBreak_iff.1 (hbreaks d hd)).2) true (fun _ => rfl) hc rest, indentation,
      List.append_assoc, List.append_assoc]
  have hhead := @any_isBreak_endedLines indent c hc rest behind
  rw [hlines]
  by_cases hgiven : givenIndent text = 0
  · -- the first line shows the indentation
    have hfirst : text.head?.any isSpaceOrBreak = false := by
      rw [Bool.eq_false_iff]
      intro hfirst
      rw [givenIndent, if_pos hfirst] at hgiven
      cases hgiven
    obtain rfl : breaks = [] := by
      cases breaks with
      | nil => rfl
      | cons d breaks =>
        have hd := (isShownBreak_iff.1 (hbreaks d (List.mem_cons_self ..))).2
        have hd' : (isSpace d || isBreak d) = false := hfirst
        rw [hd, Bool.or_true] at hd'
        cases hd'
    have hgap : (endedLines indent false (c :: rest) ++ behind).head?.any isGap = false := by
      have hc' : (isSpace c || isBreak c) = false := hfirst
      rw [endedLines, indentLines, if_neg (by rw [hc]; exact Bool.false_ne_true)]
      change isGap c = false
      rw [Bool.eq_false_iff]
      intro h
      obtain rfl := eq_space_of_isShown hshown hc (by rw [isSeparator, h, Bool.true_or])
      cases hc'
    have hcolumn : (mark.pastAll (List.replicate indent ' ')).column = indent := by
      rw [column_pastAll, hmark, List.length_replicate, Nat.zero_add]
    refine ⟨indent, _, hcolumn, fun _ => rfl, ?_⟩
    rw [show given = 0 from if_pos hgiven, Cursor.blockGap, List.nil_append,
      blockGapFrom_spaces (.inl rfl), blockGapFrom_stop hhead (.inr hgap), hcolumn, Nat.zero_max]
  · obtain ⟨widest, mark', hmark', hgap⟩ := exists_blockGap_eq hmark hbreaks hhead
      (Nat.le_refl indent) hindent (.inl rfl)
    have hgiven' : given = indent := if_neg hgiven
    refine ⟨widest, mark', hmark', fun h => absurd (hgiven'.symm.trans h) hindent, ?_⟩
    rw [hgiven', hgap]

section

variable {parent column : Nat} {body : List Char}

/-- A block of line ends only. -/
theorem Cursor.exists_block_breaks {breaks : List Char} (hne : breaks ≠ [])
    (hshown : ∀ c ∈ breaks, isShownBreak c = true) (hcolumn : column < parent + indentStep)
    (hbody : body.head?.any isSeparator = false) (mark : Mark) : ∃ mark', mark'.column = column ∧
      (⟨literal (parent + indentStep) breaks ++ (List.replicate column ' ' ++ body), mark⟩ :
        Cursor).block false parent = some (breaks, ⟨body, mark'⟩) := by
  have hbreaks : ∀ c ∈ breaks, isBreak c = true := fun c hc => (isShownBreak_iff.1 (hshown c hc)).2
  have hindent : parent + indentStep ≠ 0 := Nat.succ_ne_zero _
  have hgiven : givenIndent breaks = indentStep := by
    obtain ⟨b, breaks, rfl⟩ := List.exists_cons_of_ne_nil hne
    have hb : (isSpace b || isBreak b) = true := by
      rw [hbreaks b (List.mem_cons_self ..), Bool.or_true]
    exact if_pos hb
  obtain ⟨first, hfirst, hblock⟩ := exists_block_eq_blockGap parent breaks
    (List.replicate column ' ' ++ body) mark
  have hstart := head?_not_isSeparator hbody
  obtain ⟨widest, mark', hmark', hgap⟩ := exists_blockGap_eq hfirst hshown hstart.1
    (Nat.le_of_lt hcolumn) hindent (.inr hstart.2)
  have hleft : (⟨body, mark'⟩ : Cursor).column < parent + indentStep := by
    rw [Cursor.column, hmark']
    exact hcolumn
  refine ⟨mark', hmark', ?_⟩
  rw [hblock, endedLines_breaks hbreaks hne, hgiven, if_neg (by decide : ¬ indentStep = 0)]
  simp only [hgap, if_neg hindent, blockLinesFrom_stop hleft, Option.map_some,
    chompingOf_of_breaks hbreaks hne, BlockLines.chomp, List.nil_append]

/-- A block whose first line with characters starts with `c`. -/
theorem Cursor.exists_block_lines {breaks rest : List Char} {c : Char}
    (hbreaks : ∀ d ∈ breaks, isShownBreak d = true) (hc : isBreak c = false)
    (hshown : ∀ d ∈ c :: rest, isShown d = true) (hcolumn : column < parent + indentStep)
    (hbody : body.head?.any isSeparator = false) (mark : Mark) : ∃ mark', mark'.column = column ∧
      (⟨literal (parent + indentStep) (breaks ++ c :: rest) ++ (List.replicate column ' ' ++ body),
        mark⟩ : Cursor).block false parent = some (breaks ++ c :: rest, ⟨body, mark'⟩) := by
  have hindent : parent + indentStep ≠ 0 := Nat.succ_ne_zero _
  obtain ⟨first, hfirst, hblock⟩ := exists_block_eq_blockGap parent (breaks ++ c :: rest)
    (List.replicate column ' ' ++ body) mark
  have hfuel : (c :: rest).length < (literal (parent + indentStep) (breaks ++ c :: rest) ++
      (List.replicate column ' ' ++ body)).length + 1 := by
    have hlines := length_le_endedLines (parent + indentStep) true (breaks ++ c :: rest)
    rw [List.length_append] at hlines
    simp only [literal_eq, List.length_append, List.length_cons] at hlines ⊢
    omega
  obtain ⟨widest, mark₁, hmark₁, hwidest, hgap⟩ := exists_blockGap_first hbreaks hc
    (hshown c (List.mem_cons_self ..)) hindent hfirst rest (List.replicate column ' ' ++ body)
  obtain ⟨kept, lastBreak, emptyLines, mark', hending, hmark', hread⟩ :=
    exists_blockLinesFrom_eq hcolumn hbody (List.cons_ne_nil c rest) hc hshown hfuel hmark₁ []
      breaks false
  -- the first line shows the indentation if it is not given
  have hfloor : (if (if givenIndent (breaks ++ c :: rest) = 0 then 0
      else parent + indentStep) = 0 then max widest (parent + 1)
      else if givenIndent (breaks ++ c :: rest) = 0 then 0 else parent + indentStep) =
        parent + indentStep := by
    by_cases hgiven : givenIndent (breaks ++ c :: rest) = 0
    · rw [if_pos hgiven, if_pos rfl, hwidest (if_pos hgiven)]
      exact Nat.max_eq_left (Nat.le_succ _)
    · rw [if_neg hgiven, if_neg hindent]
  refine ⟨mark', hmark', ?_⟩
  rw [hblock]
  simp only [hgap, hfloor, hread, Option.map_some, List.nil_append, (hending.append breaks).chomp]

/-- **A literal block is read back** up to what lies further to the left on the next line. -/
theorem Cursor.exists_block_eq {text : List Char} (hshown : ∀ c ∈ text, isShown c = true)
    (hne : text ≠ []) (hcolumn : column < parent + indentStep)
    (hbody : body.head?.any isSeparator = false) (mark : Mark) : ∃ mark', mark'.column = column ∧
      (⟨literal (parent + indentStep) text ++ (List.replicate column ' ' ++ body), mark⟩ :
        Cursor).block false parent = some (text, ⟨body, mark'⟩) := by
  obtain ⟨breaks, line, rest, rfl, hbreaks, hline, -, hnone⟩ := exists_word_gap (!isBreak ·) text
  have hbreaks : ∀ c ∈ breaks, isShownBreak c = true := fun c hc =>
    isShownBreak_iff.2 ⟨hshown c (List.mem_append_left _ hc), by simpa using hbreaks c hc⟩
  cases line with
  | nil =>
    obtain rfl := hnone rfl
    rw [List.nil_append, List.append_nil] at *
    exact exists_block_breaks hne hbreaks hcolumn hbody mark
  | cons c line =>
    exact exists_block_lines hbreaks (by simpa using hline c (List.mem_cons_self ..))
      (fun d hd => hshown d (List.mem_append_right _ hd)) hcolumn hbody mark

end

end Yaml
end CurveSheet
