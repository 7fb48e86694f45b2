/-
# Lines of literal blocks

The lines of a literal block are those of its text, each indented, and between them the line
ends as they are.  A reader takes line after line off the block
(`exists_blockLinesFrom_eq`) and is left with the line end of the last one and the empty
lines behind it (`Ending`).
-/

import CurveSheet.Proofs.Yaml.Scalar.Lines
import CurveSheet.Yaml.Scalar.Block

namespace CurveSheet
namespace Yaml

/-- A line end that can be written as it is. -/
def isShownBreak (c : Char) : Bool := isShown c && isBreak c

theorem isShownBreak_iff {c : Char} :
    isShownBreak c = true ↔ isShown c = true ∧ isBreak c = true := by
  rw [isShownBreak, Bool.and_eq_true]

/-! ### Empty lines and indentation -/

section

variable {indent widest : Nat} {mark : Mark} {rest : List Char}

theorem blockGapFrom_break {c : Char} (h : isShownBreak c = true) :
    blockGapFrom indent widest mark (c :: rest) =
      (blockGapFrom indent (max widest mark.column) (mark.down c.utf8Size) rest).map fun gap =>
        { gap with breaks := c :: gap.breaks } := by
  obtain ⟨hshown, hbreak⟩ := isShownBreak_iff.1 h
  obtain ⟨hself, hreturn⟩ := breakChar_eq_self hshown hbreak
  rw [blockGapFrom, if_pos hbreak, hself]
  intro _ h
  exact absurd h hreturn

/-- Empty lines are kept as they are. -/
theorem exists_blockGapFrom_breaks {breaks : List Char} (h : ∀ c ∈ breaks, isShownBreak c = true)
    (hcolumn : mark.column = 0) : ∃ widest' mark', mark'.column = 0 ∧
      blockGapFrom indent widest mark (breaks ++ rest) =
        (blockGapFrom indent widest' mark' rest).map fun gap =>
          { gap with breaks := breaks ++ gap.breaks } := by
  induction breaks generalizing widest mark with
  | nil => exact ⟨widest, mark, hcolumn, by simp⟩
  | cons c breaks ih =>
    obtain ⟨widest', mark', hmark', hrest⟩ := @ih (max widest mark.column) (mark.down c.utf8Size)
      (fun d hd => h d (List.mem_cons_of_mem _ hd)) rfl
    refine ⟨widest', mark', hmark', ?_⟩
    rw [List.cons_append, blockGapFrom_break (h c (List.mem_cons_self ..)), hrest, Option.map_map]
    rfl

theorem blockGapFrom_space (h : indent = 0 ∨ mark.column < indent) :
    blockGapFrom indent widest mark (' ' :: rest) =
      blockGapFrom indent widest (mark.past ' ') rest := by
  rw [blockGapFrom, if_neg (by decide), if_pos ⟨h, rfl⟩]
  intro _ h
  exact absurd h (by decide)

/-- Indentation is passed over, up to the column of the block. -/
theorem blockGapFrom_spaces {n : Nat} (h : indent = 0 ∨ mark.column + n ≤ indent) :
    blockGapFrom indent widest mark (List.replicate n ' ' ++ rest) =
      blockGapFrom indent widest (mark.pastAll (List.replicate n ' ')) rest := by
  induction n generalizing mark with
  | zero => rfl
  | succ n ih =>
    rw [List.replicate_succ, List.cons_append, blockGapFrom_space (h.imp_right fun h => by omega),
      ih (h.imp_right fun h => by rw [column_past]; omega), Mark.pastAll_cons]

/-- At the column of the block the text of a line starts. -/
theorem blockGapFrom_stop (h : rest.head?.any isBreak = false)
    (hgap : indent ≠ 0 ∧ mark.column = indent ∨ rest.head?.any isGap = false) :
    blockGapFrom indent widest mark rest = some ⟨max widest mark.column, [], ⟨rest, mark⟩⟩ := by
  cases rest with
  | nil => rfl
  | cons c rest =>
    have hbreak : isBreak c = false := h
    have hnot : ∀ d, isGap d = true → ¬((indent = 0 ∨ mark.column < indent) ∧ c = d) := by
      rintro d hd ⟨hleft, rfl⟩
      rcases hgap with ⟨hne, hcolumn⟩ | hgap
      · omega
      · have hc : isGap c = false := hgap
        rw [hd] at hc
        cases hc
    rw [blockGapFrom, if_neg (by rw [hbreak]; decide), if_neg (hnot ' ' (by decide)),
      if_neg (hnot '\t' (by decide))]
    rintro _ rfl
    exact absurd hbreak (by decide)

end

/-- Empty lines and the indentation of a line behind them. -/
theorem exists_blockGap_eq {indent : Nat} {breaks rest : List Char} {column : Nat} {mark : Mark}
    (hmark : mark.column = 0) (hbreaks : ∀ c ∈ breaks, isShownBreak c = true)
    (hrest : rest.head?.any isBreak = false) (hindent : column ≤ indent) (hne : indent ≠ 0)
    (hgap : column = indent ∨ rest.head?.any isGap = false) :
    ∃ widest mark', mark'.column = column ∧
      (⟨breaks ++ (List.replicate column ' ' ++ rest), mark⟩ : Cursor).blockGap indent =
        some ⟨widest, breaks, ⟨rest, mark'⟩⟩ := by
  obtain ⟨widest, mark', hmark', hbreaks⟩ := @exists_blockGapFrom_breaks indent 0 mark
    (List.replicate column ' ' ++ rest) breaks hbreaks hmark
  have hcolumn : (mark'.pastAll (List.replicate column ' ')).column = column := by
    rw [column_pastAll, hmark', List.length_replicate, Nat.zero_add]
  refine ⟨max widest column, _, hcolumn, ?_⟩
  rw [Cursor.blockGap, hbreaks, blockGapFrom_spaces (.inr (by omega)),
    blockGapFrom_stop hrest (hgap.imp_left fun h => ⟨hne, hcolumn.trans h⟩), Option.map_some,
    List.append_nil, hcolumn]

/-! ### Lines -/

/-- How a text ends: what is kept of it in any case, the line end of its last line, and the
empty lines behind it.  A text that ends within a line gets a line end. -/
inductive Ending : (text kept lastBreak emptyLines : List Char) → Prop where
  | within {text : List Char} (h : text.getLast?.any (!isBreak ·) = true) :
    Ending text text ['\n'] []
  | behind {kept breaks : List Char} {b : Char} (h : kept.getLast?.any (!isBreak ·) = true)
    (hbreaks : ∀ c ∈ b :: breaks, isBreak c = true) : Ending (kept ++ b :: breaks) kept [b] breaks

/-- The end of a text does not depend on what stands in front. -/
theorem Ending.append {text kept lastBreak emptyLines : List Char}
    (h : Ending text kept lastBreak emptyLines) (front : List Char) :
    Ending (front ++ text) (front ++ kept) lastBreak emptyLines := by
  have hlast {kept : List Char} (h : kept.getLast?.any (!isBreak ·) = true) :
      (front ++ kept).getLast?.any (!isBreak ·) = true := by
    obtain ⟨c, hc, hbreak⟩ := (Option.any_eq_true _ _).1 h
    rw [List.getLast?_append, hc, Option.some_or, Option.any_some]
    exact hbreak
  cases h with
  | within h => exact .within (hlast h)
  | behind h hbreaks =>
    rw [← List.append_assoc]
    exact .behind (hlast h) hbreaks

/-- The line end and what follows it. -/
theorem Cursor.lineEnd_shown {c : Char} (h : isShownBreak c = true) (rest : List Char)
    (mark : Mark) : (⟨c :: rest, mark⟩ : Cursor).lineEnd = ([c], ⟨rest, mark.down c.utf8Size⟩) := by
  obtain ⟨hshown, hbreak⟩ := isShownBreak_iff.1 h
  obtain ⟨hself, hreturn⟩ := breakChar_eq_self hshown hbreak
  unfold Cursor.lineEnd
  split
  · rename_i heq
    exact absurd (List.cons.inj heq).1 hreturn
  · rename_i heq
    obtain ⟨rfl, rfl⟩ := List.cons.inj heq
    rw [if_pos hbreak, hself]
  · rename_i heq
    cases heq

/-- The line that is at the cursor. -/
theorem Cursor.span_line {line : List Char} (h : ∀ c ∈ line, isBreak c = false) {c : Char}
    (hc : isBreak c = true) (rest : List Char) (mark : Mark) :
    (⟨line ++ c :: rest, mark⟩ : Cursor).span (fun c => !isBreak c) =
      (line, ⟨c :: rest, mark.pastAll line⟩) := by
  have hline : ∀ c ∈ line, (!isBreak c) = true := fun c hc => by rw [h c hc]; rfl
  have hstop : (c :: rest).takeWhile (fun c => !isBreak c) = [] ∧
      (c :: rest).dropWhile (fun c => !isBreak c) = c :: rest := by simp [hc]
  rw [Cursor.span, List.takeWhile_append_of_pos hline, List.dropWhile_append_of_pos hline, hstop.1,
    hstop.2, List.append_nil]

section

variable {indent : Nat}

/-- One line of a literal block and the empty lines behind it. -/
theorem blockLinesFrom_line {fuel : Nat} {lineBreak emptyLines line rest : List Char} {b : Char}
    {indentedBefore : Bool} {mark : Mark} (hcolumn : mark.column = indent)
    (hline : ∀ c ∈ line, isBreak c = false) (hb : isShownBreak b = true) {gap : BlockGap}
    (hgap : (⟨rest, (mark.pastAll line).down b.utf8Size⟩ : Cursor).blockGap indent = some gap) :
    ∃ indented, blockLinesFrom false indent (fuel + 1) lineBreak emptyLines indentedBefore
        ⟨line ++ b :: rest, mark⟩ =
      (blockLinesFrom false indent fuel [b] gap.breaks indented gap.cursor).map fun tail =>
        { tail with text := lineBreak ++ emptyLines ++ line ++ tail.text } := by
  have hhere : (⟨line ++ b :: rest, mark⟩ : Cursor).column = indent ∧
      (⟨line ++ b :: rest, mark⟩ : Cursor).rest ≠ [] := ⟨hcolumn, by simp⟩
  refine ⟨(line ++ b :: rest).head?.any isGap, ?_⟩
  rw [blockLinesFrom, if_pos hhere]
  simp only [Cursor.span_line hline (isShownBreak_iff.1 hb).2, Cursor.lineEnd_shown hb, hgap, joint,
    Bool.false_and, Bool.false_eq_true, if_false]
  rfl

/-- Left of its column the lines of a block have ended. -/
theorem blockLinesFrom_stop {fuel : Nat} {lineBreak emptyLines : List Char} {indentedBefore : Bool}
    {cursor : Cursor} (h : cursor.column < indent) :
    blockLinesFrom false indent (fuel + 1) lineBreak emptyLines indentedBefore cursor =
      some ⟨[], lineBreak, emptyLines, cursor⟩ := by
  rw [blockLinesFrom, if_neg fun hcolumn => Nat.ne_of_lt h hcolumn.1]

/-- The lines of a text, each with its end; `fresh` says that a line starts here. -/
def endedLines (indent : Nat) (fresh : Bool) (text : List Char) : List Char :=
  indentLines indent (fun c => [c]) fresh text ++ if text.getLast?.any isBreak then [] else ['\n']

theorem endedLines_append {line : List Char} (h : ∀ c ∈ line, isBreak c = false)
    (rest : List Char) :
    endedLines indent false (line ++ rest) = line ++ endedLines indent false rest := by
  rw [endedLines, indentLines_append h, any_isBreak_getLast?_append h, List.flatMap_singleton',
    List.append_assoc]
  rfl

theorem endedLines_breaks {breaks : List Char} (h : ∀ c ∈ breaks, isBreak c = true)
    (hne : breaks ≠ []) (fresh : Bool) : endedLines indent fresh breaks = breaks := by
  have hlines := @indentLines_breaks indent (fun c => [c]) breaks h hne fresh []
  rw [List.append_nil] at hlines
  rw [endedLines, hlines, any_getLast?_of_forall h hne]
  simp [indentLines]

/-- Line ends and the lines behind them. -/
theorem endedLines_breaks_append {breaks : List Char} (h : ∀ c ∈ breaks, isBreak c = true)
    (fresh : Bool) (hfresh : breaks = [] → fresh = true) {c : Char} (hc : isBreak c = false)
    (rest : List Char) :
    endedLines indent fresh (breaks ++ c :: rest) =
      breaks ++ (indentation indent ++ endedLines indent false (c :: rest)) := by
  have hlast : (breaks ++ c :: rest).getLast? = (c :: rest).getLast? := by
    rw [List.getLast?_append, List.getLast?_cons, Option.some_or]
  have hlines : indentLines indent (fun c => [c]) fresh (breaks ++ c :: rest) =
      breaks ++ indentLines indent (fun c => [c]) true (c :: rest) := by
    by_cases hne : breaks = []
    · rw [hne, hfresh hne]
      rfl
    · exact indentLines_breaks h hne fresh _
  rw [endedLines, endedLines, hlines, indentLines_fresh hc, hlast]
  simp only [List.append_assoc]

theorem any_isBreak_endedLines {c : Char} (h : isBreak c = false) (rest behind : List Char) :
    (endedLines indent false (c :: rest) ++ behind).head?.any isBreak = false := by
  rw [endedLines, indentLines, if_neg (by rw [h]; exact Bool.false_ne_true)]
  exact h

/-- The last line of a literal block, with the empty lines behind it. -/
theorem exists_blockLinesFrom_last {column : Nat} {body : List Char} (hcolumn : column < indent)
    (hbody : body.head?.any isSeparator = false) {line breaks : List Char} {b : Char}
    (hline : ∀ c ∈ line, isBreak c = false) (hb : isShownBreak b = true)
    (hbreaks : ∀ c ∈ breaks, isShownBreak c = true) {mark : Mark} (hmark : mark.column = indent)
    (fuel : Nat) (lineBreak emptyLines : List Char) (indentedBefore : Bool) :
    ∃ mark', mark'.column = column ∧
      blockLinesFrom false indent (fuel + 2) lineBreak emptyLines indentedBefore
          ⟨line ++ b :: (breaks ++ (List.replicate column ' ' ++ body)), mark⟩ =
        some ⟨lineBreak ++ emptyLines ++ line, [b], breaks, ⟨body, mark'⟩⟩ := by
  have hstart := head?_not_isSeparator hbody
  obtain ⟨widest, mark', hmark', hgap⟩ := @exists_blockGap_eq indent breaks body column
    ((mark.pastAll line).down b.utf8Size) rfl hbreaks hstart.1 (Nat.le_of_lt hcolumn) (by omega)
    (.inr hstart.2)
  obtain ⟨indented, hread⟩ := @blockLinesFrom_line indent (fuel + 1) lineBreak emptyLines line _ b
    indentedBefore mark hmark hline hb _ hgap
  have hleft : (⟨body, mark'⟩ : Cursor).column < indent := by
    rw [Cursor.column, hmark']
    exact hcolumn
  refine ⟨mark', hmark', ?_⟩
  rw [hread, blockLinesFrom_stop hleft, Option.map_some, List.append_nil]

/-- The last line of a text, with or without line ends behind it. -/
theorem exists_blockLinesFrom_end {column : Nat} {body : List Char} (hcolumn : column < indent)
    (hbody : body.head?.any isSeparator = false) {line breaks : List Char}
    (hline : ∀ c ∈ line, isBreak c = false) (hne : line ≠ [])
    (hbreaks : ∀ c ∈ breaks, isShownBreak c = true) {mark : Mark} (hmark : mark.column = indent)
    (fuel : Nat) (lineBreak emptyLines : List Char) (indentedBefore : Bool) :
    ∃ lastBreak emptyBehind mark', Ending (line ++ breaks) line lastBreak emptyBehind ∧
      mark'.column = column ∧
      blockLinesFrom false indent (fuel + 2) lineBreak emptyLines indentedBefore
          ⟨endedLines indent false (line ++ breaks) ++ (List.replicate column ' ' ++ body), mark⟩ =
        some ⟨lineBreak ++ emptyLines ++ line, lastBreak, emptyBehind, ⟨body, mark'⟩⟩ := by
  have hlast : line.getLast?.any (fun c => !isBreak c) = true :=
    any_getLast?_of_forall (fun c hc => by rw [hline c hc]; rfl) hne
  rw [endedLines_append hline, List.append_assoc]
  cases breaks with
  | nil =>
    obtain ⟨mark', hmark', hread⟩ := @exists_blockLinesFrom_last indent column body hcolumn hbody
      line [] '\n' hline (by decide) (List.forall_mem_nil _) mark hmark fuel lineBreak emptyLines
      indentedBefore
    rw [List.append_nil]
    exact ⟨['\n'], [], mark', .within hlast, hmark', hread⟩
  | cons b breaks =>
    have hends : ∀ c ∈ b :: breaks, isBreak c = true := fun c hc =>
      (isShownBreak_iff.1 (hbreaks c hc)).2
    obtain ⟨mark', hmark', hread⟩ := @exists_blockLinesFrom_last indent column body hcolumn hbody
      line breaks b hline (hbreaks b (List.mem_cons_self ..))
      (fun c hc => hbreaks c (List.mem_cons_of_mem _ hc)) mark hmark fuel lineBreak emptyLines
      indentedBefore
    rw [endedLines_breaks hends (List.cons_ne_nil _ _)]
    exact ⟨[b], breaks, mark', .behind hlast hends, hmark', hread⟩

/-- A line of a text that goes on behind it. -/
theorem exists_blockLinesFrom_next {line breaks rest : List Char} {b c : Char}
    (hline : ∀ d ∈ line, isBreak d = false) (hbreaks : ∀ d ∈ b :: breaks, isShownBreak d = true)
    (hc : isBreak c = false) (hindent : 0 < indent) {mark : Mark} (hmark : mark.column = indent)
    (fuel : Nat) (lineBreak emptyLines : List Char) (indentedBefore : Bool)
    (behind : List Char) : ∃ indented mark', mark'.column = indent ∧
      blockLinesFrom false indent (fuel + 1) lineBreak emptyLines indentedBefore
          ⟨endedLines indent false (line ++ (b :: breaks ++ c :: rest)) ++ behind, mark⟩ =
        (blockLinesFrom false indent fuel [b] breaks indented
          ⟨endedLines indent false (c :: rest) ++ behind, mark'⟩).map fun tail =>
            { tail with text := lineBreak ++ emptyLines ++ line ++ tail.text } := by
  obtain ⟨widest, mark', hmark', hgap⟩ := @exists_blockGap_eq indent breaks
    (endedLines indent false (c :: rest) ++ behind) indent ((mark.pastAll line).down b.utf8Size) rfl
    (fun d hd => hbreaks d (List.mem_cons_of_mem _ hd)) (any_isBreak_endedLines hc rest _)
    (Nat.le_refl _) (Nat.ne_of_gt hindent) (.inl rfl)
  obtain ⟨indented, hread⟩ := @blockLinesFrom_line indent fuel lineBreak emptyLines line _ b
    indentedBefore mark hmark hline (hbreaks b (List.mem_cons_self ..)) _ hgap
  refine ⟨indented, mark', hmark', ?_⟩
  rw [endedLines_append hline, endedLines_breaks_append
    (fun d hd => (isShownBreak_iff.1 (hbreaks d hd)).2) false (by simp) hc, indentation]
  simpa only [List.append_assoc, List.cons_append] using hread

/-- **The lines of a text are read back** up to what lies further to the left. -/
theorem exists_blockLinesFrom_eq {column : Nat} {body : List Char} (hcolumn : column < indent)
    (hbody : body.head?.any isSeparator = false) {text : List Char} (hne : text ≠ [])
    (hhead : text.head?.any isBreak = false) (hshown : ∀ c ∈ text, isShown c = true) {fuel : Nat}
    (hfuel : text.length < fuel) {mark : Mark} (hmark : mark.column = indent)
    (lineBreak emptyLines : List Char) (indentedBefore : Bool) :
    ∃ kept lastBreak emptyBehind mark', Ending text kept lastBreak emptyBehind ∧
      mark'.column = column ∧
      blockLinesFrom false indent fuel lineBreak emptyLines indentedBefore
          ⟨endedLines indent false text ++ (List.replicate column ' ' ++ body), mark⟩ =
        some ⟨lineBreak ++ emptyLines ++ kept, lastBreak, emptyBehind, ⟨body, mark'⟩⟩ := by
  have hlines := inWords isBreak text
  induction hlines generalizing fuel mark lineBreak emptyLines indentedBefore with
  | @last line hline =>
    have hlength := List.length_pos_iff.2 hne
    obtain ⟨fuel, rfl⟩ : ∃ n, fuel = n + 2 := ⟨fuel - 2, by omega⟩
    have hend := @exists_blockLinesFrom_end indent column body hcolumn hbody line [] hline hne
      (List.forall_mem_nil _) mark hmark fuel lineBreak emptyLines indentedBefore
    rw [List.append_nil] at hend
    exact ⟨line, hend⟩
  | @gap line breaks rest b hline hbreaks hrest _ ih =>
    have hlineNe : line ≠ [] := word_ne_nil (hbreaks b (List.mem_cons_self ..)) hhead
    have hbreaks : ∀ c ∈ b :: breaks, isShownBreak c = true := fun c hc =>
      isShownBreak_iff.2
        ⟨hshown c (List.mem_append_right _ (List.mem_append_left _ hc)), hbreaks c hc⟩
    simp only [List.length_append, List.length_cons] at hfuel
    cases rest with
    | nil =>
      obtain ⟨fuel, rfl⟩ : ∃ n, fuel = n + 2 := ⟨fuel - 2, by omega⟩
      rw [List.append_nil]
      exact ⟨line, exists_blockLinesFrom_end hcolumn hbody hline hlineNe hbreaks hmark fuel
        lineBreak emptyLines indentedBefore⟩
    | cons c rest =>
      obtain ⟨fuel, rfl⟩ : ∃ n, fuel = n + 1 := ⟨fuel - 1, by omega⟩
      obtain ⟨indented, mark₁, hmark₁, hline'⟩ := @exists_blockLinesFrom_next indent line breaks
        rest b c hline hbreaks hrest (Nat.zero_lt_of_lt hcolumn) mark hmark fuel lineBreak
        emptyLines indentedBefore (List.replicate column ' ' ++ body)
      have hshorter : (c :: rest).length < fuel := by
        rw [List.length_cons] at hfuel ⊢
        omega
      obtain ⟨kept, lastBreak, emptyBehind, mark', hending, hmark', hread⟩ :=
        ih (List.cons_ne_nil c rest) hrest
          (fun d hd => hshown d (List.mem_append_right _ (List.mem_append_right _ hd))) hshorter
          hmark₁ [b] breaks indented
      refine ⟨line ++ (b :: breaks ++ kept), lastBreak, emptyBehind, mark', ?_, hmark', ?_⟩
      · rw [← List.append_assoc, ← List.append_assoc]
        exact hending.append _
      · rw [hline', hread, Option.map_some]
        simp only [List.append_assoc, List.cons_append, List.nil_append]

end

end Yaml
end CurveSheet
