/-
# The tokens of a session's text

The text of a session has the tokens of the tree of its fields, whatever its texts and numbers
are (`map_kind_tokens_toYaml`).  The scanner takes line after line: it is before a line, the
line is a key with a written scalar behind it, and it is before the next one.
-/

import CurveSheet.Proofs.Yaml.Node.Tree
import CurveSheet.Proofs.Yaml.Scalar.Allowed
import CurveSheet.Proofs.Yaml.Token.Value
import CurveSheet.Session.Written

namespace CurveSheet
namespace Session

open Yaml Yaml.Scanner Plot

/-! ### The tree of a session -/

/-- A text in the style in which it is written. -/
def textTree (text : String) : Tree := .scalar text.toList (styleOf text.toList)

def boundTree : BoundValue → Tree
  | .number x => .scalar (Layout.yaml.chars x) .plain
  | .text s => textTree s

def axisTree (bounds : AxisBounds) : Tree :=
  .fields [("min", boundTree bounds.min), ("max", boundTree bounds.max)]

def sizeTree (size : UInt32) : Tree := .scalar (Nat.toDigits 10 size.toNat) .plain

def gridTree (grid : Bool) : Tree := .scalar (if grid then "true" else "false").toList .plain

def rowEntries (row : SessionRow) : List (String × Tree) :=
  ("text", textTree row.text) ::
    match row.colour with
    | some colour => [("color", textTree colour.name)]
    | none => []

/-- The fields before the rows. -/
def settingEntries (session : Session) : List (String × Tree) :=
  [("x", axisTree session.x), ("y", axisTree session.y), ("width", sizeTree session.width),
    ("height", sizeTree session.height), ("grid", gridTree session.grid)]

/-- The fields of a session. -/
def sessionEntries (session : Session) : List (String × Tree) :=
  settingEntries session ++ [("rows", .rows (session.rows.map rowEntries))]

/-! ### Lines of fields -/

/-- The text is a field of a block inside `n` others, with its key and a scalar. -/
inductive IsField (n : Nat) (name : String) : Tree → List Char → Prop where
  | mk {chars text : List Char} {style : ScalarStyle}
    (h : WrittenAs (indentStep * n + indentStep) chars text style) :
    IsField n name (.scalar text style) (name.toList ++ ':' :: ' ' :: chars)

theorem isField_word {n : Nat} {name : String} {word : List Char} (h : IsWord word) :
    IsField n name (.scalar word .plain) (name.toList ++ ':' :: ' ' :: (word ++ ['\n'])) :=
  .mk (.plain h.isPlain.1 h.isPlain.2)

theorem isField_textField (name text : String) :
    IsField 1 name (textTree text) (textField name text) := by
  have h : IsField 1 name (textTree text) (name.toList ++ ':' :: ' ' :: written valueIndent
      text.toList) := .mk (writtenAs_written (by decide) text.toList)
  rwa [textField, List.append_assoc]

theorem isField_boundField (name : String) (bound : BoundValue) :
    IsField 1 name (boundTree bound) (boundField name bound) := by
  cases bound with
  | number x =>
    rw [boundField, List.append_assoc, List.append_assoc]
    exact isField_word (isWord_chars x)
  | text s => exact isField_textField name s

theorem isField_sizeLine (name : String) (size : UInt32) :
    IsField 0 name (sizeTree size) (sizeLine name size) := by
  rw [sizeLine, List.append_assoc, List.append_assoc]
  exact isField_word (isWord_toDigits size.toNat)

theorem isField_gridLine (grid : Bool) : IsField 0 "grid" (gridTree grid) (gridLine grid) := by
  have hword : IsWord (if grid then "true" else "false").toList := by
    cases grid <;> exact ⟨List.all_eq_true.1 (by decide), by decide, by decide⟩
  exact isField_word hword

section

variable {n column : Nat} {name : String} {tree : Tree} {line body : List Char}
  {kinds : List TokenKind} {s : Scanner}

/-- A field is taken up to the next line. -/
theorem IsField.exists_runs (h : IsField n name tree line)
    (hs : BeforeEntry n (line ++ (List.replicate column ' ' ++ body)) kinds s)
    (hname : IsName name.toList) (hcolumn : column ≤ indentStep * n) (hbody : StartsLine body) :
    ∃ t, Runs s t ∧
      BeforeLine (n + 1) column body (kinds ++ Tree.entriesKinds [(name, tree)]) t := by
  obtain ⟨hwritten⟩ := h
  obtain ⟨t, hruns, hline⟩ := exists_runs_field (by simpa using hs) hname hwritten hcolumn hbody
  exact ⟨t, hruns, by simpa [Tree.entriesKinds, Tree.kinds, keyKinds] using hline⟩

theorem IsField.startsLine (h : IsField n name tree line) (hname : IsName name.toList)
    (after : List Char) : StartsLine (line ++ after) := by
  obtain ⟨hwritten⟩ := h
  rw [List.append_assoc]
  exact hname.startsLine _

end

/-! ### Names of fields -/

/-- The names of all fields of a session. -/
def fieldNames : List String :=
  ["x", "y", "min", "max", "width", "height", "grid", "rows", "text", "color"]

theorem isName_of_mem {name : String} (h : name ∈ fieldNames) : IsName name.toList := by
  have hall : ∀ name ∈ fieldNames, name.toList ≠ [] ∧ name.toList.all isLetter = true ∧
      Text.byteCount name.toList ≤ simpleKeyLimit := by decide
  exact ⟨(hall name h).1, List.all_eq_true.1 (hall name h).2.1, (hall name h).2.2⟩

/-! ### Fields of the session -/

/-- The lines are fields of the outermost block. -/
structure AreFields (lines : List Char) (entries : List (String × Tree)) : Prop where
  startsLine : ∀ after, StartsLine (lines ++ after)
  exists_runs : ∀ {body kinds s}, BeforeEntry 0 (lines ++ body) kinds s → StartsLine body →
    ∃ t, Runs s t ∧ BeforeEntry 0 body (kinds ++ Tree.entriesKinds entries) t

theorem AreFields.append {first second : List Char} {entries others : List (String × Tree)}
    (hfirst : AreFields first entries) (hsecond : AreFields second others) :
    AreFields (first ++ second) (entries ++ others) where
  startsLine after := by
    rw [List.append_assoc]
    exact hfirst.startsLine _
  exists_runs {body kinds s} hs hbody := by
    rw [List.append_assoc] at hs
    obtain ⟨t, hruns, ht⟩ := hfirst.exists_runs hs (hsecond.startsLine body)
    obtain ⟨u, hruns', hu⟩ := hsecond.exists_runs ht hbody
    exact ⟨u, hruns.trans hruns', by rwa [Tree.entriesKinds_append, ← List.append_assoc]⟩

theorem IsField.areFields {name : String} {tree : Tree} {line : List Char}
    (h : IsField 0 name tree line) (hname : name ∈ fieldNames) :
    AreFields line [(name, tree)] where
  startsLine := h.startsLine (isName_of_mem hname)
  exists_runs {body kinds s} hs hbody := by
    obtain ⟨t, hruns, hline⟩ := @IsField.exists_runs 0 0 name tree line body kinds s h hs
      (isName_of_mem hname) (Nat.le_refl 0) hbody
    have hentry := hline.beforeEntry (n := 0) (Nat.zero_le 1)
    rw [show blockMoves (0 + 1) (0 + 1) = [] from rfl, List.append_nil] at hentry
    exact ⟨t, hruns, hentry⟩

/-- The lines of an axis are a field whose value is a block of two fields. -/
theorem areFields_axisLines {name : String} (bounds : AxisBounds) (hname : name ∈ fieldNames) :
    AreFields (axisLines name bounds) [(name, axisTree bounds)] := by
  have hmin := isField_boundField "min" bounds.min
  have hmax := isField_boundField "max" bounds.max
  have hminName : IsName "min".toList := isName_of_mem (by decide)
  have hmaxName : IsName "max".toList := isName_of_mem (by decide)
  have hlines : ∀ body, axisLines name bounds ++ body = name.toList ++ ':' :: '\n' ::
      (List.replicate 2 ' ' ++ (boundField "min" bounds.min ++ (List.replicate 2 ' ' ++
        (boundField "max" bounds.max ++ (List.replicate 0 ' ' ++ body))))) := fun body => by
    simp only [axisLines, List.append_assoc]
    rfl
  refine ⟨fun after => hlines after ▸ (isName_of_mem hname).startsLine _, ?_⟩
  intro body kinds s hs hbody
  rw [hlines] at hs
  obtain ⟨t₁, hruns₁, hline₁⟩ := exists_runs_header hs (isName_of_mem hname)
    (hmin.startsLine hminName _)
  obtain ⟨t₂, hruns₂, hline₂⟩ := hmin.exists_runs (hline₁.beforeEntry (n := 1) (Nat.le_refl 1))
    hminName (Nat.le_refl 2) (hmax.startsLine hmaxName _)
  obtain ⟨t₃, hruns₃, hline₃⟩ := hmax.exists_runs (hline₂.beforeEntry (n := 1) (Nat.le_succ 1))
    hmaxName (Nat.zero_le 2) hbody
  refine ⟨t₃, (hruns₁.trans hruns₂).trans hruns₃, ?_⟩
  have hentry := hline₃.beforeEntry (n := 0) (Nat.zero_le 2)
  simpa [axisTree, Tree.kinds, Tree.entriesKinds, keyKinds, blockMoves] using hentry

/-! ### Rows -/

/-- A row is the tokens of its fields behind a dash. -/
theorem exists_runs_row {level : Nat} {row : SessionRow} {body : List Char}
    {kinds : List TokenKind} {s : Scanner} (hlevel : 1 ≤ level)
    (hs : BeforeLine level 0 (rowLines row ++ body) kinds s) (hbody : StartsLine body) :
    ∃ t, Runs s t ∧ BeforeLine 2 0 body (kinds ++ (blockMoves level 1 ++
      .blockEntry :: .blockMappingStart :: Tree.entriesKinds (rowEntries row))) t := by
  obtain ⟨text, colour⟩ := row
  have htext := isField_textField "text" text
  have htextName : IsName "text".toList := isName_of_mem (by decide)
  have hcolourName : IsName "color".toList := isName_of_mem (by decide)
  cases colour with
  | none =>
    have hlines : rowLines ⟨text, none⟩ ++ body =
        '-' :: ' ' :: (textField "text" text ++ (List.replicate 0 ' ' ++ body)) := by
      simp [rowLines]
    rw [hlines] at hs
    obtain ⟨t, hruns, hline⟩ := exists_runs_dash (n := 0) hs hlevel (htext.startsLine htextName _)
    obtain ⟨u, hruns', hline'⟩ := htext.exists_runs (hline.beforeEntry (n := 1) (Nat.le_refl 1))
      htextName (Nat.zero_le 2) hbody
    refine ⟨u, hruns.trans hruns', ?_⟩
    simpa [rowEntries, Tree.entriesKinds, blockMoves] using hline'
  | some colour =>
    have hcolour := isField_textField "color" colour.name
    have hlines : rowLines ⟨text, some colour⟩ ++ body =
        '-' :: ' ' :: (textField "text" text ++ (List.replicate 2 ' ' ++
          (textField "color" colour.name ++ (List.replicate 0 ' ' ++ body)))) := by
      simp only [rowLines, List.append_assoc]
      rfl
    rw [hlines] at hs
    obtain ⟨t, hruns, hline⟩ := exists_runs_dash (n := 0) hs hlevel (htext.startsLine htextName _)
    obtain ⟨u, hruns', hline'⟩ := htext.exists_runs (hline.beforeEntry (n := 1) (Nat.le_refl 1))
      htextName (Nat.le_refl 2) (hcolour.startsLine hcolourName _)
    obtain ⟨v, hruns'', hline''⟩ := hcolour.exists_runs
      (hline'.beforeEntry (n := 1) (Nat.le_succ 1)) hcolourName (Nat.zero_le 2) hbody
    refine ⟨v, (hruns.trans hruns').trans hruns'', ?_⟩
    simpa [rowEntries, Tree.entriesKinds, blockMoves] using hline''

theorem startsLine_rowLines (rows : List SessionRow) : StartsLine (rows.flatMap rowLines) := by
  cases rows with
  | nil => exact ⟨rfl, by simp⟩
  | cons row rows => exact ⟨rfl, by simp [rowLines]⟩

/-- Rows are taken one after the other, up to the end of the text. -/
theorem exists_runs_rows {level : Nat} {rows : List SessionRow} {kinds : List TokenKind}
    {s : Scanner} (hlevel : 1 ≤ level) (hs : BeforeLine level 0 (rows.flatMap rowLines) kinds s) :
    ∃ t last kinds', Runs s t ∧ 1 ≤ last ∧ BeforeLine last 0 [] kinds' t ∧
      kinds' ++ blockMoves last 1 =
        kinds ++ (blockMoves level 1 ++ Tree.itemsKinds (rows.map rowEntries)) := by
  induction rows generalizing level kinds s with
  | nil => exact ⟨s, level, kinds, .refl s, hlevel, hs, by simp [Tree.itemsKinds]⟩
  | cons row rows ih =>
    obtain ⟨t, hruns, hline⟩ := exists_runs_row hlevel hs (startsLine_rowLines rows)
    obtain ⟨u, last, kinds', hruns', hlast, hend, hkinds⟩ := ih (Nat.le_succ 1) hline
    refine ⟨u, last, kinds', hruns.trans hruns', hlast, hend, ?_⟩
    rw [hkinds]
    simp [Tree.itemsKinds, blockMoves]

/-- The rows are the last field. -/
theorem exists_runs_rowsLines {rows : List SessionRow} {kinds : List TokenKind} {s : Scanner}
    (hs : BeforeEntry 0 (rowsLines rows) kinds s) :
    ∃ t last kinds', Runs s t ∧ 1 ≤ last ∧ BeforeLine last 0 [] kinds' t ∧
      kinds' ++ blockMoves last 1 =
        kinds ++ Tree.entriesKinds [("rows", .rows (rows.map rowEntries))] := by
  have hname : IsName "rows".toList := isName_of_mem (by decide)
  cases rows with
  | nil =>
    obtain ⟨t, hruns, hline⟩ := @exists_runs_emptyField 0 0 "rows".toList [] kinds s hs hname
      ⟨rfl, by simp⟩
    refine ⟨t, 1, _, hruns, Nat.le_refl 1, hline, ?_⟩
    simp [Tree.entriesKinds, Tree.kinds, keyKinds, blockMoves]
  | cons row rows =>
    obtain ⟨t, hruns, hline⟩ := @exists_runs_header 0 0 "rows".toList
      ((row :: rows).flatMap rowLines) kinds s hs hname (startsLine_rowLines _)
    obtain ⟨u, last, kinds', hruns', hlast, hend, hkinds⟩ := exists_runs_rows (Nat.le_refl 1) hline
    refine ⟨u, last, kinds', hruns.trans hruns', hlast, hend, ?_⟩
    rw [hkinds]
    simp [Tree.entriesKinds, Tree.kinds, Tree.itemsKinds, keyKinds, blockMoves]

/-! ### Characters -/

theorem all_isAllowed_name {name : String} (h : name ∈ fieldNames) :
    name.toList.all isAllowed = true :=
  List.all_eq_true.2 fun c hc =>
    isAllowed_of_isWordChar (isWordChar_of_isLetter ((isName_of_mem h).letters c hc))

theorem all_isAllowed_textField {name : String} (h : name ∈ fieldNames) (text : String) :
    (textField name text).all isAllowed = true := by
  have hwritten : (written valueIndent text.toList).all isAllowed = true :=
    List.all_eq_true.2 fun _ hc => isAllowed_of_mem_written hc
  simp only [textField, List.all_append, all_isAllowed_name h, hwritten, Bool.and_true]
  rfl

theorem all_isAllowed_boundField {name : String} (h : name ∈ fieldNames) (bound : BoundValue) :
    (boundField name bound).all isAllowed = true := by
  cases bound with
  | number x =>
    simp only [boundField, List.all_append, all_isAllowed_name h, (isWord_chars x).all_isAllowed]
    rfl
  | text s => exact all_isAllowed_textField h s

theorem all_isAllowed_rowLines (row : SessionRow) : (rowLines row).all isAllowed = true := by
  obtain ⟨text, colour⟩ := row
  have htext := all_isAllowed_textField (by decide : "text" ∈ fieldNames) text
  cases colour with
  | none =>
    simp only [rowLines, List.all_append, htext]
    rfl
  | some colour =>
    have hcolour := all_isAllowed_textField (by decide : "color" ∈ fieldNames) colour.name
    simp only [rowLines, List.all_append, htext, hcolour]
    rfl

/-- Every character of a session's text may occur in a document. -/
theorem all_isAllowed_toYaml (session : Session) :
    (toYaml session).toList.all isAllowed = true := by
  have haxis {name : String} (h : name ∈ fieldNames) (bounds : AxisBounds) :
      (axisLines name bounds).all isAllowed = true := by
    simp only [axisLines, List.all_append, all_isAllowed_name h,
      all_isAllowed_boundField (by decide : "min" ∈ fieldNames),
      all_isAllowed_boundField (by decide : "max" ∈ fieldNames)]
    rfl
  have hsize {name : String} (h : name ∈ fieldNames) (size : UInt32) :
      (sizeLine name size).all isAllowed = true := by
    simp only [sizeLine, List.all_append, all_isAllowed_name h,
      (isWord_toDigits size.toNat).all_isAllowed]
    rfl
  have hgrid : (gridLine session.grid).all isAllowed = true := by
    cases session.grid <;> decide
  have hrows : (rowsLines session.rows).all isAllowed = true := by
    unfold rowsLines
    split
    · decide
    · have hlines : (session.rows.flatMap rowLines).all isAllowed = true := by
        simp only [List.all_flatMap, all_isAllowed_rowLines, List.all_eq_true, implies_true]
      rw [List.all_append, hlines]
      rfl
  rw [toYaml, String.toList_ofList]
  simp only [List.all_append, haxis (by decide : "x" ∈ fieldNames),
    haxis (by decide : "y" ∈ fieldNames), hsize (by decide : "width" ∈ fieldNames),
    hsize (by decide : "height" ∈ fieldNames), hgrid, hrows, Bool.and_true]

/-! ### The whole text -/

theorem startsLine_rowsLines (rows : List SessionRow) : StartsLine (rowsLines rows) := by
  have hname : IsName "rows".toList := isName_of_mem (by decide)
  cases rows with
  | nil => exact hname.startsLine _
  | cons row rows => exact hname.startsLine _

/-- The lines of the fields before the rows. -/
def settingLines (session : Session) : List Char :=
  axisLines "x" session.x ++ axisLines "y" session.y ++ sizeLine "width" session.width ++
    sizeLine "height" session.height ++ gridLine session.grid

theorem areFields_settingLines (session : Session) :
    AreFields (settingLines session) (settingEntries session) :=
  ((((areFields_axisLines session.x (by decide)).append
    (areFields_axisLines session.y (by decide))).append
    ((isField_sizeLine "width" session.width).areFields (by decide))).append
    ((isField_sizeLine "height" session.height).areFields (by decide))).append
    ((isField_gridLine session.grid).areFields (by decide))

/-- **The tokens of a session's text are those of its fields.** -/
theorem map_kind_tokens_toYaml (session : Session) :
    (Yaml.tokens (toYaml session).toList).map Token.kind =
      (Tree.fields (sessionEntries session)).kinds ++ [.streamEnd] := by
  have hlimit : readLimit (toYaml session).toList = none :=
    readLimit_eq_none_iff.2 (all_isAllowed_toYaml session)
  have htext : (toYaml session).toList = settingLines session ++ rowsLines session.rows :=
    String.toList_ofList
  have hfields := areFields_settingLines session
  have hstart := @beforeLine_here 0 (settingLines session ++ rowsLines session.rows) [] .start
    (hfields.startsLine _)
  obtain ⟨t, hruns, ht⟩ := hfields.exists_runs (hstart.beforeEntry (n := 0) (Nat.le_refl 0))
    (startsLine_rowsLines session.rows)
  obtain ⟨u, last, kinds, hruns', hlast, hu, hkinds⟩ := exists_runs_rowsLines ht
  obtain ⟨fuel, hfuel, hrun⟩ := hruns.trans hruns' _ (Nat.lt_succ_self _)
  have hend := exists_run_eq_end hu hlast hfuel
  rw [← List.append_assoc, hkinds, List.append_assoc, ← hrun] at hend
  rw [Yaml.tokens, hlimit, htext, List.map_reverse]
  refine hend.trans ?_
  simp [Tree.kinds, sessionEntries, Tree.entriesKinds_append, kindsOf, blockMoves]

end Session
end CurveSheet
