/-
# Sessions in documents

A session is a mapping, and all of its fields may be left out:

| field | value |
| --- | --- |
| `x`, `y` | a mapping with `min` and `max`, each a number or a text |
| `width`, `height` | an integer that 32 bits hold |
| `grid` | a boolean |
| `rows` | a sequence of mappings with `text` and perhaps `color` |

Other fields are ignored.  Where a mapping or a sequence belongs, nothing written
counts as an empty one.  Aliases count as what they mean.  Values are read in the
order of the document and the first problem ends the reading; it is placed at the
value that has it, or at the mapping if it is the mapping's.
-/

import CurveSheet.Session.Basic
import CurveSheet.Session.Fault
import CurveSheet.Yaml.Document
import CurveSheet.Yaml.Meaning

namespace CurveSheet
namespace Session

open Yaml Plot

/-- Reading values; the state counts the aliases that were followed. -/
abbrev Reading := StateT Nat (Except Fault)

/-- A place in a document, by the steps that lead to it. -/
structure Site where
  document : Document
  path : Path

/-- A place one step further on. -/
def Site.within (site : Site) (step : PathStep) : Site := { site with path := site.path ++ [step] }

/-- Reading ends with a problem. -/
def Site.fail {α : Type} (site : Site) (mark : Mark) (what : Problem) : Reading α :=
  throw (.problem site.path mark what)

/-- No more collections than these may lie in each other. -/
def maxDepth : Nat := 128

/-- No more aliases are followed than this many times the size of the document. -/
def aliasFactor : Nat := 100

/-- What a node holds, or what its alias means. -/
def Site.content (site : Site) : Node Nat → Reading Content
  | .scalar mark _ scalar => pure (.scalar mark scalar)
  | .sequence mark _ tag items => pure (.sequence mark tag items)
  | .mapping mark _ tag entries => pure (.mapping mark tag entries)
  | .alias _ number => do
    let followed ← get
    if aliasFactor * site.document.size ≤ followed then throw .malformed
    else
      set (followed + 1)
      pure (site.document.target number)
  | .cut => throw .malformed

/-- A meaning that was met, for messages. -/
def Found.ofMeaning : Meaning → Found
  | .null => .unit
  | .boolean b => .boolean b
  | .integer n => .integer n
  | .real x => .real x
  | .text s => .text (String.ofList s)

/-- What a tag demands. -/
def Expected.ofCoreType : CoreType → Expected
  | .null => .null
  | .boolean => .aBoolean
  | .integer => .anInteger
  | .real => .aFloat

/-- The text of a scalar is not what its tag demands. -/
def tagProblem (scalar : Scalar) (type : CoreType) : Problem :=
  .wrongValue (.text (String.ofList scalar.text)) (.ofCoreType type)

/-- A content is not what was expected. -/
def mismatch (content : Content) (expected : Expected) : Problem :=
  match content with
  | .scalar _ scalar =>
    match scalar.meaning with
    | .ok meaning => .wrongType (.ofMeaning meaning) expected
    | .error type => tagProblem scalar type
  | .sequence _ _ _ => .wrongType .sequence expected
  | .mapping _ _ _ => .wrongType .mapping expected

/-- Reading ends because a content is not what was expected. -/
def Site.refuse {α : Type} (site : Site) (content : Content) (expected : Expected) : Reading α :=
  site.fail content.mark (mismatch content expected)

/-- An integer that 32 bits hold. -/
def readNatural (site : Site) (node : Node Nat) : Reading UInt32 := do
  let content ← site.content node
  match content with
  | .scalar mark scalar =>
    match if scalar.isLiteralOf .integer then natural? (2 ^ 64) scalar.text else none with
    | none => site.refuse content .natural
    | some n =>
      if n < 2 ^ 32 then pure (UInt32.ofNat n)
      else site.fail mark (.wrongValue (.integer n) .natural)
  | _ => site.refuse content .natural

/-- A boolean. -/
def readBoolean (site : Site) (node : Node Nat) : Reading Bool := do
  let content ← site.content node
  match content with
  | .scalar _ scalar =>
    match if scalar.isLiteralOf .boolean then boolean? scalar.text else none with
    | none => site.refuse content .boolean
    | some b => pure b
  | _ => site.refuse content .boolean

/-- The text of a scalar, whatever it stands for. -/
def readText (site : Site) (node : Node Nat) : Reading String := do
  let content ← site.content node
  match content with
  | .scalar _ scalar => pure (String.ofList scalar.text)
  | _ => site.refuse content .text

/-- The name of a field. -/
def readName (site : Site) (key : Node Nat) : Reading String := do
  let content ← site.content key
  match content with
  | .scalar _ scalar => pure (String.ofList scalar.text)
  | _ => site.refuse content .fieldName

/-- The step from a mapping to the value of a key. -/
def stepOf : Node Nat → PathStep
  | .scalar _ _ scalar => .key (String.ofList scalar.text)
  | _ => .unnamed

/-- The pairs of a mapping and its place. -/
def readEntries (site : Site) (expected : Expected) (node : Node Nat) :
    Reading (Mark × List (Node Nat × Node Nat)) := do
  let content ← site.content node
  match content with
  | .mapping mark _ entries => pure (mark, entries)
  | .scalar mark scalar =>
    if scalar.isVoid then pure (mark, []) else site.refuse content expected
  | _ => site.refuse content expected

/-- Reads the fields of a mapping one after the other; `field` says what the value of a name,
at its place, adds to what was read before. -/
def readFields {σ : Type} (site : Site) (field : σ → String → Site → Node Nat → Reading σ) :
    σ → List (Node Nat × Node Nat) → Reading σ
  | got, [] => pure got
  | got, (key, value) :: rest => do
    let name ← readName site key
    let next ← field got name (site.within (stepOf key)) value
    readFields site field next rest

/-- A field that may be given once; `site` and `mark` are those of the mapping. -/
def once {α : Type} (site : Site) (mark : Mark) (name : String) (got : Option α)
    (value : Reading α) : Reading (Option α) :=
  if got.isSome then site.fail mark (.duplicateField name) else some <$> value

/-- The bound that a scalar is, if it is one. -/
def readScalarBound (site : Site) (mark : Mark) (scalar : Scalar) : Reading (Option BoundValue) :=
  if isLocalTag scalar.tag then throw .malformed
  else match scalar.meaning with
    | .error type => site.fail mark (tagProblem scalar type)
    | .ok (.integer n) =>
      if -(2 ^ 63) ≤ n ∧ n < 2 ^ 64 then pure (some (.number (.ofInt n)))
      else site.fail mark (.wrongType (.integer n) .anything)
    | .ok (.real x) => pure (some (.number x))
    | .ok (.text s) => pure (some (.text (String.ofList s)))
    | .ok _ => pure none

/-- Looks at values one after the other, those behind position `index`. -/
def examineItems (examine : Site → Node Nat → Reading (Option BoundValue)) (site : Site) :
    (index : Nat) → List (Node Nat) → Reading Unit
  | _, [] => pure ()
  | index, item :: rest => do
    let _ ← examine (site.within (.item index)) item
    examineItems examine site (index + 1) rest

/-- Looks at pairs one after the other. -/
def examineEntries (examine : Site → Node Nat → Reading (Option BoundValue)) (site : Site) :
    List (Node Nat × Node Nat) → Reading Unit
  | [] => pure ()
  | (key, value) :: rest => do
    let _ ← examine site key
    let _ ← examine (site.within (stepOf key)) value
    examineEntries examine site rest

/-- The bound that a node is, if it is one.  Collections are none, but what lies in them is
looked at all the same, down to a depth. -/
def examine : (depth : Nat) → Site → Node Nat → Reading (Option BoundValue)
  | depth, site, node => do
    match ← site.content node with
    | .scalar mark scalar => readScalarBound site mark scalar
    | .sequence _ tag items =>
      match depth, isLocalTag tag with
      | depth + 1, false => do
        examineItems (examine depth) site 0 items
        pure none
      | _, _ => throw .malformed
    | .mapping _ tag entries =>
      match depth, isLocalTag tag with
      | depth + 1, false => do
        examineEntries (examine depth) site entries
        pure none
      | _, _ => throw .malformed

/-- A bound; if there is none, the problem is that of the axis. -/
def readBound (axis : Site) (mark : Mark) (site : Site) (node : Node Nat) : Reading BoundValue := do
  match ← examine (maxDepth - 2) site node with
  | some bound => pure bound
  | none => axis.fail mark .noBound

/-- The fields of an axis that were read. -/
structure AxisFields where
  min : Option BoundValue := none
  max : Option BoundValue := none

/-- Reads a field of an axis. -/
def AxisFields.read (axis : Site) (mark : Mark) (got : AxisFields) (name : String) (site : Site)
    (node : Node Nat) : Reading AxisFields := do
  if name = "min" then
    pure { got with min := ← once axis mark name got.min (readBound axis mark site node) }
  else if name = "max" then
    pure { got with max := ← once axis mark name got.max (readBound axis mark site node) }
  else pure got

/-- The bounds of an axis. -/
def readAxis (site : Site) (node : Node Nat) : Reading AxisBounds := do
  let (mark, entries) ← readEntries site .bounds node
  let got ← readFields site (AxisFields.read site mark) {} entries
  pure ⟨got.min.getD AxisBounds.default.min, got.max.getD AxisBounds.default.max⟩

/-- A colour, or none where null is written; `row` and `mark` are those of the row. -/
def readColour (row : Site) (mark : Mark) (site : Site) (node : Node Nat) :
    Reading (Option Colour) := do
  let content ← site.content node
  match content with
  | .scalar _ scalar =>
    let colour : Option Colour := some ⟨String.ofList scalar.text⟩
    if scalar.style ≠ .plain then pure colour
    else match scalar.tag with
      | none => pure (if scalar.text.isEmpty || isNullWord scalar.text then none else colour)
      | some tag =>
        if tag ≠ CoreType.null.tag then pure colour
        else if isNullWord scalar.text then pure none
        else row.fail mark (tagProblem scalar .null)
  | _ => site.refuse content .text

/-- The fields of a row that were read. -/
structure RowFields where
  text : Option String := none
  colour : Option (Option Colour) := none

/-- Reads a field of a row. -/
def RowFields.read (row : Site) (mark : Mark) (got : RowFields) (name : String) (site : Site)
    (node : Node Nat) : Reading RowFields := do
  if name = "text" then
    pure { got with text := ← once row mark name got.text (readText site node) }
  else if name = "color" then
    pure { got with colour := ← once row mark name got.colour (readColour row mark site node) }
  else pure got

/-- A row. -/
def readRow (site : Site) (node : Node Nat) : Reading SessionRow := do
  let (mark, entries) ← readEntries site .row node
  let got ← readFields site (RowFields.read site mark) {} entries
  match got.text with
  | some text => pure ⟨text, got.colour.getD none⟩
  | none => site.fail mark (.missingField "text")

/-- Rows, of which the first is at position `index`. -/
def readRowsFrom (site : Site) : (index : Nat) → List (Node Nat) → Reading (List SessionRow)
  | _, [] => pure []
  | index, item :: rest => do
    let row ← readRow (site.within (.item index)) item
    let others ← readRowsFrom site (index + 1) rest
    pure (row :: others)

/-- The rows. -/
def readRows (site : Site) (node : Node Nat) : Reading (List SessionRow) := do
  let content ← site.content node
  match content with
  | .sequence _ _ items => readRowsFrom site 0 items
  | .scalar _ scalar => if scalar.isVoid then pure [] else site.refuse content .sequence
  | _ => site.refuse content .sequence

/-- The fields of a session that were read. -/
structure SessionFields where
  x : Option AxisBounds := none
  y : Option AxisBounds := none
  width : Option UInt32 := none
  height : Option UInt32 := none
  grid : Option Bool := none
  rows : Option (List SessionRow) := none

/-- Reads a field of a session. -/
def SessionFields.read (top : Site) (mark : Mark) (got : SessionFields) (name : String)
    (site : Site) (node : Node Nat) : Reading SessionFields := do
  match name with
  | "x" => pure { got with x := ← once top mark name got.x (readAxis site node) }
  | "y" => pure { got with y := ← once top mark name got.y (readAxis site node) }
  | "width" => pure { got with width := ← once top mark name got.width (readNatural site node) }
  | "height" => pure { got with height := ← once top mark name got.height (readNatural site node) }
  | "grid" => pure { got with grid := ← once top mark name got.grid (readBoolean site node) }
  | "rows" => pure { got with rows := ← once top mark name got.rows (readRows site node) }
  | _ => pure got

/-- A session with the fields that were read. -/
def SessionFields.session (got : SessionFields) : Session :=
  ⟨got.x.getD default.x, got.y.getD default.y, got.width.getD default.width,
    got.height.getD default.height, got.grid.getD default.grid, got.rows.getD default.rows⟩

/-- The session in a document.  A problem in what could be read of the text comes before the
fault that it cannot be read to its end. -/
def readSession (document : Document) : Reading Session := do
  let top : Site := ⟨document, []⟩
  let (mark, entries) ← readEntries top .session document.root
  let got ← readFields top (SessionFields.read top mark) {} entries
  if document.complete then pure got.session else throw .malformed

/-- The session that a text holds; a text without a document holds the default one. -/
def parse (text : String) : Except Fault Session :=
  if Text.isBlankText text then .ok default
  else match Document.read? text.toList with
    | none => .ok default
    | some document => (readSession document).run' 0

end Session
end CurveSheet
