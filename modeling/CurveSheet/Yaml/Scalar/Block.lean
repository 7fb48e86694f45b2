/-
# Block scalars

A block scalar starts with `|` or `>`, an indentation and a mark for its end in
either order, and a line end.  Its text is made of the lines that follow, less
their indentation, which is that of the first line that is not empty unless it was
given.  After `|` line ends stand for themselves; after `>` the line end between
two lines that start without a space is folded.

| mark | line ends behind the last line |
| --- | --- |
| `-` | none |
| no mark | the first |
| `+` | all |
-/

import CurveSheet.Yaml.Cursor

namespace CurveSheet
namespace Yaml

/-- What becomes of the line ends behind the last line. -/
inductive Chomping where
  | strip
  | clip
  | keep
  deriving DecidableEq

/-- The mark of a chomping. -/
def chompingOf? (c : Char) : Option Chomping :=
  if c = '-' then some .strip else if c = '+' then some .keep else none

/-- An indentation mark: a digit other than zero. -/
def indentMark? (c : Char) : Option Nat :=
  if '1' ≤ c ∧ c ≤ '9' then some (c.toNat - '0'.toNat) else none

/-- The marks of a block scalar: chomping, indentation or 0, and their number. -/
def blockMarks : List Char → Option (Chomping × Nat × Nat)
  | [] => some (.clip, 0, 0)
  | c :: rest =>
    match chompingOf? c with
    | some chomping =>
      match rest with
      | d :: _ =>
        if isDecimal d then (indentMark? d).map fun indent => (chomping, indent, 2)
        else some (chomping, 0, 1)
      | [] => some (chomping, 0, 1)
    | none =>
      if isDecimal c then
        (indentMark? c).map fun indent =>
          match rest.head?.bind chompingOf? with
          | some chomping => (chomping, indent, 2)
          | none => (.clip, indent, 1)
      else some (.clip, 0, 0)

/-- Empty lines and the indentation of the next line. -/
structure BlockGap where
  /-- The widest indentation that was passed. -/
  widest : Nat
  breaks : List Char
  cursor : Cursor

/-- Reads empty lines and indentation, of `indent` columns or, if that is 0, of any number. -/
def blockGapFrom (indent widest : Nat) (mark : Mark) : List Char → Option BlockGap
  | '\r' :: '\n' :: rest =>
    (blockGapFrom indent (max widest mark.column) (mark.down 2) rest).map fun gap =>
      { gap with breaks := '\n' :: gap.breaks }
  | c :: rest =>
    if isBreak c then
      (blockGapFrom indent (max widest mark.column) (mark.down c.utf8Size) rest).map fun gap =>
        { gap with breaks := breakChar c :: gap.breaks }
    else if (indent = 0 ∨ mark.column < indent) ∧ c = ' ' then
      blockGapFrom indent widest (mark.past c) rest
    else if (indent = 0 ∨ mark.column < indent) ∧ c = '\t' then none
    else some ⟨max widest mark.column, [], ⟨c :: rest, mark⟩⟩
  | [] => some ⟨max widest mark.column, [], ⟨[], mark⟩⟩

/-- Reads empty lines and indentation. -/
def Cursor.blockGap (cursor : Cursor) (indent : Nat) : Option BlockGap :=
  blockGapFrom indent 0 cursor.mark cursor.rest

/-- The lines of a block scalar: their text, the line end of the last one, the empty lines
behind it, and where they end. -/
structure BlockLines where
  text : List Char
  lastBreak : List Char
  emptyLines : List Char
  cursor : Cursor

/-- How the line end before a line counts. -/
def joint (folded : Bool) (lineBreak emptyLines : List Char) (indentedBefore indented : Bool) :
    List Char :=
  if folded && lineBreak == ['\n'] && !indentedBefore && !indented then
    if emptyLines.isEmpty then [' '] else []
  else lineBreak

/-- Reads the lines of a block scalar, given the line end and the empty lines before them and
whether the line before started with a space. -/
def blockLinesFrom (folded : Bool) (indent : Nat) :
    (fuel : Nat) → (lineBreak emptyLines : List Char) → (indentedBefore : Bool) → Cursor →
      Option BlockLines
  | 0, _, _, _, _ => none
  | fuel + 1, lineBreak, emptyLines, indentedBefore, cursor =>
    if cursor.column = indent ∧ cursor.rest ≠ [] then
      let indented := cursor.peek.any isGap
      let before := joint folded lineBreak emptyLines indentedBefore indented ++ emptyLines
      let (line, behind) := cursor.span fun c => !isBreak c
      let (nextBreak, ahead) := behind.lineEnd
      match ahead.blockGap indent with
      | none => none
      | some gap =>
        (blockLinesFrom folded indent fuel nextBreak gap.breaks indented gap.cursor).map
          fun tail => { tail with text := before ++ line ++ tail.text }
    else some ⟨[], lineBreak, emptyLines, cursor⟩

/-- The text of a block scalar. -/
def BlockLines.chomp (lines : BlockLines) : Chomping → List Char
  | .strip => lines.text
  | .clip => lines.text ++ lines.lastBreak
  | .keep => lines.text ++ lines.lastBreak ++ lines.emptyLines

/-- Reads the block scalar whose first mark is at the cursor.  `parent` is the indentation of
the block around it, -1 if there is none. -/
def Cursor.block (cursor : Cursor) (folded : Bool) (parent : Int) : Option (List Char × Cursor) :=
  let start := cursor.skip 1
  match blockMarks start.rest with
  | none => none
  | some (chomping, given, width) =>
    let behind := (start.skip width).skipToLineEnd
    if !endsLine behind.peek then none
    else
      let first := behind.lineEnd.2
      let indent := if given = 0 then 0 else parent.toNat + given
      match first.blockGap indent with
      | none => none
      | some gap =>
        let floor := if indent = 0 then max gap.widest (max (parent + 1).toNat 1) else indent
        (blockLinesFrom folded floor (cursor.rest.length + 1) [] gap.breaks false gap.cursor).map
          fun lines => (lines.chomp chomping, lines.cursor)

end Yaml
end CurveSheet
