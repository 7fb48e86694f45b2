/-
# A place in a text and what follows it

Reading moves a cursor over the text.  A carriage return and the line feed after
it are one line end.
-/

import CurveSheet.Yaml.Character
import CurveSheet.Yaml.Mark

namespace CurveSheet
namespace Yaml

/-- What is left of a text, and where it starts. -/
structure Cursor where
  rest : List Char
  mark : Mark
  deriving DecidableEq

namespace Cursor

/-- The next character. -/
def peek (cursor : Cursor) : Option Char := cursor.rest.head?

/-- The character `n` places after the next one. -/
def peekAt (cursor : Cursor) (n : Nat) : Option Char := cursor.rest[n]?

/-- The column of the next character. -/
def column (cursor : Cursor) : Nat := cursor.mark.column

/-- Moves over `n` characters of a line. -/
def skip (cursor : Cursor) (n : Nat) : Cursor :=
  ⟨cursor.rest.drop n, cursor.mark.pastAll (cursor.rest.take n)⟩

/-- The characters that have a property, up to the first that has not, and the cursor
behind them.  They must be characters of one line. -/
def span (cursor : Cursor) (p : Char → Bool) : List Char × Cursor :=
  let taken := cursor.rest.takeWhile p
  (taken, ⟨cursor.rest.dropWhile p, cursor.mark.pastAll taken⟩)

/-- The line end at the cursor as it counts in a scalar, and the cursor behind it;
nothing if there is no line end. -/
def lineEnd (cursor : Cursor) : List Char × Cursor :=
  match cursor.rest with
  | '\r' :: '\n' :: rest => (['\n'], ⟨rest, cursor.mark.down 2⟩)
  | c :: rest =>
    if isBreak c then ([breakChar c], ⟨rest, cursor.mark.down c.utf8Size⟩) else ([], cursor)
  | [] => ([], cursor)

/-- The next three characters are `c`, at the start of a line, and a word ends behind them. -/
def atMarker (cursor : Cursor) (c : Char) : Bool :=
  cursor.column == 0 && cursor.rest.take 3 == [c, c, c] && endsWord (cursor.peekAt 3)

/-- A line `---` or `...` starts at the cursor. -/
def atDocumentMarker (cursor : Cursor) : Bool := cursor.atMarker '-' || cursor.atMarker '.'

/-- Moves over spaces and tabs, and over a comment up to the end of its line. -/
def skipToLineEnd (cursor : Cursor) : Cursor :=
  let behind := (cursor.span isGap).2
  if behind.peek = some '#' then (behind.span fun c => !isBreak c).2 else behind

end Cursor
end Yaml
end CurveSheet
