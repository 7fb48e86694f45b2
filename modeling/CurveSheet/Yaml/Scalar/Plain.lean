/-
# Plain scalars

A plain scalar is written without quotes.  Its words end at separators, at a colon
before a separator, and inside brackets also at the characters that structure
them.  It goes on over line ends as long as the lines are indented, and ends
before a comment or a document marker.
-/

import CurveSheet.Yaml.Scalar.Gap

namespace CurveSheet
namespace Yaml

/-- Inside brackets a colon may not stand right before a character that structures them. -/
def isStrayColon (next : Option Char) : Bool := next.any fun c => isFlowIndicator c || c == '?'

/-- A word of a plain scalar, and what follows it. -/
def plainWord (inFlow : Bool) : List Char → Option (List Char × List Char)
  | [] => some ([], [])
  | c :: rest =>
    if isSeparator c then some ([], c :: rest)
    else if inFlow && c == ':' && isStrayColon rest.head? then none
    else if (c == ':' && endsWord rest.head?) || (inFlow && isFlowIndicator c) then
      some ([], c :: rest)
    else (plainWord inFlow rest).map fun (word, behind) => (c :: word, behind)

/-- A plain scalar as it was read. -/
structure PlainText where
  text : List Char
  /-- A line has ended behind the last word. -/
  broken : Bool
  cursor : Cursor

/-- Reads the words of a plain scalar from the cursor on, with the gap before it. -/
def plainFrom (inFlow : Bool) (floor : Nat) : (fuel : Nat) → Gap → Cursor → Option PlainText
  | 0, _, _ => none
  | fuel + 1, gap, cursor =>
    if cursor.atDocumentMarker || cursor.peek == some '#' then some ⟨[], gap.broken, cursor⟩
    else match plainWord inFlow cursor.rest with
      | none => none
      | some ([], _) => some ⟨[], gap.broken, cursor⟩
      | some (word, rest) =>
        let behind : Cursor := ⟨rest, cursor.mark.pastAll word⟩
        let text := gap.text ++ word
        if rest.head?.any isSeparator then
          match behind.scanGap floor .none with
          | none => none
          | some (next, ahead) =>
            if !inFlow && ahead.column < floor then some ⟨text, next.broken, ahead⟩
            else (plainFrom inFlow floor fuel next ahead).map fun tail =>
              { tail with text := text ++ tail.text }
        else some ⟨text, false, behind⟩

/-- Reads a plain scalar whose further lines start at the column `floor` or behind it. -/
def Cursor.plain (cursor : Cursor) (inFlow : Bool) (floor : Nat) : Option PlainText :=
  plainFrom inFlow floor (cursor.rest.length + 1) .none cursor

end Yaml
end CurveSheet
