/-
# What stands between the words of a scalar

Between two words of a plain or quoted scalar stand spaces and tabs, or line ends
with the indentation of the lines that follow.  Spaces and tabs of one line stand
for themselves.  Of line ends the first is *folded*: alone it counts as a space,
and before others it counts for nothing.  A line or paragraph separator is not
folded.
-/

import CurveSheet.Yaml.Cursor

namespace CurveSheet
namespace Yaml

/-- Spaces and line ends between words. -/
structure Gap where
  /-- A line has ended, so spaces are indentation. -/
  broken : Bool
  blanks : List Char
  first : List Char
  more : List Char
  deriving DecidableEq

/-- Nothing between two words. -/
def Gap.none : Gap := ⟨false, [], [], []⟩

/-- A line end that counts for nothing. -/
def Gap.escaped : Gap := ⟨true, [], [], []⟩

/-- One more space or tab. -/
def Gap.addBlank (gap : Gap) (c : Char) : Gap :=
  if gap.broken then gap else { gap with blanks := gap.blanks ++ [c] }

/-- One more line end. -/
def Gap.addBreak (gap : Gap) (c : Char) : Gap :=
  if gap.broken then { gap with more := gap.more ++ [c] } else ⟨true, [], [c], []⟩

/-- What counts of a gap. -/
def Gap.text (gap : Gap) : List Char :=
  if gap.broken then
    if gap.first = ['\n'] then if gap.more.isEmpty then [' '] else gap.more
    else gap.first ++ gap.more
  else gap.blanks

/-- Reads a gap.  In a line behind the first, no tab may stand left of the column `floor`. -/
def scanGapFrom (floor : Nat) (gap : Gap) (mark : Mark) : List Char → Option (Gap × Cursor)
  | '\r' :: '\n' :: rest => scanGapFrom floor (gap.addBreak '\n') (mark.down 2) rest
  | c :: rest =>
    if isBreak c then scanGapFrom floor (gap.addBreak (breakChar c)) (mark.down c.utf8Size) rest
    else if isGap c then
      if gap.broken ∧ c = '\t' ∧ mark.column < floor then Option.none
      else scanGapFrom floor (gap.addBlank c) (mark.past c) rest
    else some (gap, ⟨c :: rest, mark⟩)
  | [] => some (gap, ⟨[], mark⟩)

/-- Reads what stands between two words. -/
def Cursor.scanGap (cursor : Cursor) (floor : Nat) (gap : Gap) : Option (Gap × Cursor) :=
  scanGapFrom floor gap cursor.mark cursor.rest

end Yaml
end CurveSheet
