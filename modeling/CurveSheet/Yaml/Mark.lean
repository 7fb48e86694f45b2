/-
# Places in a text

A mark says where in a text something stands: its line and column, both counted
from zero in characters, and the number of bytes before it.
-/

import CurveSheet.Text.Bytes

namespace CurveSheet
namespace Yaml

open Text (byteCount)

/-- A place in a text. -/
structure Mark where
  line : Nat
  column : Nat
  /-- The number of bytes before the place. -/
  offset : Nat
  deriving DecidableEq

namespace Mark

/-- The start of a text. -/
def start : Mark := ⟨0, 0, 0⟩

/-- The place behind a character of a line. -/
def past (mark : Mark) (c : Char) : Mark :=
  ⟨mark.line, mark.column + 1, mark.offset + c.utf8Size⟩

/-- The place behind characters of a line. -/
def pastAll (mark : Mark) (text : List Char) : Mark :=
  ⟨mark.line, mark.column + text.length, mark.offset + byteCount text⟩

/-- The start of the next line, behind a line end of `bytes` bytes. -/
def down (mark : Mark) (bytes : Nat) : Mark := ⟨mark.line + 1, 0, mark.offset + bytes⟩

theorem pastAll_cons (mark : Mark) (c : Char) (rest : List Char) :
    mark.pastAll (c :: rest) = (mark.past c).pastAll rest := by
  simp only [pastAll, past, Text.byteCount_cons, List.length_cons, mk.injEq, true_and]
  omega

end Mark
end Yaml
end CurveSheet
