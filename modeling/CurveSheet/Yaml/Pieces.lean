/-
# Reading a text in pieces

A text is read in pieces of at most `pieceSize` bytes, each as long as whole
characters allow.  A piece with a character that may not occur in a text cannot be
read, and with it all that follows.  What stands before it can.
-/

import CurveSheet.Text.Bytes
import CurveSheet.Yaml.Character

namespace CurveSheet
namespace Yaml

/-- A piece has at most this many bytes. -/
def pieceSize : Nat := 16384

/-- The number of bytes before the first piece that cannot be read; `before` bytes lie in
earlier pieces, and `inside` in the piece that is being read. -/
def brokenFrom (before inside : Nat) : List Char → Option Nat
  | [] => none
  | c :: rest =>
    if inside + c.utf8Size ≤ pieceSize then
      if isAllowed c then brokenFrom before (inside + c.utf8Size) rest else some before
    else if isAllowed c then brokenFrom (before + inside) c.utf8Size rest
    else some (before + inside)

/-- The number of bytes that can be read of a text, if that is not all of it. -/
def readLimit (text : List Char) : Option Nat := brokenFrom 0 0 text

theorem brokenFrom_eq_none_iff {text : List Char} {before inside : Nat} :
    brokenFrom before inside text = none ↔ text.all isAllowed = true := by
  induction text generalizing before inside with
  | nil => simp [brokenFrom]
  | cons c rest ih =>
    by_cases h : isAllowed c = true <;> simp only [brokenFrom] <;> split <;> simp_all

/-- All of a text can be read if all its characters may occur. -/
theorem readLimit_eq_none_iff {text : List Char} :
    readLimit text = none ↔ text.all isAllowed = true := brokenFrom_eq_none_iff

end Yaml
end CurveSheet
