/-
# Texts in bytes

A text that is stored takes one to four bytes for each of its characters.
-/

namespace CurveSheet
namespace Text

/-- Sums start from the zero of the core library also where a larger one is imported. -/
local instance (priority := 2000) natZero : Zero Nat := Zero.ofOfNat0

/-- The number of bytes of a text. -/
def byteCount (text : List Char) : Nat := (text.map Char.utf8Size).sum

theorem byteCount_cons (c : Char) (text : List Char) :
    byteCount (c :: text) = c.utf8Size + byteCount text := rfl

end Text
end CurveSheet
