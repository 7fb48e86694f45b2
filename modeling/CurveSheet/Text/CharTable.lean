/-
# Sets of characters given by ranges

A property of characters is a list of inclusive ranges of code points, in
increasing order.  A character has the property when one of the ranges holds
its code point.
-/

namespace CurveSheet
namespace Text

/-- A set of characters as inclusive ranges of code points. -/
structure CharTable where
  ranges : List (Nat × Nat)

/-- Some range of the table holds the character. -/
def CharTable.contains (table : CharTable) (c : Char) : Bool :=
  table.ranges.any fun range => range.1 ≤ c.toNat && c.toNat ≤ range.2

theorem CharTable.contains_iff {table : CharTable} {c : Char} :
    table.contains c = true ↔ ∃ range ∈ table.ranges, range.1 ≤ c.toNat ∧ c.toNat ≤ range.2 := by
  simp [CharTable.contains]

end Text
end CurveSheet
