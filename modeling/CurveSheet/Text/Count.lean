/-
# Counts in words

`1 row`, `2 rows`: a number before the noun in its form for that number.
-/

namespace CurveSheet
namespace Text

/-- A number with its noun, `one` after 1 and `many` after any other. -/
def counted (n : Nat) (one many : String) : String :=
  toString n ++ " " ++ (if n = 1 then one else many)

end Text
end CurveSheet
