/-
# Colours

A colour is whatever text the engine understands as one.  Rows without a colour
take one of six by their position, over and over.
-/

namespace CurveSheet
namespace Plot

/-- A colour, as text for the engine. -/
structure Colour where
  name : String
  deriving DecidableEq

/-- The colours of rows that have none. -/
def palette : List String :=
  ["#3498db", "#e74c3c", "#2ecc71", "#f1c40f", "#9b59b6", "#34495e"]

/-- The colour of the row at a position. -/
def Colour.forRow (index : Nat) : Colour :=
  ⟨palette.getD (index % palette.length) "#3498db"⟩

end Plot
end CurveSheet
