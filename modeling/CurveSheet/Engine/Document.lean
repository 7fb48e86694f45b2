/-
# The document for the plotting engine

The engine draws what a document describes: where to draw, how large, the domains
of the axes, and one entry for every curve in order.  Canvas settings come from
outside the batch.
-/

import CurveSheet.Json.Printer
import CurveSheet.Plot.Batch

namespace CurveSheet
namespace Engine

open Plot

/-- Where and how large a plot is drawn. -/
structure Canvas where
  target : String
  width : UInt32
  height : UInt32
  grid : Bool
  deriving DecidableEq

/-- The canvas of which nothing is said. -/
def Canvas.default : Canvas := ⟨"#functionChart", 800, 500, true⟩

/-- Decimal places of coordinates that are shown to a reader. -/
def cursorDecimals : Nat := 3

/-- The engine's word for a kind of curve. -/
def kindName : Formula.Kind → String
  | .explicit => "linear"
  | .implicit => "implicit"

/-- The entry of a curve; without a hint there is no field for it. -/
def entry (spec : Spec) : Json :=
  .object <| [("fn", .text spec.formula), ("fnType", .text (kindName spec.kind)),
    ("color", .text spec.colour.name)] ++
    match spec.hint? with
    | some hint => [("graphType", .text hint.name)]
    | none => []

/-- The entry of an axis. -/
def axisEntry (range : AxisRange) : Json :=
  .object [("domain", .list [.real range.min, .real range.max])]

/-- The document of a batch on a canvas. -/
def document (canvas : Canvas) (batch : Batch) : Json :=
  .object [
    ("target", .text canvas.target),
    ("width", .count canvas.width.toNat),
    ("height", .count canvas.height.toNat),
    ("xAxis", axisEntry batch.x),
    ("yAxis", axisEntry batch.y),
    ("grid", .bool canvas.grid),
    ("data", .list (batch.specs.map entry)),
    ("tip", .object [("xLine", .bool true), ("yLine", .bool true),
      ("decimals", .count cursorDecimals)])]

end Engine
end CurveSheet
