/-
# Axis bounds and ranges

The bounds of an axis are typed as text.  They make a range when both, less the
blanks around them, are numbers, both are finite, and the first is less than the
second; these are looked at in this order, the lower bound before the upper.
-/

import CurveSheet.Text.Blank
import CurveSheet.Number.Reading
import CurveSheet.Number.Layout

namespace CurveSheet
namespace Plot

/-- An axis of the plane. -/
inductive Axis where
  | x
  | y
  deriving DecidableEq

/-- The letter of an axis. -/
def Axis.letter : Axis → String
  | x => "X"
  | y => "Y"

/-- One end of an axis. -/
inductive Bound where
  | min
  | max
  deriving DecidableEq

/-- The name of a bound. -/
def Bound.name : Bound → String
  | min => "min"
  | max => "max"

/-- The bounds of an axis as typed. -/
structure Bounds where
  min : String
  max : String
  deriving DecidableEq

/-- Bounds that denote two numbers. -/
def Bounds.ofNumbers (min max : Binary64) : Bounds := ⟨min.plainText, max.plainText⟩

/-- The bounds of an axis of which nothing is said. -/
def Bounds.default : Bounds := ⟨"-10", "10"⟩

/-- A range of an axis. -/
structure AxisRange where
  min : Finite
  max : Finite
  min_lt_max : min.order < max.order
  deriving DecidableEq

/-- Why bounds make no range. -/
inductive RangeFault where
  | notANumber (bound : Bound) (text : String)
  | notFinite
  | notIncreasing (min max : Finite)
  deriving DecidableEq

/-- The message of a range fault. -/
def RangeFault.message : RangeFault → String
  | notANumber bound text => bound.name ++ " bound '" ++ text ++ "' is not a number"
  | notFinite => "bounds must be finite numbers"
  | notIncreasing min max =>
    "min (" ++ min.plainText ++ ") must be less than max (" ++ max.plainText ++ ")"

/-- What to do about a range fault on an axis. -/
def RangeFault.help (axis : Axis) : RangeFault → Option String
  | notANumber _ _ => some "Use numeric bounds like -10 and 10"
  | notFinite => none
  | notIncreasing _ _ => some ("Swap or widen the " ++ axis.letter ++ " bounds")

/-- The range between two numbers. -/
def AxisRange.ofNumbers (min max : Binary64) : Except RangeFault AxisRange :=
  match min.finite?, max.finite? with
  | some lower, some upper =>
    if h : lower.order < upper.order then .ok ⟨lower, upper, h⟩
    else .error (.notIncreasing lower upper)
  | _, _ => .error .notFinite

/-- The number that a bound denotes. -/
def readBound (bound : Bound) (text : String) : Except RangeFault Binary64 :=
  match Binary64.read? (Text.trimChars text.toList) with
  | some number => .ok number
  | none => .error (.notANumber bound (Text.trim text))

/-- The range between two bounds. -/
def Bounds.range (bounds : Bounds) : Except RangeFault AxisRange :=
  match readBound .min bounds.min with
  | .error fault => .error fault
  | .ok min =>
    match readBound .max bounds.max with
    | .error fault => .error fault
    | .ok max => AxisRange.ofNumbers min max

end Plot
end CurveSheet
