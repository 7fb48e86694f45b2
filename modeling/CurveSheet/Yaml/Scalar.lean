/-
# Scalars

A scalar is a text with the style in which it is written and, rarely, a tag that
says what it stands for.
-/

namespace CurveSheet
namespace Yaml

/-- How a scalar is written. -/
inductive ScalarStyle where
  | plain
  | singleQuoted
  | doubleQuoted
  | literal
  | folded
  deriving DecidableEq

/-- A text, its style and its tag. -/
structure Scalar where
  text : List Char
  style : ScalarStyle
  tag : Option (List Char)
  deriving DecidableEq

/-- The plain scalar without characters and without a tag. -/
def Scalar.empty : Scalar := ⟨[], .plain, none⟩

/-- Nothing is written: the scalar is plain and has no characters. -/
def Scalar.isVoid (scalar : Scalar) : Bool := scalar.style == .plain && scalar.text.isEmpty

end Yaml
end CurveSheet
