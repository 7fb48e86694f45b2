/-
# How numbers are laid out

The digits of a number are fixed by its value; a *layout* decides where the point
goes.  A number is written positionally or with a power of ten, a whole number
with or without `.0`, a power of ten with or without a plus sign.

| layout | positional for | whole number | power of ten |
| --- | --- | --- | --- |
| `plain` | every number | `10` | never |
| `json` | `1e-5 ≤ v < 1e16` | `10.0` | `1e+16`, `1e-6` |
| `yaml` | `1e-5 ≤ v < 1e16` | `10.0` | `1e16`, `1e-6` |
-/

import CurveSheet.Number.Shortest

namespace CurveSheet

/-- The decisions of one way to write numbers. -/
structure Layout where
  /-- The least and the greatest point position written positionally; `none` is no limit. -/
  positional : Option (Int × Int)
  /-- A whole number written positionally ends in `.0`. -/
  wholeFraction : Bool
  /-- A positive power of ten has a sign. -/
  plusSign : Bool
  tie : Tie
  infinity : String
  notANumber : String

namespace Layout

/-- Numbers in messages: positional, whole numbers without a point. -/
def plain : Layout := ⟨none, false, false, .up, "inf", "NaN"⟩

/-- Numbers in JSON documents. -/
def json : Layout := ⟨some (-4, 16), true, true, .even, "null", "null"⟩

/-- Numbers in YAML documents. -/
def yaml : Layout := ⟨some (-4, 16), true, false, .even, ".inf", ".nan"⟩

/-- The point position is written positionally. -/
def isPositional (layout : Layout) (point : Int) : Bool :=
  match layout.positional with
  | none => true
  | some (least, greatest) => least ≤ point && point ≤ greatest

/-- Digits with their point in place. -/
def positionalChars (layout : Layout) (d : Digits) : List Char :=
  if d.point ≤ 0 then ['0', '.'] ++ List.replicate (-d.point).toNat '0' ++ d.digits
  else if (d.digits.length : Int) ≤ d.point then
    d.digits ++ List.replicate (d.point.toNat - d.digits.length) '0' ++
      if layout.wholeFraction then ['.', '0'] else []
  else d.digits.take d.point.toNat ++ '.' :: d.digits.drop d.point.toNat

/-- A power of ten. -/
def exponentChars (layout : Layout) (exponent : Int) : List Char :=
  'e' :: (if exponent < 0 then ['-'] else if layout.plusSign then ['+'] else []) ++
    Nat.toDigits 10 exponent.natAbs

/-- Digits with the point after the first one and a power of ten. -/
def scientificChars (layout : Layout) (d : Digits) : List Char :=
  d.digits.take 1 ++ (if d.digits.length ≤ 1 then [] else '.' :: d.digits.drop 1) ++
    layout.exponentChars (d.point - 1)

/-- A magnitude. -/
def magnitudeChars (layout : Layout) (rank : Nat) : List Char :=
  if rank = 0 then if layout.wholeFraction then ['0', '.', '0'] else ['0']
  else
    let d := shortestDigits layout.tie rank
    if layout.isPositional d.point then layout.positionalChars d else layout.scientificChars d

/-- A finite number. -/
def finiteChars (layout : Layout) (x : Finite) : List Char :=
  (if x.negative then ['-'] else []) ++ layout.magnitudeChars x.rank

/-- A number. -/
def chars (layout : Layout) : Binary64 → List Char
  | .nan => layout.notANumber.toList
  | .infinite negative => (if negative then ['-'] else []) ++ layout.infinity.toList
  | .finite x => layout.finiteChars x

end Layout

/-- The number as it stands in messages. -/
def Binary64.plainText (x : Binary64) : String := String.ofList (Layout.plain.chars x)

/-- The finite number as it stands in messages. -/
def Finite.plainText (x : Finite) : String := String.ofList (Layout.plain.finiteChars x)

end CurveSheet
