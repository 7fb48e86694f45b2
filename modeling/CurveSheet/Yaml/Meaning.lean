/-
# What scalars stand for

A plain scalar without a tag stands for the first of these that fits its text:

| text | stands for |
| --- | --- |
| nothing, `~`, `null`, `Null`, `NULL` | null |
| `true`, `True`, `TRUE`, `false`, `False`, `FALSE` | a boolean |
| `12`, `+12`, `-12`, `0xff`, `0o17`, `-0b11` | an integer of at most 128 bits |
| `1.5`, `-1e3`, `.5`, `.inf`, `-.Inf`, `.nan` | a real number |
| anything else | its text |

Digits behind a leading zero are no number.  Quoted and block scalars stand for their
text.  A tag of the core types decides for every style what the text must be.
-/

import CurveSheet.Number.Reading
import CurveSheet.Yaml.Character
import CurveSheet.Yaml.Scalar

namespace CurveSheet
namespace Yaml

/-- What a scalar stands for. -/
inductive Meaning where
  | null
  | boolean (b : Bool)
  | integer (n : Int)
  | real (x : Binary64)
  | text (s : List Char)
  deriving DecidableEq

/-- The types that have tags of their own. -/
inductive CoreType where
  | null
  | boolean
  | integer
  | real
  deriving DecidableEq

/-- The tag of a core type. -/
def CoreType.tag : CoreType → List Char
  | null => "tag:yaml.org,2002:null".toList
  | boolean => "tag:yaml.org,2002:bool".toList
  | integer => "tag:yaml.org,2002:int".toList
  | real => "tag:yaml.org,2002:float".toList

/-- The core type with a tag. -/
def CoreType.ofTag? (tag : List Char) : Option CoreType :=
  [null, boolean, integer, real].find? (·.tag == tag)

/-- The tag is an application's own. -/
def isLocalTag (tag : Option (List Char)) : Bool := tag.any (·.head? == some '!')

/-- The text is one of the words for null. -/
def isNullWord (text : List Char) : Bool :=
  ["~", "null", "Null", "NULL"].any (·.toList == text)

/-- The boolean that a word stands for. -/
def boolean? (text : List Char) : Option Bool :=
  if ["true", "True", "TRUE"].any (·.toList == text) then some true
  else if ["false", "False", "FALSE"].any (·.toList == text) then some false
  else none

/-- A text less one plus sign at its start. -/
def dropPlus : List Char → List Char
  | '+' :: rest => rest
  | text => text

/-- Digits that follow a leading zero, behind at most one sign. -/
def isPadded (text : List Char) : Bool :=
  match (splitSign text).2 with
  | '0' :: rest => !rest.isEmpty && rest.all isDecimal
  | _ => false

/-- A number with one more digit in a base. -/
def pushDigit? (base n : Nat) (c : Char) : Option Nat :=
  ((hexDigit? c).filter (· < base)).map (base * n + ·)

/-- The value of one or more digits in a base. -/
def digits? (base : Nat) (digits : List Char) : Option Nat :=
  if digits.isEmpty then none else digits.foldlM (pushDigit? base) 0

/-- The magnitude of an integer: digits, or digits behind the sign of their base. -/
def magnitude? : List Char → Option Nat
  | '0' :: 'x' :: digits => digits? 16 digits
  | '0' :: 'o' :: digits => digits? 8 digits
  | '0' :: 'b' :: digits => digits? 2 digits
  | digits => if isPadded digits then none else digits? 10 digits

/-- The integer below `limit` that a text without a minus sign stands for. -/
def natural? (limit : Nat) (text : List Char) : Option Nat :=
  (magnitude? (dropPlus text)).filter (· < limit)

/-- The integer that a text stands for, if 128 bits hold it. -/
def integer? : List Char → Option Int
  | '-' :: rest => ((magnitude? rest).filter (· ≤ 2 ^ 127)).map fun n => -(n : Int)
  | text => (natural? (2 ^ 128) text).map Int.ofNat

/-- The text is one of the words for infinity. -/
def isInfinityWord (text : List Char) : Bool := [".inf", ".Inf", ".INF"].any (·.toList == text)

/-- The number is finite. -/
def isFinite (x : Binary64) : Bool := x.finite?.isSome

/-- The real number that a text stands for. -/
def real? (text : List Char) : Option Binary64 :=
  if isInfinityWord (dropPlus text) then some (.infinite false)
  else if text.head? = some '-' ∧ isInfinityWord text.tail = true then some (.infinite true)
  else if [".nan", ".NaN", ".NAN"].any (·.toList == text) then some .nan
  else match text with
    | '+' :: '+' :: _ => none
    | '+' :: '-' :: _ => none
    | _ => (Binary64.read? text).filter isFinite

/-- What a plain scalar stands for. -/
def plainMeaning (text : List Char) : Meaning :=
  if text.isEmpty || isNullWord text then .null
  else match boolean? text with
    | some b => .boolean b
    | none =>
      match integer? text with
      | some n => .integer n
      | none =>
        match if isPadded text then none else real? text with
        | some x => .real x
        | none => .text text

/-- What a text stands for if it must be of a core type. -/
def CoreType.meaning? (type : CoreType) (text : List Char) : Option Meaning :=
  match type with
  | null => if isNullWord text then some .null else none
  | boolean => (boolean? text).map .boolean
  | integer => (integer? text).map .integer
  | real => (real? text).map .real

/-- What a scalar stands for, or the type that its tag demands and its text has not. -/
def Scalar.meaning (scalar : Scalar) : Except CoreType Meaning :=
  match scalar.tag.bind CoreType.ofTag? with
  | some type =>
    match type.meaning? scalar.text with
    | some meaning => .ok meaning
    | none => .error type
  | none =>
    if scalar.style = .plain ∧ (scalar.tag.isNone || isLocalTag scalar.tag) = true then
      .ok (plainMeaning scalar.text)
    else .ok (.text scalar.text)

/-- The scalar is plain, or a literal block with the tag of a core type. -/
def Scalar.isLiteralOf (scalar : Scalar) (type : CoreType) : Bool :=
  match scalar.style with
  | .plain => true
  | .literal => scalar.tag == some type.tag
  | _ => false

example : plainMeaning ['0', 'x', 'f', 'F'] = .integer 255 := by decide +kernel
example : plainMeaning ['-', '0', 'b', '1', '1'] = .integer (-3) := by decide +kernel
example : plainMeaning ['0', '1', '2'] = .text ['0', '1', '2'] := by decide +kernel
example : plainMeaning ['1', 'e', '1'] = .real (.ofInt 10) := by decide +kernel
example : plainMeaning ['i', 'n', 'f'] = .text ['i', 'n', 'f'] := by decide +kernel

end Yaml
end CurveSheet
