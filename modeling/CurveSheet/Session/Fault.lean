/-
# What can be wrong with a session text

A text that is not one well-formed document is *malformed*, and so is one that no
reader of sessions takes: with a tag of an application's own on a bound, nested
too deep, or with too many aliases.  In any other document a value may be of the
wrong kind, out of range, missing or given twice; such a problem has a path from
the top of the document and a place in the text.  The message gives the path
unless it is empty, the problem, and the place unless it is the start of the text.
-/

import CurveSheet.Number.Layout
import CurveSheet.Text.Quoted
import CurveSheet.Yaml.Mark

namespace CurveSheet
namespace Session

open Yaml (Mark)

/-- A step from a value to one inside it. -/
inductive PathStep where
  | key (name : String)
  | item (index : Nat)
  /-- The value of a key that has no text. -/
  | unnamed
  deriving DecidableEq

/-- The steps from the top of a document to a value. -/
abbrev Path := List PathStep

/-- A path that already reads `front`, with one more step. -/
def PathStep.extend (front : String) : PathStep → String
  | key name => if front.isEmpty then name else front ++ "." ++ name
  | item index => front ++ "[" ++ toString index ++ "]"
  | unnamed => if front.isEmpty then "?" else front ++ ".?"

/-- A path as text. -/
def Path.text (path : Path) : String := path.foldl PathStep.extend ""

/-- The kind of a value that was met. -/
inductive Found where
  | unit
  | boolean (b : Bool)
  | integer (n : Int)
  | real (x : Binary64)
  | text (s : String)
  | sequence
  | mapping
  deriving DecidableEq

/-- Numbers of which a reader must see that they are not whole by type. -/
def realLayout : Layout := { Layout.plain with wholeFraction := true }

/-- Whether an integer needs more than 64 bits, and with how many and what sign it is read. -/
def widthNote (n : Int) : String :=
  if n < -(2 ^ 63) then " as i128" else if n < 2 ^ 64 then "" else " as u128"

/-- A value that was met, for messages. -/
def Found.message : Found → String
  | unit => "unit value"
  | boolean b => "boolean `" ++ (if b then "true" else "false") ++ "`"
  | integer n => "integer `" ++ toString n ++ "`" ++ widthNote n
  | real x => "floating point `" ++ String.ofList (realLayout.chars x) ++ "`"
  | text s => "string " ++ Text.quoted s
  | sequence => "sequence"
  | mapping => "map"

/-- What a value should have been. -/
inductive Expected where
  | natural
  | boolean
  | text
  | sequence
  | session
  | bounds
  | row
  | anything
  | fieldName
  | aBoolean
  | anInteger
  | aFloat
  | null
  deriving DecidableEq

/-- What was expected, for messages. -/
def Expected.message : Expected → String
  | natural => "u32"
  | boolean => "a boolean"
  | text => "a string"
  | sequence => "a sequence"
  | session => "struct Session"
  | bounds => "struct BoundsConfig"
  | row => "struct RowConfig"
  | anything => "any value"
  | fieldName => "field identifier"
  | aBoolean => "a boolean"
  | anInteger => "an integer"
  | aFloat => "a float"
  | null => "null"

/-- What is wrong at a place of a document. -/
inductive Problem where
  | wrongType (found : Found) (expected : Expected)
  | wrongValue (found : Found) (expected : Expected)
  | missingField (name : String)
  | duplicateField (name : String)
  /-- A bound that is neither a number nor a text. -/
  | noBound
  deriving DecidableEq

/-- The words for a problem. -/
def Problem.message : Problem → String
  | wrongType found expected =>
    "invalid type: " ++ found.message ++ ", expected " ++ expected.message
  | wrongValue found expected =>
    "invalid value: " ++ found.message ++ ", expected " ++ expected.message
  | missingField name => "missing field `" ++ name ++ "`"
  | duplicateField name => "duplicate field `" ++ name ++ "`"
  | noBound => "data did not match any variant of untagged enum BoundValue"

/-- Why a text is no session. -/
inductive Fault where
  | malformed
  | problem (path : Path) (mark : Mark) (what : Problem)
  deriving DecidableEq

/-- The place of a problem, for messages. -/
def placeNote (mark : Mark) : String :=
  if mark.line = 0 ∧ mark.column = 0 then ""
  else " at line " ++ toString (mark.line + 1) ++ " column " ++ toString (mark.column + 1)

/-- The reason why a text is no session. -/
def Fault.message : Fault → String
  | malformed => "(yaml)"
  | problem path mark what =>
    (if path.isEmpty then "" else path.text ++ ": ") ++ what.message ++ placeNote mark

end Session
end CurveSheet
