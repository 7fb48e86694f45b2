/-
# JSON as text

A value is written on one line or, the pretty way, with every item and field on a
line of its own, two spaces further in than what holds it; an empty list or object
is `[]` or `{}` both ways.

In strings the quote and the backslash take a backslash, five controls have
letters, the other characters below the space are given by their code point, and
all else stands for itself.
-/

import CurveSheet.Json.Value
import CurveSheet.Number.Layout

namespace CurveSheet
namespace Json

/-- The digits of a number below 256 in base sixteen, padded to four. -/
def hex4 (n : Nat) : List Char :=
  let digits := Nat.toDigits 16 n
  List.replicate (4 - digits.length) '0' ++ digits

/-- A character inside a string. -/
def escapedChar (c : Char) : List Char :=
  if c = '"' then ['\\', '"']
  else if c = '\\' then ['\\', '\\']
  else if c = '\x08' then ['\\', 'b']
  else if c = '\t' then ['\\', 't']
  else if c = '\n' then ['\\', 'n']
  else if c = '\x0c' then ['\\', 'f']
  else if c = '\r' then ['\\', 'r']
  else if c.toNat < 0x20 then ['\\', 'u'] ++ hex4 c.toNat
  else [c]

/-- A string with its quotes. -/
def stringChars (s : String) : List Char := '"' :: s.toList.flatMap escapedChar ++ ['"']

/-- A line end and the indentation of a level. -/
def newLine (level : Nat) : List Char := '\n' :: List.replicate (2 * level) ' '

mutual

/-- A value on one line. -/
def compactChars : Json → List Char
  | bool b => (if b then "true" else "false").toList
  | count n => Nat.toDigits 10 n
  | real x => Layout.json.finiteChars x
  | text s => stringChars s
  | list items => '[' :: compactItems items ++ [']']
  | object fields => '\x7b' :: compactFields fields ++ ['\x7d']

/-- Items with commas between them. -/
def compactItems : List Json → List Char
  | [] => []
  | [item] => compactChars item
  | item :: rest => compactChars item ++ ',' :: compactItems rest

/-- Fields with commas between them. -/
def compactFields : List (String × Json) → List Char
  | [] => []
  | [(key, value)] => stringChars key ++ ':' :: compactChars value
  | (key, value) :: rest =>
    stringChars key ++ ':' :: compactChars value ++ ',' :: compactFields rest

end

mutual

/-- A value inside `level` others, the pretty way. -/
def prettyChars (level : Nat) : Json → List Char
  | bool b => (if b then "true" else "false").toList
  | count n => Nat.toDigits 10 n
  | real x => Layout.json.finiteChars x
  | text s => stringChars s
  | list [] => ['[', ']']
  | list (item :: rest) =>
    '[' :: newLine (level + 1) ++ prettyChars (level + 1) item ++
      prettyItems (level + 1) rest ++ newLine level ++ [']']
  | object [] => ['\x7b', '\x7d']
  | object ((key, value) :: rest) =>
    '\x7b' :: newLine (level + 1) ++ stringChars key ++ ':' :: ' ' ::
      prettyChars (level + 1) value ++ prettyFields (level + 1) rest ++ newLine level ++ ['\x7d']

/-- Further items, each behind a comma and on a line of its own. -/
def prettyItems (level : Nat) : List Json → List Char
  | [] => []
  | item :: rest => ',' :: newLine level ++ prettyChars level item ++ prettyItems level rest

/-- Further fields, each behind a comma and on a line of its own. -/
def prettyFields (level : Nat) : List (String × Json) → List Char
  | [] => []
  | (key, value) :: rest =>
    ',' :: newLine level ++ stringChars key ++ ':' :: ' ' :: prettyChars level value ++
      prettyFields level rest

end

/-- A value on one line. -/
def compact (value : Json) : String := String.ofList value.compactChars

/-- A value the pretty way. -/
def pretty (value : Json) : String := String.ofList (prettyChars 0 value)

end Json
end CurveSheet
