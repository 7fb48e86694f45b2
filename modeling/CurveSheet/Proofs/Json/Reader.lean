/-
# Reading JSON

What any reader makes of a JSON text, by the rules of RFC 8259:

| value | text |
| --- | --- |
| null, booleans | `null`, `true`, `false` |
| numbers | `-`? (`0` or digits without a zero in front) (`.` digits)? (`e` sign? digits)? |
| texts | characters from the space on between quotes; a backslash makes an escape |
| lists | values between brackets, with commas between them |
| objects | texts, each with a colon and a value, between braces, with commas between them |

Spaces, tabs, line feeds and carriage returns may stand around every value and sign.  A
number without point and exponent is an integer, any other the nearest binary64 number,
which must be finite.  An escape by code unit above the first plane takes two units.

The recursion counts down from the length of the text, of which every call takes at
least one character.
-/

import CurveSheet.Json.Printer
import CurveSheet.Number.Reading
import CurveSheet.Yaml.Scalar.Quoted

namespace CurveSheet
namespace Json

/-- A value as a reader finds it. -/
inductive Data where
  | null
  | bool (b : Bool)
  | integer (n : Int)
  | real (x : Finite)
  | text (s : String)
  | list (items : List Data)
  | object (fields : List (String × Data))

/-- The value of a key of an object. -/
def Data.field? (key : String) : Data → Option Data
  | object fields => fields.lookup key
  | _ => none

/-- White space between signs. -/
def isSpace (c : Char) : Bool := c == ' ' || c == '\t' || c == '\n' || c == '\r'

/-- A text less the white space at its start. -/
def skipSpace (text : List Char) : List Char := text.dropWhile isSpace

/-! ### Texts -/

/-- The code unit that four digits in base sixteen give, and what follows. -/
def readUnit? (text : List Char) : Option (Nat × List Char) :=
  if (text.take 4).length = 4 then (Yaml.hexValue? (text.take 4)).map (·, text.drop 4) else none

/-- The character that a letter behind a backslash stands for. -/
def escapeLetter? : Char → Option Char
  | '"' => some '"'
  | '\\' => some '\\'
  | '/' => some '/'
  | 'b' => some '\x08'
  | 'f' => some '\x0c'
  | 'n' => some '\n'
  | 'r' => some '\r'
  | 't' => some '\t'
  | _ => none

/-- The character of a code unit and, if it is the first of two, of the one that follows. -/
def readCode? (text : List Char) : Option (Char × List Char) :=
  match readUnit? text with
  | none => none
  | some (unit, rest) =>
    if unit < 0xD800 ∨ 0xE000 ≤ unit then some (Char.ofNat unit, rest)
    else if unit < 0xDC00 then
      match rest with
      | '\\' :: 'u' :: more =>
        match readUnit? more with
        | none => none
        | some (low, rest) =>
          if 0xDC00 ≤ low ∧ low < 0xE000 then
            some (Char.ofNat (0x10000 + (unit - 0xD800) * 0x400 + (low - 0xDC00)), rest)
          else none
      | _ => none
    else none

/-- The character that an escape stands for, and what follows; the backslash is behind us. -/
def readEscape? : List Char → Option (Char × List Char)
  | [] => none
  | sign :: rest =>
    if sign = 'u' then readCode? rest else (escapeLetter? sign).map (·, rest)

/-- A text up to its closing quote, and what follows. -/
def readTextFrom? : Nat → List Char → Option (List Char × List Char)
  | 0, _ => none
  | _ + 1, [] => none
  | fuel + 1, c :: rest =>
    if c = '"' then some ([], rest)
    else if c = '\\' then
      match readEscape? rest with
      | none => none
      | some (d, rest) => (readTextFrom? fuel rest).map fun read => (d :: read.1, read.2)
    else if c.toNat < 0x20 then none
    else (readTextFrom? fuel rest).map fun read => (c :: read.1, read.2)

/-- A text whose opening quote is behind us, and what follows. -/
def readText? (text : List Char) : Option (String × List Char) :=
  (readTextFrom? (text.length + 1) text).map fun read => (String.ofList read.1, read.2)

/-! ### Numbers -/

/-- A character of numbers. -/
def isNumberChar (c : Char) : Bool := isDigit c || ['-', '+', '.', 'e', 'E'].contains c

/-- The digits before the point are there, and no zero stands in front of them. -/
def isWholePart (whole : List Char) : Bool :=
  !whole.isEmpty && (whole.length == 1 || whole.head? != some '0')

/-- The number that a word denotes. -/
def number? (word : List Char) : Option Data :=
  let negative := word.head? == some '-'
  let (whole, tail) := (if negative then word.drop 1 else word).span isDigit
  if !isWholePart whole then none
  else if tail.isEmpty then
    some (.integer (if negative then -(digitsValue whole : Int) else digitsValue whole))
  else if tail.head? == some '.' && !(tail.drop 1).head?.any isDigit then none
  else match Binary64.read? word with
    | some (.finite x) => some (.real x)
    | _ => none

/-- A number, and what follows. -/
def readNumber? (text : List Char) : Option (Data × List Char) :=
  (number? (text.takeWhile isNumberChar)).map (·, text.dropWhile isNumberChar)

/-! ### Values -/

/-- A word that stands for a value, and what follows. -/
def readWord? (word : String) (value : Data) (text : List Char) : Option (Data × List Char) :=
  (word.toList.isPrefixOf? text).map (value, ·)

mutual

/-- A value, and what follows. -/
def readValue? : Nat → List Char → Option (Data × List Char)
  | 0, _ => none
  | fuel + 1, chars =>
    match skipSpace chars with
    | [] => none
    | c :: rest =>
      if c = '"' then (readText? rest).map fun read => (.text read.1, read.2)
      else if c = '[' then
        match skipSpace rest with
        | ']' :: rest => some (.list [], rest)
        | rest => (readItems? fuel rest).map fun read => (.list read.1, read.2)
      else if c = '\x7b' then
        match skipSpace rest with
        | '\x7d' :: rest => some (.object [], rest)
        | rest => (readFields? fuel rest).map fun read => (.object read.1, read.2)
      else if c = 't' then readWord? "true" (.bool true) (c :: rest)
      else if c = 'f' then readWord? "false" (.bool false) (c :: rest)
      else if c = 'n' then readWord? "null" .null (c :: rest)
      else readNumber? (c :: rest)

/-- Items up to the closing bracket, at least one, and what follows. -/
def readItems? : Nat → List Char → Option (List Data × List Char)
  | 0, _ => none
  | fuel + 1, chars =>
    match readValue? fuel chars with
    | none => none
    | some (item, rest) =>
      match skipSpace rest with
      | ',' :: rest => (readItems? fuel rest).map fun read => (item :: read.1, read.2)
      | ']' :: rest => some ([item], rest)
      | _ => none

/-- Fields up to the closing brace, at least one, and what follows. -/
def readFields? : Nat → List Char → Option (List (String × Data) × List Char)
  | 0, _ => none
  | fuel + 1, chars =>
    match skipSpace chars with
    | '"' :: rest =>
      match readText? rest with
      | none => none
      | some (key, rest) =>
        match skipSpace rest with
        | ':' :: rest =>
          match readValue? fuel rest with
          | none => none
          | some (value, rest) =>
            match skipSpace rest with
            | ',' :: rest =>
              (readFields? fuel rest).map fun read => ((key, value) :: read.1, read.2)
            | '\x7d' :: rest => some ([(key, value)], rest)
            | _ => none
        | _ => none
    | _ => none

end

/-- The value at the start of a text, and what follows it. -/
def readFirst? (text : String) : Option (Data × List Char) :=
  readValue? text.toList.length text.toList

/-- The value that a whole text holds, perhaps with white space around it. -/
def read? (text : String) : Option Data :=
  match readFirst? text with
  | some (value, rest) => if rest.all isSpace then some value else none
  | none => none

end Json
end CurveSheet
