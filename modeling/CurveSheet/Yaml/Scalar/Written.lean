/-
# Writing scalars

A scalar is written behind the key and the space before it, and its line is ended;
further lines of it are indented.  In quotes a quote is written twice, or a
backslash stands before it; in a literal block lines stand as they are, and signs
behind the bar say what the reader cannot see:

| sign | meaning |
| --- | --- |
| the step of the indentation | the text starts with a space or a line end |
| `-` | the text does not end with a line end |
| `+` | the text ends with more than one, or is one |
-/

import CurveSheet.Yaml.Scalar.Style

namespace CurveSheet
namespace Yaml

/-- The columns by which a block lies further to the right than the one around it. -/
def indentStep : Nat := 2

/-- The columns before the further lines of a scalar. -/
def indentation (indent : Nat) : List Char := List.replicate indent ' '

/-- A digit of base sixteen, upper case. -/
def upperHexDigit (n : Nat) : Char :=
  if n < 10 then Char.ofNat ('0'.toNat + n) else Char.ofNat ('A'.toNat + (n - 10))

/-- The last `width` digits of a number in base sixteen. -/
def upperHex : (width : Nat) → Nat → List Char
  | 0, _ => []
  | width + 1, n => upperHex width (n / 16) ++ [upperHexDigit (n % 16)]

/-- The letters of characters that have one behind a backslash. -/
def escapeLetters : List (Char × Char) :=
  [('\x00', '0'), ('\x07', 'a'), ('\x08', 'b'), ('\t', 't'), ('\n', 'n'), ('\x0B', 'v'),
   ('\x0C', 'f'), ('\r', 'r'), ('\x1B', 'e'), ('"', '"'), ('\\', '\\'), ('\u0085', 'N'),
   ('\u2028', 'L'), ('\u2029', 'P')]

/-- A character behind a backslash. -/
def escaped (c : Char) : List Char :=
  match escapeLetters.lookup c with
  | some letter => ['\\', letter]
  | none =>
    if c.toNat < 0x100 then ['\\', 'x'] ++ upperHex 2 c.toNat
    else if c.toNat < 0x10000 then ['\\', 'u'] ++ upperHex 4 c.toNat
    else ['\\', 'U'] ++ upperHex 8 c.toNat

/-- A character between double quotes. -/
def doubleQuotedChar (c : Char) : List Char :=
  if !isShown c || isBreak c || c == '"' || c == '\\' then escaped c else [c]

/-- A text between double quotes. -/
def doubleQuoted (text : List Char) : List Char :=
  '"' :: text.flatMap doubleQuotedChar ++ ['"']

/-- Text whose lines after the first are indented; `fresh` says that a line starts here.  A
line without characters is not indented. -/
def indentLines (indent : Nat) (letter : Char → List Char) : (fresh : Bool) → List Char → List Char
  | _, [] => []
  | fresh, c :: rest =>
    if isBreak c then c :: indentLines indent letter true rest
    else
      (if fresh then indentation indent else []) ++ letter c ++ indentLines indent letter false rest

/-- A character between single quotes. -/
def singleQuotedChar (c : Char) : List Char := if c = '\'' then ['\'', '\''] else [c]

/-- A text between single quotes. -/
def singleQuoted (indent : Nat) (text : List Char) : List Char :=
  '\'' :: indentLines indent singleQuotedChar false text ++
    (if text.getLast?.any isBreak then indentation indent else []) ++ ['\'']

/-- The sign for the end of a literal block. -/
def chompingSign (text : List Char) : List Char :=
  match text.reverse with
  | [] => ['-']
  | [c] => if isBreak c then ['+'] else ['-']
  | c :: d :: _ => if !isBreak c then ['-'] else if isBreak d then ['+'] else []

/-- The sign for the indentation of a literal block. -/
def indentationSign (text : List Char) : List Char :=
  if text.head?.any isSpaceOrBreak then Nat.toDigits 10 indentStep else []

/-- A literal block with the end of its last line. -/
def literal (indent : Nat) (text : List Char) : List Char :=
  '|' :: indentationSign text ++ chompingSign text ++ '\n' ::
    indentLines indent (fun c => [c]) true text ++
    if text.getLast?.any isBreak then [] else ['\n']

/-- A text as a scalar, up to the end of its line; its further lines have `indent` columns
before them. -/
def written (indent : Nat) (text : List Char) : List Char :=
  match styleOf text with
  | .literal => literal indent text
  | .singleQuoted => singleQuoted indent text ++ ['\n']
  | .doubleQuoted => doubleQuoted text ++ ['\n']
  | _ => text ++ ['\n']

end Yaml
end CurveSheet
