/-
# Quoted scalars

Between single quotes a quote is written twice and all else stands for itself.
Between double quotes a backslash starts an escape: a letter for a control or
separator, two, four or eight digits for a code point, or a line end, which then
counts for nothing.  Line ends are folded in both.
-/

import CurveSheet.Yaml.Scalar.Gap

namespace CurveSheet
namespace Yaml

/-- The escapes of one character. -/
def simpleEscape? (c : Char) : Option Char :=
  match c with
  | '0' => some '\x00'
  | 'a' => some '\x07'
  | 'b' => some '\x08'
  | 't' => some '\t'
  | '\t' => some '\t'
  | 'n' => some '\n'
  | 'v' => some '\x0b'
  | 'f' => some '\x0c'
  | 'r' => some '\r'
  | 'e' => some '\x1b'
  | ' ' => some ' '
  | '"' => some '"'
  | '/' => some '/'
  | '\\' => some '\\'
  | 'N' => some '\u0085'
  | '_' => some '\u00a0'
  | 'L' => some '\u2028'
  | 'P' => some '\u2029'
  | _ => none

/-- The number of digits that an escape by code point has. -/
def codeWidth? (c : Char) : Option Nat :=
  if c = 'x' then some 2 else if c = 'u' then some 4 else if c = 'U' then some 8 else none

/-- The value of digits in base sixteen. -/
def hexValue? (digits : List Char) : Option Nat :=
  digits.foldl (fun value c => value.bind fun n => (hexDigit? c).map (16 * n + ·)) (some 0)

/-- The character with a code point, if there is one. -/
def charOfCode? (n : Nat) : Option Char :=
  if n < 0xD800 ∨ (0xDFFF < n ∧ n < 0x110000) then some (Char.ofNat n) else none

/-- The character that an escape stands for and the length of the escape, given what
follows the backslash. -/
def escape? : List Char → Option (Char × Nat)
  | [] => none
  | c :: rest =>
    match simpleEscape? c with
    | some value => some (value, 1)
    | none =>
      match codeWidth? c with
      | none => none
      | some width =>
        let digits := rest.take width
        if digits.length < width then none
        else ((hexValue? digits).bind charOfCode?).map fun value => (value, 1 + width)

/-- A word of a quoted scalar: what it stands for, the characters it is written with, and
what follows. -/
structure QuotedWord where
  text : List Char
  width : Nat
  rest : List Char

/-- A word with one more character written before it. -/
def QuotedWord.widen (word : QuotedWord) : QuotedWord := { word with width := word.width + 1 }

/-- A word with one more character before it. -/
def QuotedWord.push (word : QuotedWord) (c : Char) : QuotedWord :=
  ⟨c :: word.text, word.width + 1, word.rest⟩

/-- Reads a word of a quoted scalar, up to a separator, the closing quote or an escaped
line end.  The first `covered` characters belong to an escape that has been read. -/
def quotedWord (double : Bool) : (covered : Nat) → List Char → Option QuotedWord
  | _, [] => some ⟨[], 0, []⟩
  | covered + 1, _ :: rest => (quotedWord double covered rest).map .widen
  | 0, c :: rest =>
    if isSeparator c then some ⟨[], 0, c :: rest⟩
    else if double then
      if c = '"' then some ⟨[], 0, c :: rest⟩
      else if c = '\\' then
        if rest.head?.any isBreak then some ⟨[], 0, c :: rest⟩
        else match escape? rest with
          | none => none
          | some (value, width) => (quotedWord double width rest).map (·.push value)
      else (quotedWord double 0 rest).map (·.push c)
    else if c = '\'' then
      if rest.head? = some '\'' then (quotedWord double 1 rest).map (·.push '\'')
      else some ⟨[], 0, c :: rest⟩
    else (quotedWord double 0 rest).map (·.push c)

/-- The closing quote. -/
def closingQuote (double : Bool) : Char := if double then '"' else '\''

/-- Reads a quoted scalar from behind its opening quote to behind its closing one. -/
def quotedFrom (double : Bool) : (fuel : Nat) → Cursor → Option (List Char × Cursor)
  | 0, _ => none
  | fuel + 1, cursor =>
    if cursor.atDocumentMarker || cursor.rest.isEmpty then none
    else match quotedWord double 0 cursor.rest with
      | none => none
      | some word =>
        let behind : Cursor := ⟨word.rest, cursor.mark.pastAll (cursor.rest.take word.width)⟩
        let escaped := behind.peek == some '\\'
        let ahead := if escaped then (behind.skip 1).lineEnd.2 else behind
        if ahead.peek = some (closingQuote double) then some (word.text, ahead.skip 1)
        else match ahead.scanGap 0 (if escaped then .escaped else .none) with
          | none => none
          | some (gap, next) => (quotedFrom double fuel next).map fun (tail, last) =>
              (word.text ++ gap.text ++ tail, last)

/-- Reads the quoted scalar whose opening quote is at the cursor. -/
def Cursor.quoted (cursor : Cursor) (double : Bool) : Option (List Char × Cursor) :=
  quotedFrom double (cursor.rest.length + 1) (cursor.skip 1)

end Yaml
end CurveSheet
