/-
# Names, tags and directives

An anchor or alias is a name behind `&` or `*`.  A tag is written in one of the forms

| form | handle | suffix |
| --- | --- | --- |
| `!<uri>` | none | `uri` |
| `!name!suffix`, `!!suffix` | `!name!`, `!!` | `suffix` |
| `!suffix` | `!` | `suffix` |
| `!` | none | `!` |

A directive is a line that gives the version of the language or a meaning to a
tag handle.
-/

import CurveSheet.Number.Power
import CurveSheet.Yaml.Cursor
import CurveSheet.Yaml.Token

namespace CurveSheet
namespace Yaml

/-- What may stand right behind the name of an anchor or alias. -/
def endsName (next : Option Char) : Bool :=
  endsWord next || next.any ['?', ':', ',', ']', '\x7d', '%', '@', '\x60'].contains

/-- Reads the name of an anchor or alias, whose sign is at the cursor. -/
def Cursor.name (cursor : Cursor) : Option (List Char × Cursor) :=
  let (name, behind) := (cursor.skip 1).span isNameChar
  if name.isEmpty || !endsName behind.peek then none else some (name, behind)

/-- The number of bytes of the character whose first byte is given. -/
def byteWidth? (byte : Nat) : Option Nat :=
  if byte < 0x80 then some 1
  else if 0xC0 ≤ byte ∧ byte < 0xE0 then some 2
  else if 0xE0 ≤ byte ∧ byte < 0xF0 then some 3
  else if 0xF0 ≤ byte ∧ byte < 0xF8 then some 4
  else none

/-- A byte written as a percent sign and two digits. -/
def percentByte? : List Char → Option Nat
  | '%' :: high :: low :: _ =>
    match hexDigit? high, hexDigit? low with
    | some h, some l => some (16 * h + l)
    | _, _ => none
  | _ => none

/-- The value of `count` further bytes of a character. -/
def percentTail? (value : Nat) : (count : Nat) → List Char → Option Nat
  | 0, _ => some value
  | count + 1, text =>
    match percentByte? text with
    | some byte =>
      if 0x80 ≤ byte ∧ byte < 0xC0 then percentTail? (64 * value + byte % 64) count (text.drop 3)
      else none
    | none => none

/-- The character that percent signs stand for, and the number of its bytes. -/
def percentChar? (text : List Char) : Option (Char × Nat) :=
  match percentByte? text with
  | none => none
  | some byte =>
    match byteWidth? byte with
    | none => none
    | some width =>
      let start := if width = 1 then byte else byte % 2 ^ (7 - width)
      (percentTail? start (width - 1) (text.drop 3)).map fun value => (Char.ofNat value, width)

/-- Characters of a tag and the number of characters they are written with. -/
def tagChars (allowed : Char → Bool) : (covered : Nat) → List Char → Option (List Char × Nat)
  | _, [] => some ([], 0)
  | covered + 1, _ :: rest => (tagChars allowed covered rest).map fun (text, n) => (text, n + 1)
  | 0, c :: rest =>
    if !allowed c then some ([], 0)
    else if c = '%' then
      match percentChar? (c :: rest) with
      | none => none
      | some (value, width) =>
        (tagChars allowed (3 * width - 1) rest).map fun (text, n) => (value :: text, n + 1)
    else (tagChars allowed 0 rest).map fun (text, n) => (c :: text, n + 1)

/-- Reads characters of a tag. -/
def Cursor.tagText (cursor : Cursor) (allowed : Char → Bool) : Option (List Char × Cursor) :=
  (tagChars allowed 0 cursor.rest).map fun (text, n) => (text, cursor.skip n)

/-- Reads `!`, a name, and `!` once more if it is there. -/
def Cursor.tagHandle (cursor : Cursor) : Option (List Char × Cursor) :=
  if cursor.peek = some '!' then
    let (name, behind) := (cursor.skip 1).span isNameChar
    if behind.peek = some '!' then some ('!' :: name ++ ['!'], behind.skip 1)
    else some ('!' :: name, behind)
  else none

/-- Reads a tag between angle brackets. -/
def Cursor.verbatimTag (cursor : Cursor) : Option (TokenKind × Cursor) :=
  match (cursor.skip 2).tagText isVerbatimTagChar with
  | none => none
  | some (suffix, behind) =>
    if suffix.isEmpty || behind.peek != some '>' then none
    else some (.tag [] suffix, behind.skip 1)

/-- Reads a tag with or without a handle. -/
def Cursor.shortTag (cursor : Cursor) : Option (TokenKind × Cursor) :=
  match cursor.tagHandle with
  | none => none
  | some (handle, behind) =>
    match behind.tagText isTagChar with
    | none => none
    | some (tail, ahead) =>
      if 2 ≤ handle.length ∧ handle.getLast? = some '!' then
        if tail.isEmpty then none else some (.tag handle tail, ahead)
      else
        let suffix := handle.drop 1 ++ tail
        if suffix.isEmpty then some (.tag [] ['!'], ahead) else some (.tag ['!'] suffix, ahead)

/-- Reads the tag at the cursor. -/
def Cursor.tag (cursor : Cursor) (inFlow : Bool) : Option (TokenKind × Cursor) :=
  let read := if cursor.peekAt 1 = some '<' then cursor.verbatimTag else cursor.shortTag
  match read with
  | none => none
  | some (kind, behind) =>
    if endsWord behind.peek || (inFlow && behind.peek == some ',') then some (kind, behind)
    else none

/-- Reads a number of at most nine digits. -/
def Cursor.versionNumber (cursor : Cursor) : Option (Nat × Cursor) :=
  let (digits, behind) := cursor.span isDecimal
  if digits.isEmpty || 9 < digits.length then none
  else some (digits.foldl (fun n c => 10 * n + (c.toNat - '0'.toNat)) 0, behind)

/-- Reads the version in a directive. -/
def Cursor.versionDirective (cursor : Cursor) : Option (TokenKind × Cursor) :=
  match (cursor.span isGap).2.versionNumber with
  | none => none
  | some (major, behind) =>
    if behind.peek ≠ some '.' then none
    else (behind.skip 1).versionNumber.map fun (minor, ahead) =>
      (.versionDirective major minor, ahead)

/-- Reads the handle and the meaning in a directive. -/
def Cursor.tagDirective (cursor : Cursor) : Option (TokenKind × Cursor) :=
  match (cursor.span isGap).2.tagHandle with
  | none => none
  | some (handle, behind) =>
    if (2 ≤ handle.length ∧ handle.getLast? ≠ some '!') ∨ !(behind.peek.any isGap) then none
    else
      match (behind.span isGap).2.tagText isVerbatimTagChar with
      | none => none
      | some (start, ahead) =>
        if start.isEmpty || !endsWord ahead.peek then none
        else some (.tagDirective handle start, ahead)

/-- Reads the directive at the cursor with the rest of its line. -/
def Cursor.directive (cursor : Cursor) : Option (TokenKind × Cursor) :=
  let (name, behind) := (cursor.skip 1).span isNameChar
  let read :=
    if name.isEmpty || !endsWord behind.peek then none
    else if name = ['Y', 'A', 'M', 'L'] then behind.versionDirective
    else if name = ['T', 'A', 'G'] then behind.tagDirective
    else none
  match read with
  | none => none
  | some (kind, ahead) =>
    let last := ahead.skipToLineEnd
    if endsLine last.peek then some (kind, last.lineEnd.2) else none

end Yaml
end CurveSheet
