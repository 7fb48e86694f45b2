/-
# Texts as bytes in UTF-8

A text is stored by one to four bytes for each of its characters.  Bytes that are no text
can still be shown as one: a byte that starts no character, and bytes that start one but
that the next byte does not go on with, are shown as the replacement character.

| first byte | bounds of the second | bytes of the character |
| --- | --- | ---: |
| `00` to `7F` | | 1 |
| `C2` to `DF` | `80` to `BF` | 2 |
| `E0` | `A0` to `BF` | 3 |
| `E1` to `EC`, `EE`, `EF` | `80` to `BF` | 3 |
| `ED` | `80` to `9F` | 3 |
| `F0` | `90` to `BF` | 4 |
| `F1` to `F3` | `80` to `BF` | 4 |
| `F4` | `80` to `8F` | 4 |

All bytes behind the second are from `80` to `BF`, no character starts with another first
byte, and every byte behind the first carries six bits of the character's number.
-/

namespace CurveSheet
namespace Text
namespace Utf8

/-- The bytes of a text. -/
def encode (text : List Char) : List UInt8 := text.flatMap String.utf8EncodeChar

/-- The bytes are a text. -/
def IsText (bytes : List UInt8) : Prop := ∃ text, encode text = bytes

/-- What is shown in the place of bytes that are no character. -/
def replacement : Char := '\ufffd'

/-- A character that some bytes have started: the number that they spell, the bounds of the next
byte, and how many more bytes come behind that one. -/
structure Started where
  value : Nat
  low : Nat
  high : Nat
  more : Nat

/-- What a byte gives where a character starts: a character, or what it starts. -/
def start (b : Nat) : List Char × Option Started :=
  if b < 0x80 then ([Char.ofNat b], none)
  else if b < 0xC2 then ([replacement], none)
  else if b < 0xE0 then ([], some ⟨b - 0xC0, 0x80, 0xBF, 0⟩)
  else if b < 0xF0 then
    ([], some ⟨b - 0xE0, if b = 0xE0 then 0xA0 else 0x80, if b = 0xED then 0x9F else 0xBF, 1⟩)
  else if b < 0xF5 then
    ([], some ⟨b - 0xF0, if b = 0xF0 then 0x90 else 0x80, if b = 0xF4 then 0x8F else 0xBF, 2⟩)
  else ([replacement], none)

/-- The number that a started character spells with one more byte. -/
def Started.valueWith (started : Started) (b : Nat) : Nat := started.value * 0x40 + (b - 0x80)

/-- What a byte gives that goes on with a started character. -/
def Started.next (started : Started) (b : Nat) : List Char × Option Started :=
  match started.more with
  | 0 => ([Char.ofNat (started.valueWith b)], none)
  | more + 1 => ([], some ⟨started.valueWith b, 0x80, 0xBF, more⟩)

/-- What a byte gives; one that does not go on with a started character starts another. -/
def step : Option Started → Nat → List Char × Option Started
  | none, b => start b
  | some started, b =>
    if started.low ≤ b ∧ b ≤ started.high then started.next b
    else (replacement :: (start b).1, (start b).2)

/-- What bytes are shown as where a character may be started already. -/
def decodeFrom (started : Option Started) : List UInt8 → List Char
  | [] => if started.isSome then [replacement] else []
  | b :: rest => (step started b.toNat).1 ++ decodeFrom (step started b.toNat).2 rest

/-- What bytes are shown as. -/
def decode (bytes : List UInt8) : List Char := decodeFrom none bytes

/-- Cut characters, a stray byte and half of a surrogate pair. -/
example : decode [0x63, 0xE9, 0xE2, 0x82, 0x2F, 0xED, 0xA0, 0x80] =
    ['c', '\ufffd', '\ufffd', '/', '\ufffd', '\ufffd', '\ufffd'] := by decide

end Utf8
end Text
end CurveSheet
