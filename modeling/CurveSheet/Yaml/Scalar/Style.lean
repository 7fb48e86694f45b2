/-
# The style in which a text is written

A text is written in the simplest style that keeps it:

| text | style |
| --- | --- |
| has a line feed | literal, if its lines can stand as they are |
| reads as plain text and has nothing that YAML gives a meaning | plain |
| all its characters can be shown and its lines can be folded | single-quoted |
| anything else | double-quoted |

A text that would be null, a boolean or a number if it were plain, or that is digits
behind a leading zero, is never plain.
-/

import CurveSheet.Yaml.Meaning

namespace CurveSheet
namespace Yaml

/-- The character can be written as it is. -/
def isShown (c : Char) : Bool :=
  c == '\n' || (0x20 ≤ c.toNat && c.toNat ≤ 0x7E) || (0xA0 ≤ c.toNat && c.toNat ≤ 0xD7FF) ||
    (0xE000 ≤ c.toNat && c.toNat ≤ 0xFFFD && c.toNat != 0xFEFF) || 0x10000 ≤ c.toNat

theorem isAllowed_of_isShown {c : Char} (h : isShown c = true) : isAllowed c = true := by
  simp only [isShown, isAllowed, Bool.or_eq_true, Bool.and_eq_true, decide_eq_true_eq,
    beq_iff_eq] at *
  grind

/-- Two neighbours in a text have a property each. -/
def hasPair (p q : Char → Bool) : List Char → Bool
  | a :: b :: rest => (p a && q b) || hasPair p q (b :: rest)
  | _ => false

/-- A space. -/
def isSpace (c : Char) : Bool := c == ' '

/-- A space or a line end. -/
def isSpaceOrBreak (c : Char) : Bool := isSpace c || isBreak c

/-- The characters with which no plain scalar starts. -/
def isOpening (c : Char) : Bool :=
  isFlowIndicator c || ['#', '&', '*', '!', '|', '>', '\'', '"', '%', '@', '\x60'].contains c

/-- The text has a sign that means something to a reader of plain scalars. -/
def hasIndicator (text : List Char) : Bool :=
  ['-', '-', '-'].isPrefixOf text || ['.', '.', '.'].isPrefixOf text ||
    text.head?.any isOpening ||
    ((text.head? == some '?' || text.head? == some '-') && endsWord text.tail.head?) ||
    hasPair (· == ':') isSeparator text || text.getLast? == some ':' ||
    hasPair isSeparator (· == '#') text

/-- Some character cannot be shown, or a line ends with a space. -/
def needsEscapes (text : List Char) : Bool := !text.all isShown || hasPair isSpace isBreak text

/-- The text can be plain. -/
def plainAllowed (text : List Char) : Bool :=
  !needsEscapes text && !text.any isBreak && !text.head?.any isSpace &&
    !text.getLast?.any isSpace && !hasIndicator text

/-- The text can stand between single quotes. -/
def singleQuotedAllowed (text : List Char) : Bool :=
  !needsEscapes text && !hasPair isBreak isSpace text

/-- The text can be a literal block. -/
def literalAllowed (text : List Char) : Bool :=
  !needsEscapes text && !text.getLast?.any isSpace

/-- The text would be read as plain text. -/
def readsAsText (text : List Char) : Bool := plainMeaning text == .text text && !isPadded text

/-- The style in which a text is written. -/
def styleOf (text : List Char) : ScalarStyle :=
  if text.contains '\n' then
    if literalAllowed text then .literal else .doubleQuoted
  else if readsAsText text && plainAllowed text then .plain
  else if singleQuotedAllowed text then .singleQuoted
  else .doubleQuoted

end Yaml
end CurveSheet
