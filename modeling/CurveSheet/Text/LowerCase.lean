/-
# Lower case

Every character is replaced by its lower-case form, which depends on two
characters only in part:

* `İ` becomes two characters, an `i` and a dot above;
* `Σ` becomes `ς` at the end of a word, that is, when a letter stands before it
  and none after it (characters that belong to no letter are passed over), and
  `σ` elsewhere.
-/

import CurveSheet.Text.LowerCase.Table

namespace CurveSheet
namespace Text

/-- The lower-case form of a character that has one of a single character. -/
def lowerChar (c : Char) : Char :=
  if 'A' ≤ c && c ≤ 'Z' then Char.ofNat (c.toNat + 32)
  else if c.toNat < 0x80 then c
  else match caseRuns.find? fun run => run.covers c.toNat with
    | some run => Char.ofNat (run.lower c.toNat)
    | none => c

/-- The first character that is not passed over is a letter with case. -/
def startsCased (text : List Char) : Bool :=
  match text.dropWhile caseIgnorableTable.contains with
  | c :: _ => casedTable.contains c
  | [] => false

/-- The lower-case form of one character, given what stands before it, nearest
first, and after it. -/
def lowerAt (before : List Char) (c : Char) (after : List Char) : List Char :=
  if c = 'Σ' then
    if startsCased before && !startsCased after then ['ς'] else ['σ']
  else if c = 'İ' then ['i', '\u0307']
  else [lowerChar c]

/-- The lower-case form of a text whose reversed predecessors are `before`. -/
def lowerFrom (before : List Char) : List Char → List Char
  | [] => []
  | c :: after => lowerAt before c after ++ lowerFrom (c :: before) after

/-- The lower-case form of a text. -/
def lower (text : List Char) : List Char := lowerFrom [] text

example : lower "SIN Σ ΑΣ ΑΣΑ İ".toList = "sin σ ας ασα i\u0307".toList := by decide +kernel

end Text
end CurveSheet
