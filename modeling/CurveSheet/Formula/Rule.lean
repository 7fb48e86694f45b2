/-
# Rules for the start of words

A *rule* looks at a text that starts at the start of a word and may put other
characters in place of its first few.  It is applied to a text once, from the left,
wherever a word starts: at a character whose predecessor is no ASCII word
character.  What a rule has replaced is not looked at again, but its last
character counts as the predecessor of what follows.
-/

import CurveSheet.Text.Alphanumeric

namespace CurveSheet
namespace Formula

open Text

/-- What replaces the start of a text, and how many characters it replaces. -/
abbrev Rule := List Char → Option (List Char × Nat)

/-- Applies a rule at every start of a word.  The first `covered` characters have been
replaced already; `inWord` says whether a word character stands before the text. -/
def Rule.applyFrom (rule : Rule) : (covered : Nat) → (inWord : Bool) → List Char → List Char
  | _, _, [] => []
  | covered + 1, _, c :: rest => rule.applyFrom covered (isWordChar c) rest
  | 0, inWord, c :: rest =>
    match if inWord then none else rule (c :: rest) with
    | some (replacement, width) => replacement ++ rule.applyFrom (width - 1) (isWordChar c) rest
    | none => c :: rule.applyFrom 0 (isWordChar c) rest

/-- Applies a rule once through a text. -/
def Rule.apply (rule : Rule) (text : List Char) : List Char := rule.applyFrom 0 false text

end Formula
end CurveSheet
