/-
# Tokens

A text is first cut into tokens: the marks that structure a document, with those for
the start and end of blocks that only indentation shows, and the scalars, names
and tags between them.
-/

import CurveSheet.Yaml.Mark
import CurveSheet.Yaml.Scalar

namespace CurveSheet
namespace Yaml

/-- What a token is. -/
inductive TokenKind where
  | streamEnd
  | versionDirective (major minor : Nat)
  | tagDirective (handle start : List Char)
  | documentStart
  | documentEnd
  | blockSequenceStart
  | blockMappingStart
  | blockEnd
  | flowSequenceStart
  | flowSequenceEnd
  | flowMappingStart
  | flowMappingEnd
  | blockEntry
  | flowEntry
  | key
  | value
  | alias (name : List Char)
  | anchor (name : List Char)
  | tag (handle suffix : List Char)
  | scalar (text : List Char) (style : ScalarStyle)
  deriving DecidableEq

/-- A token, where it starts and where it ends. -/
structure Token where
  kind : TokenKind
  start : Mark
  stop : Mark
  deriving DecidableEq

end Yaml
end CurveSheet
