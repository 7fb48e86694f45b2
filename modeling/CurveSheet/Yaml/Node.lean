/-
# Nodes

A document is a tree of scalars, sequences and mappings.  Every node has the place
where it starts, and may have an anchor by which aliases refer to it.  What anchors
and aliases carry depends on how far the document has been read: first the names
that were written, later numbers.

A text that stops following the rules still has a tree as far as it goes.  There the
node that should come next is *cut*, and so is what should follow every collection
around it.
-/

import CurveSheet.Yaml.Mark
import CurveSheet.Yaml.Scalar

namespace CurveSheet
namespace Yaml

/-- A node whose anchors and aliases carry an `α`. -/
inductive Node (α : Type) where
  | scalar (mark : Mark) (anchor : Option α) (scalar : Scalar)
  | sequence (mark : Mark) (anchor : Option α) (tag : Option (List Char))
    (items : List (Node α))
  | mapping (mark : Mark) (anchor : Option α) (tag : Option (List Char))
    (entries : List (Node α × Node α))
  | alias (mark : Mark) (target : α)
  /-- The text cannot be read from here on. -/
  | cut

/-- The node that stands where nothing is written. -/
def Node.void {α : Type} (mark : Mark) : Node α := .scalar mark none .empty

end Yaml
end CurveSheet
