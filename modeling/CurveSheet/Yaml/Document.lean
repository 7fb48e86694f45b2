/-
# Documents and their aliases

The anchors of a document are numbered in the order in which their nodes start: an
anchor gets the number of different names that were anchored before it.  A name
that is anchored anew gets a number of its own, but does not count again, so the
next new name shares that number.  An alias carries the number that its name has
where it stands, and means the last node of the document with this number.  At a
name that has no number yet the document is cut.
-/

import CurveSheet.Yaml.Node.Grammar
import CurveSheet.Yaml.Token.Scanner

namespace CurveSheet
namespace Yaml

/-- The names that are anchored so far, each once, with their numbers. -/
abbrev Anchors := List (List Char × Nat)

/-- The number of an anchor, if there is one, and the names with it. -/
def Anchors.give (anchors : Anchors) : Option (List Char) → Option Nat × Anchors
  | none => (none, anchors)
  | some name =>
    (some anchors.length, (name, anchors.length) :: anchors.filter (·.1 != name))

mutual

/-- Numbers the anchors and aliases of a node.  Where an alias has no number, the node is cut
there and no names are left. -/
def numberNode (anchors : Anchors) : Node (List Char) → Node Nat × Option Anchors
  | .scalar mark anchor scalar =>
    let (number, known) := anchors.give anchor
    (.scalar mark number scalar, some known)
  | .sequence mark anchor tag items =>
    let (number, known) := anchors.give anchor
    let (inner, last) := numberItems known items
    (.sequence mark number tag inner, last)
  | .mapping mark anchor tag entries =>
    let (number, known) := anchors.give anchor
    let (inner, last) := numberEntries known entries
    (.mapping mark number tag inner, last)
  | .alias mark name =>
    match anchors.lookup name with
    | some number => (.alias mark number, some anchors)
    | none => (.cut, none)
  | .cut => (.cut, none)

/-- Numbers the anchors and aliases of nodes, one after the other. -/
def numberItems (anchors : Anchors) : List (Node (List Char)) → List (Node Nat) × Option Anchors
  | [] => ([], some anchors)
  | item :: rest =>
    match numberNode anchors item with
    | (first, none) => ([first, .cut], none)
    | (first, some known) =>
      let (others, last) := numberItems known rest
      (first :: others, last)

/-- Numbers the anchors and aliases of pairs, each key before its value. -/
def numberEntries (anchors : Anchors) : List (Node (List Char) × Node (List Char)) →
    List (Node Nat × Node Nat) × Option Anchors
  | [] => ([], some anchors)
  | (key, value) :: rest =>
    match numberNode anchors key with
    | (first, none) => ([(first, .cut), (.cut, .cut)], none)
    | (first, some known) =>
      match numberNode known value with
      | (second, none) => ([(first, second), (.cut, .cut)], none)
      | (second, some known) =>
        let (others, last) := numberEntries known rest
        ((first, second) :: others, last)

end

/-- A node that is no alias, without its anchor. -/
inductive Content where
  | scalar (mark : Mark) (scalar : Scalar)
  | sequence (mark : Mark) (tag : Option (List Char)) (items : List (Node Nat))
  | mapping (mark : Mark) (tag : Option (List Char)) (entries : List (Node Nat × Node Nat))

/-- The place of a node. -/
def Content.mark : Content → Mark
  | scalar mark _ => mark
  | sequence mark _ _ => mark
  | mapping mark _ _ => mark

/-- A content with the number of its anchor, if there is one. -/
def anchoredAs (anchor : Option Nat) (content : Content) : List (Nat × Content) :=
  match anchor with
  | some number => [(number, content)]
  | none => []

mutual

/-- The anchored nodes in a node, in the order in which they start. -/
def anchoredIn : Node Nat → List (Nat × Content)
  | .scalar mark anchor scalar => anchoredAs anchor (.scalar mark scalar)
  | .sequence mark anchor tag items =>
    anchoredAs anchor (.sequence mark tag items) ++ anchoredInItems items
  | .mapping mark anchor tag entries =>
    anchoredAs anchor (.mapping mark tag entries) ++ anchoredInEntries entries
  | .alias _ _ => []
  | .cut => []

/-- The anchored nodes in nodes. -/
def anchoredInItems : List (Node Nat) → List (Nat × Content)
  | [] => []
  | item :: rest => anchoredIn item ++ anchoredInItems rest

/-- The anchored nodes in pairs. -/
def anchoredInEntries : List (Node Nat × Node Nat) → List (Nat × Content)
  | [] => []
  | (key, value) :: rest => anchoredIn key ++ anchoredIn value ++ anchoredInEntries rest

end

mutual

/-- The size of a node: scalars and aliases count once, and so do the start and the end of
what holds others.  What is cut has no size, and what is cut off has no end. -/
def nodeSize : Node Nat → Nat
  | .scalar _ _ _ => 1
  | .sequence _ _ _ items => 1 + itemsSize items
  | .mapping _ _ _ entries => 1 + entriesSize entries
  | .alias _ _ => 1
  | .cut => 0

/-- The size of nodes and of the end behind them. -/
def itemsSize : List (Node Nat) → Nat
  | [] => 1
  | .cut :: _ => 0
  | item :: rest => nodeSize item + itemsSize rest

/-- The size of pairs and of the end behind them. -/
def entriesSize : List (Node Nat × Node Nat) → Nat
  | [] => 1
  | (.cut, _) :: _ => 0
  | (key, value) :: rest => nodeSize key + nodeSize value + entriesSize rest

end

/-- A document: its top node, the anchored nodes with the last first, its size, and whether
the text holds nothing but it. -/
structure Document where
  root : Node Nat
  anchored : List (Nat × Content)
  size : Nat
  complete : Bool

namespace Document

/-- The document with a top node. -/
def ofRoot (root : Node Nat) (complete : Bool) : Document :=
  ⟨root, (anchoredIn root).reverse, nodeSize root, complete⟩

/-- What an alias means. -/
def target (document : Document) (number : Nat) : Content :=
  (document.anchored.lookup number).getD (.scalar .start .empty)

/-- The first document in a text, none if there is no document at all. -/
def read? (text : List Char) : Option Document :=
  let all := tokens text
  if startsWith [.streamEnd] all then none
  else
    let read := firstDocument all
    let (root, anchors) := numberNode [] read.value
    some (ofRoot root (anchors.isSome && isDone read.rest))

end Document
end Yaml
end CurveSheet
