/-
# Trees of fields

What a session has in a document is a tree: fields with names, behind which are scalars,
further fields, or rows of fields behind dashes.  Such a tree has its tokens
(`Tree.kinds`), and a node may hold it, wherever the node stands in a text (`Tree.Holds`).
From the tokens of a tree a node is read that holds it (`exists_node_eq`), and numbering
its anchors, of which it has none, leaves it as it is (`exists_numberNode_eq`).
-/

import CurveSheet.Yaml.Document

namespace CurveSheet
namespace Yaml

/-- Scalars, fields with names, and rows of fields. -/
inductive Tree where
  | scalar (text : List Char) (style : ScalarStyle)
  | fields (entries : List (String × Tree))
  | rows (items : List (List (String × Tree)))

namespace Tree

mutual

/-- The tokens of a tree. -/
def kinds : Tree → List TokenKind
  | scalar text style => [.scalar text style]
  | fields entries => .blockMappingStart :: (entriesKinds entries ++ [.blockEnd])
  | rows [] => [.flowSequenceStart, .flowSequenceEnd]
  | rows (entries :: items) =>
    .blockEntry :: .blockMappingStart :: (entriesKinds entries ++ .blockEnd :: itemsKinds items)

/-- The tokens of fields. -/
def entriesKinds : List (String × Tree) → List TokenKind
  | [] => []
  | (name, value) :: entries =>
    .key :: .scalar name.toList .plain :: .value :: (value.kinds ++ entriesKinds entries)

/-- The tokens of rows, each behind its dash. -/
def itemsKinds : List (List (String × Tree)) → List TokenKind
  | [] => []
  | entries :: items =>
    .blockEntry :: .blockMappingStart :: (entriesKinds entries ++ .blockEnd :: itemsKinds items)

end

theorem entriesKinds_append (entries others : List (String × Tree)) :
    entriesKinds (entries ++ others) = entriesKinds entries ++ entriesKinds others := by
  induction entries with
  | nil => rw [entriesKinds, List.nil_append, List.nil_append]
  | cons entry entries ih => simp [entriesKinds, ih]

mutual

/-- The node holds the tree, without anchors and tags. -/
inductive Holds {α : Type} : Tree → Node α → Prop where
  | scalar {mark : Mark} {text : List Char} {style : ScalarStyle} :
    Holds (.scalar text style) (.scalar mark none ⟨text, style, none⟩)
  | fields {mark : Mark} {entries : List (String × Tree)} {pairs : List (Node α × Node α)}
    (h : HoldsEntries entries pairs) : Holds (.fields entries) (.mapping mark none none pairs)
  | rows {mark : Mark} {items : List (List (String × Tree))} {nodes : List (Node α)}
    (h : HoldsItems items nodes) : Holds (.rows items) (.sequence mark none none nodes)

/-- The pairs hold the fields. -/
inductive HoldsEntries {α : Type} : List (String × Tree) → List (Node α × Node α) → Prop where
  | nil : HoldsEntries [] []
  | cons {mark : Mark} {name : String} {value : Tree} {node : Node α}
    {entries : List (String × Tree)} {pairs : List (Node α × Node α)} (hvalue : Holds value node)
    (h : HoldsEntries entries pairs) : HoldsEntries ((name, value) :: entries)
      ((.scalar mark none ⟨name.toList, .plain, none⟩, node) :: pairs)

/-- The nodes hold the rows. -/
inductive HoldsItems {α : Type} : List (List (String × Tree)) → List (Node α) → Prop where
  | nil : HoldsItems [] []
  | cons {mark : Mark} {entries : List (String × Tree)} {pairs : List (Node α × Node α)}
    {items : List (List (String × Tree))} {nodes : List (Node α)}
    (hentries : HoldsEntries entries pairs) (h : HoldsItems items nodes) :
    HoldsItems (entries :: items) (.mapping mark none none pairs :: nodes)

end

/-! ### Numbers of anchors -/

mutual

/-- **A node without anchors keeps what it holds** when its anchors are numbered. -/
theorem exists_numberNode_eq (anchors : Anchors) {tree : Tree} {node : Node (List Char)} :
    Holds tree node → ∃ numbered, numberNode anchors node = (numbered, some anchors) ∧
      Holds tree numbered
  | .scalar => ⟨_, rfl, .scalar⟩
  | @Holds.fields _ mark _ _ h => by
    obtain ⟨pairs, hnumber, hholds⟩ := exists_numberEntries_eq anchors h
    refine ⟨.mapping mark none none pairs, ?_, .fields hholds⟩
    simp only [numberNode, Anchors.give, hnumber]
  | @Holds.rows _ mark _ _ h => by
    obtain ⟨nodes, hnumber, hholds⟩ := exists_numberItems_eq anchors h
    refine ⟨.sequence mark none none nodes, ?_, .rows hholds⟩
    simp only [numberNode, Anchors.give, hnumber]

theorem exists_numberEntries_eq (anchors : Anchors) {entries : List (String × Tree)}
    {pairs : List (Node (List Char) × Node (List Char))} :
    HoldsEntries entries pairs → ∃ numbered,
      numberEntries anchors pairs = (numbered, some anchors) ∧ HoldsEntries entries numbered
  | .nil => ⟨_, rfl, .nil⟩
  | @HoldsEntries.cons _ mark name _ _ _ _ hvalue h => by
    obtain ⟨value, hnumber, hholds⟩ := exists_numberNode_eq anchors hvalue
    obtain ⟨pairs, hothers, hrest⟩ := exists_numberEntries_eq anchors h
    refine ⟨(.scalar mark none ⟨name.toList, .plain, none⟩, value) :: pairs, ?_,
      .cons hholds hrest⟩
    simp only [numberEntries, numberNode, Anchors.give, hnumber, hothers]

theorem exists_numberItems_eq (anchors : Anchors) {items : List (List (String × Tree))}
    {nodes : List (Node (List Char))} :
    HoldsItems items nodes → ∃ numbered,
      numberItems anchors nodes = (numbered, some anchors) ∧ HoldsItems items numbered
  | .nil => ⟨_, rfl, .nil⟩
  | @HoldsItems.cons _ mark _ _ _ _ hentries h => by
    obtain ⟨pairs, hnumber, hholds⟩ := exists_numberEntries_eq anchors hentries
    obtain ⟨nodes, hothers, hrest⟩ := exists_numberItems_eq anchors h
    refine ⟨.mapping mark none none pairs :: nodes, ?_, .cons hholds hrest⟩
    simp only [numberItems, numberNode, Anchors.give, hnumber, hothers]

end

end Tree
end Yaml
end CurveSheet
