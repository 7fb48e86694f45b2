/-
# Nodes from the tokens of a tree

The grammar reads the tokens of a tree as a node that holds the tree, and stops behind
them (`Tree.exists_node_eq`), so a text with the tokens of fields and no others is a
document of these fields (`Document.exists_read?_eq`).
-/

import CurveSheet.Proofs.Yaml.Node.Tree

namespace CurveSheet
namespace Yaml

variable {handles : TagHandles} {fuel : Nat}

/-! ### Single steps of the grammar -/

/-- A scalar is a node of its own. -/
theorem node_scalar {block indentless : Bool} {token : Token} {text : List Char}
    {style : ScalarStyle} (hkind : token.kind = .scalar text style) (rest : List Token) :
    node handles (fuel + 1) block indentless (token :: rest) =
      ⟨.scalar token.start none ⟨text, style, none⟩, some rest⟩ := by
  obtain ⟨kind, start, stop⟩ := token
  subst hkind
  rfl

/-- What a block of pairs holds is a mapping. -/
theorem node_blockMapping {indentless : Bool} {token : Token}
    (hkind : token.kind = .blockMappingStart) {inside rest : List Token}
    {pairs : List (Node (List Char) × Node (List Char))}
    (hpairs : blockPairs handles fuel inside = ⟨pairs, some rest⟩) :
    node handles (fuel + 1) true indentless (token :: inside) =
      ⟨.mapping token.start none none pairs, some rest⟩ := by
  obtain ⟨kind, start, stop⟩ := token
  subst hkind
  simp [node, properties, resolveTag, nextMark, hpairs, Read.map]

/-- Entries behind dashes are a sequence where no block is needed. -/
theorem node_blockEntry {token : Token} (hkind : token.kind = .blockEntry)
    {inside rest : List Token} {nodes : List (Node (List Char))}
    (hnodes : dashEntries handles fuel false (token :: inside) = ⟨nodes, some rest⟩) :
    node handles (fuel + 1) true true (token :: inside) =
      ⟨.sequence token.start none none nodes, some rest⟩ := by
  obtain ⟨kind, start, stop⟩ := token
  subst hkind
  simp [node, properties, resolveTag, nextMark, hnodes, Read.map]

/-- Brackets with nothing between them are an empty sequence. -/
theorem node_emptyBrackets {opening closing : Token}
    (hopening : opening.kind = .flowSequenceStart) (hclosing : closing.kind = .flowSequenceEnd)
    (rest : List Token) :
    node handles (fuel + 2) true true (opening :: closing :: rest) =
      ⟨.sequence opening.start none none [], some rest⟩ := by
  obtain ⟨_, start, stop⟩ := opening
  obtain ⟨_, start', stop'⟩ := closing
  subst hopening hclosing
  simp [node, properties, resolveTag, nextMark, flowItems, Read.map]

/-- A node is read where its tokens start with none of the kinds before which it may be left
out. -/
theorem nodeUnless_eq {ends : List TokenKind} {void : List Token → Mark}
    {read : List Token → Read (Node (List Char))} {token : Token} (h : token.kind ∉ ends)
    (rest : List Token) : nodeUnless ends void read (token :: rest) = read (token :: rest) := by
  simp [nodeUnless, startsWith, h]

/-- A pair in a block: key, colon and value. -/
theorem blockPairs_cons {key name colon first : Token} {text : List Char}
    {style : ScalarStyle} {inside rest behind : List Token} {value : Node (List Char)}
    {pairs : List (Node (List Char) × Node (List Char))} (hkey : key.kind = .key)
    (hname : name.kind = .scalar text style) (hcolon : colon.kind = .value)
    (hfirst : first.kind ∉ [TokenKind.key, .value, .blockEnd])
    (hvalue : node handles (fuel + 1) true true (first :: inside) = ⟨value, some rest⟩)
    (hpairs : blockPairs handles (fuel + 1) rest = ⟨pairs, some behind⟩) :
    blockPairs handles (fuel + 2) (key :: name :: colon :: first :: inside) =
      ⟨(.scalar name.start none ⟨text, style, none⟩, value) :: pairs, some behind⟩ := by
  obtain ⟨_, start, stop⟩ := key
  obtain ⟨_, start', stop'⟩ := colon
  subst hkey hcolon
  have hunit : name.kind ∉ [TokenKind.key, .value, .blockEnd] := by simp [hname]
  simp only [blockPairs, nodeUnless_eq hunit, node_scalar hname, nodeUnless_eq hfirst, hvalue,
    Read.pair, Read.entries, hpairs]

/-- An entry behind its dash. -/
theorem dashEntries_cons {dash first : Token} {inside rest behind : List Token}
    {item : Node (List Char)} {nodes : List (Node (List Char))} (hdash : dash.kind = .blockEntry)
    (hfirst : first.kind ∉ [TokenKind.blockEntry, .key, .value, .blockEnd])
    (hitem : node handles fuel true false (first :: inside) = ⟨item, some rest⟩)
    (hnodes : dashEntries handles fuel false rest = ⟨nodes, some behind⟩) :
    dashEntries handles (fuel + 1) false (dash :: first :: inside) =
      ⟨item :: nodes, some behind⟩ := by
  obtain ⟨_, start, stop⟩ := dash
  subst hdash
  simp only [dashEntries, Bool.false_eq_true, if_false, nodeUnless_eq hfirst, hitem, Read.items,
    hnodes]

/-- Entries that are no block end where no dash follows. -/
theorem dashEntries_stop {token : Token} (h : token.kind ≠ .blockEntry) (rest : List Token) :
    dashEntries handles (fuel + 1) false (token :: rest) = ⟨[], some (token :: rest)⟩ := by
  obtain ⟨kind, start, stop⟩ := token
  cases kind <;> first | rfl | exact absurd rfl h

namespace Tree

/-! ### Trees -/

/-- The tokens of a tree start with one before which no value is left out. -/
theorem exists_kinds_eq_cons (tree : Tree) : ∃ first others, tree.kinds = first :: others ∧
    first ∉ [TokenKind.key, .value, .blockEnd] := by
  cases tree with
  | scalar text style => exact ⟨_, _, by rw [kinds], by simp⟩
  | fields entries => exact ⟨_, _, by rw [kinds], by simp⟩
  | rows items => cases items <;> exact ⟨_, _, by rw [kinds], by simp⟩

/-- No dash comes next. -/
def NoDash (rest : List Token) : Prop :=
  ∃ token others, rest = token :: others ∧ token.kind ≠ .blockEntry

/-- Behind a value in a block stands the next key or the end of the block. -/
theorem noDash_entries {entries : List (String × Tree)} {tokens : List Token}
    (hkinds : tokens.map Token.kind = entriesKinds entries ++ [.blockEnd]) (rest : List Token) :
    NoDash (tokens ++ rest) := by
  cases entries with
  | nil =>
    obtain ⟨token, others, rfl, hkind, -⟩ := List.map_eq_cons_iff.mp hkinds
    exact ⟨token, others ++ rest, rfl, by simp [hkind]⟩
  | cons entry entries =>
    obtain ⟨token, others, rfl, hkind, -⟩ := List.map_eq_cons_iff.mp hkinds
    exact ⟨token, others ++ rest, rfl, by simp [hkind]⟩

mutual

/-- **The tokens of a tree are read as a node that holds it**, up to the tokens behind them. -/
theorem exists_node_eq {tokens rest : List Token} {fuel : Nat} (hrest : NoDash rest) :
    (tree : Tree) → tokens.map Token.kind = tree.kinds → tokens.length + 1 < fuel →
    ∃ read, node handles fuel true true (tokens ++ rest) = ⟨read, some rest⟩ ∧ Holds tree read
  | .scalar text style, hkinds, hfuel => by
    obtain ⟨token, others, rfl, hkind, hothers⟩ := List.map_eq_cons_iff.mp hkinds
    obtain rfl := List.map_eq_nil_iff.mp hothers
    obtain ⟨fuel, rfl⟩ : ∃ less, fuel = less + 1 := ⟨fuel - 1, by omega⟩
    exact ⟨_, node_scalar hkind rest, .scalar⟩
  | .fields entries, hkinds, hfuel => by
    obtain ⟨token, inside, rfl, hkind, hinside⟩ := List.map_eq_cons_iff.mp hkinds
    obtain ⟨fuel, rfl⟩ : ∃ less, fuel = less + 1 := ⟨fuel - 1, by omega⟩
    have hless : inside.length < fuel := by simp only [List.length_cons] at hfuel; omega
    obtain ⟨pairs, hread, hholds⟩ := exists_blockPairs_eq rest entries hinside hless
    exact ⟨_, node_blockMapping hkind hread, .fields hholds⟩
  | .rows [], hkinds, hfuel => by
    obtain ⟨opening, others, rfl, hopening, hothers⟩ := List.map_eq_cons_iff.mp hkinds
    obtain ⟨closing, others, rfl, hclosing, hothers⟩ := List.map_eq_cons_iff.mp hothers
    obtain rfl := List.map_eq_nil_iff.mp hothers
    obtain ⟨fuel, rfl⟩ : ∃ less, fuel = less + 2 := ⟨fuel - 2, by omega⟩
    exact ⟨_, node_emptyBrackets hopening hclosing rest, .rows .nil⟩
  | .rows (entries :: items), hkinds, hfuel => by
    obtain ⟨fuel, rfl⟩ : ∃ less, fuel = less + 1 := ⟨fuel - 1, by omega⟩
    have hless : tokens.length < fuel := by omega
    obtain ⟨nodes, hread, hholds⟩ := exists_dashEntries_eq hrest (entries :: items) hkinds hless
    obtain ⟨token, inside, rfl, hkind, -⟩ := List.map_eq_cons_iff.mp hkinds
    exact ⟨_, node_blockEntry hkind hread, .rows hholds⟩

theorem exists_blockPairs_eq {tokens : List Token} {fuel : Nat} (rest : List Token) :
    (entries : List (String × Tree)) →
    tokens.map Token.kind = entriesKinds entries ++ [.blockEnd] → tokens.length < fuel →
    ∃ pairs, blockPairs handles fuel (tokens ++ rest) = ⟨pairs, some rest⟩ ∧
      HoldsEntries entries pairs
  | [], hkinds, hfuel => by
    obtain ⟨⟨kind, start, stop⟩, others, rfl, hkind, hothers⟩ := List.map_eq_cons_iff.mp hkinds
    obtain rfl := List.map_eq_nil_iff.mp hothers
    obtain ⟨fuel, rfl⟩ : ∃ less, fuel = less + 1 := ⟨fuel - 1, by omega⟩
    obtain rfl : kind = .blockEnd := hkind
    exact ⟨[], rfl, .nil⟩
  | (name, value) :: entries, hkinds, hfuel => by
    have hkinds : tokens.map Token.kind = .key :: .scalar name.toList .plain :: .value ::
        (value.kinds ++ (entriesKinds entries ++ [.blockEnd])) := by
      simpa [entriesKinds] using hkinds
    obtain ⟨key, others, rfl, hkey, hothers⟩ := List.map_eq_cons_iff.mp hkinds
    obtain ⟨unit, others, rfl, hunit, hothers⟩ := List.map_eq_cons_iff.mp hothers
    obtain ⟨colon, others, rfl, hcolon, hothers⟩ := List.map_eq_cons_iff.mp hothers
    obtain ⟨inside, behind, rfl, hinside, hbehind⟩ := List.map_eq_append_iff.mp hothers
    simp only [List.length_cons, List.length_append] at hfuel
    obtain ⟨fuel, rfl⟩ : ∃ less, fuel = less + 2 := ⟨fuel - 2, by omega⟩
    have hvalue : inside.length + 1 < fuel + 1 := by omega
    have hless : behind.length < fuel + 1 := by omega
    obtain ⟨read, hread, hholds⟩ :=
      exists_node_eq (noDash_entries hbehind rest) value hinside hvalue
    obtain ⟨pairs, hpairs, hentries⟩ := exists_blockPairs_eq rest entries hbehind hless
    obtain ⟨first, others, hfirst, hmem⟩ := exists_kinds_eq_cons value
    obtain ⟨token, others, rfl, rfl, -⟩ := List.map_eq_cons_iff.mp (hinside.trans hfirst)
    refine ⟨(.scalar unit.start none ⟨name.toList, .plain, none⟩, read) :: pairs, ?_,
      .cons hholds hentries⟩
    simpa using blockPairs_cons hkey hunit hcolon hmem hread hpairs

theorem exists_dashEntries_eq {tokens rest : List Token} {fuel : Nat} (hrest : NoDash rest) :
    (items : List (List (String × Tree))) → tokens.map Token.kind = itemsKinds items →
    tokens.length < fuel →
    ∃ nodes, dashEntries handles fuel false (tokens ++ rest) = ⟨nodes, some rest⟩ ∧
      HoldsItems items nodes
  | [], hkinds, hfuel => by
    obtain rfl := List.map_eq_nil_iff.mp hkinds
    obtain ⟨token, others, rfl, hkind⟩ := hrest
    obtain ⟨fuel, rfl⟩ : ∃ less, fuel = less + 1 := ⟨fuel - 1, by omega⟩
    exact ⟨[], dashEntries_stop hkind others, .nil⟩
  | entries :: items, hkinds, hfuel => by
    have hkinds : tokens.map Token.kind = .blockEntry :: .blockMappingStart ::
        ((entriesKinds entries ++ [.blockEnd]) ++ itemsKinds items) := by
      simpa [itemsKinds] using hkinds
    obtain ⟨dash, others, rfl, hdash, hothers⟩ := List.map_eq_cons_iff.mp hkinds
    obtain ⟨first, others, rfl, hfirst, hothers⟩ := List.map_eq_cons_iff.mp hothers
    obtain ⟨inside, behind, rfl, hinside, hbehind⟩ := List.map_eq_append_iff.mp hothers
    simp only [List.length_cons, List.length_append] at hfuel
    obtain ⟨fuel, rfl⟩ : ∃ less, fuel = less + 2 := ⟨fuel - 2, by omega⟩
    have hentries : inside.length < fuel := by omega
    have hless : behind.length < fuel + 1 := by omega
    obtain ⟨pairs, hpairs, hholds⟩ :=
      exists_blockPairs_eq (behind ++ rest) entries hinside hentries
    obtain ⟨nodes, hnodes, hitems⟩ := exists_dashEntries_eq hrest items hbehind hless
    refine ⟨.mapping first.start none none pairs :: nodes, ?_, .cons hholds hitems⟩
    simpa using dashEntries_cons hdash (by simp [hfirst]) (node_blockMapping hfirst hpairs) hnodes

end

/-- The tokens of fields are a document by themselves. -/
theorem exists_firstDocument_eq {entries : List (String × Tree)} {tokens : List Token}
    (rest : List Token) (hkinds : tokens.map Token.kind = (fields entries).kinds) :
    ∃ read, firstDocument (tokens ++ rest) = ⟨read, some rest⟩ ∧ Holds (fields entries) read := by
  obtain ⟨⟨kind, start, stop⟩, inside, rfl, hkind, hinside⟩ := List.map_eq_cons_iff.mp hkinds
  obtain rfl : kind = .blockMappingStart := hkind
  have hfuel : inside.length < 2 * (inside.length + rest.length + 1) + 3 := by omega
  obtain ⟨pairs, hpairs, hholds⟩ := exists_blockPairs_eq rest entries hinside hfuel
  have hnode := @node_blockMapping coreHandles _ false ⟨.blockMappingStart, start, stop⟩ rfl _ _ _
    hpairs
  refine ⟨.mapping start none none pairs, ?_, .fields hholds⟩
  simp [firstDocument, directives, hnode]

end Tree

/-- **A text with the tokens of fields, and no others, is a document of these fields.** -/
theorem Document.exists_read?_eq {entries : List (String × Tree)} {text : List Char}
    (hkinds : (tokens text).map Token.kind = (Tree.fields entries).kinds ++ [.streamEnd]) :
    ∃ root, Document.read? text = some (.ofRoot root true) ∧ Tree.Holds (.fields entries) root := by
  obtain ⟨inside, behind, htokens, hinside, hbehind⟩ := List.map_eq_append_iff.mp hkinds
  obtain ⟨⟨kind, start, stop⟩, others, rfl, hkind, hothers⟩ := List.map_eq_cons_iff.mp hbehind
  obtain rfl : kind = .streamEnd := hkind
  obtain rfl := List.map_eq_nil_iff.mp hothers
  obtain ⟨read, hread, hholds⟩ := Tree.exists_firstDocument_eq [⟨.streamEnd, start, stop⟩] hinside
  obtain ⟨root, hnumber, hroot⟩ := Tree.exists_numberNode_eq [] hholds
  have hstart : startsWith [.streamEnd] (tokens text) = false := by
    obtain ⟨token, others, rfl, hkind, -⟩ := List.map_eq_cons_iff.mp hinside
    simp [htokens, startsWith, hkind]
  refine ⟨root, ?_, hroot⟩
  simp only [Document.read?, hstart, Bool.false_eq_true, if_false]
  simp only [htokens, hread, hnumber]
  rfl

end Yaml
end CurveSheet
