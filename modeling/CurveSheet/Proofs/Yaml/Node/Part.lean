/-
# Parts of a document

A document may do without tags, and without keys other than scalars (`Node.IsSimple`).  Read
to its end it is whole as well, and no node of it has a greater size than the document
(`Node.Fits`).  What lies in a node that fits does so too, and so does what an alias means
(`Document.fits_of_complete`): this is what a reader of values needs to know of all that it
can meet.
-/

import CurveSheet.Proofs.Yaml.Node.Whole

namespace CurveSheet
namespace Yaml

/-- The node is a scalar without a tag. -/
inductive Node.IsName {α : Type} : Node α → Prop where
  | intro {mark : Mark} {anchor : Option α} {scalar : Scalar} (htag : scalar.tag = none) :
    IsName (.scalar mark anchor scalar)

/-- The node has no tags, and no keys that are not scalars. -/
inductive Node.IsSimple {α : Type} : Node α → Prop where
  | scalar {mark : Mark} {anchor : Option α} {scalar : Scalar} (htag : scalar.tag = none) :
    IsSimple (.scalar mark anchor scalar)
  | sequence {mark : Mark} {anchor : Option α} {items : List (Node α)}
    (hitems : ∀ item ∈ items, IsSimple item) : IsSimple (.sequence mark anchor none items)
  | mapping {mark : Mark} {anchor : Option α} {entries : List (Node α × Node α)}
    (hkeys : ∀ entry ∈ entries, entry.1.IsName) (hvalues : ∀ entry ∈ entries, IsSimple entry.2) :
    IsSimple (.mapping mark anchor none entries)
  | alias {mark : Mark} {target : α} : IsSimple (.alias mark target)
  | cut : IsSimple .cut

/-! ### Sizes -/

theorem Node.IsWhole.one_le_nodeSize {node : Node Nat} (h : node.IsWhole) : 1 ≤ nodeSize node := by
  cases h <;> simp [nodeSize]

theorem itemsSize_cons {item : Node Nat} (h : item.IsWhole) (rest : List (Node Nat)) :
    itemsSize (item :: rest) = nodeSize item + itemsSize rest := by
  cases h <;> simp [itemsSize]

theorem entriesSize_cons {entry : Node Nat × Node Nat} (h : entry.1.IsWhole)
    (rest : List (Node Nat × Node Nat)) :
    entriesSize (entry :: rest) = nodeSize entry.1 + nodeSize entry.2 + entriesSize rest := by
  obtain ⟨key, value⟩ := entry
  cases h <;> simp [entriesSize]

/-- Every item counts. -/
theorem length_le_itemsSize {items : List (Node Nat)} (h : AreWhole items) :
    items.length ≤ itemsSize items := by
  induction items with
  | nil => exact Nat.zero_le _
  | cons item rest ih =>
    have hitem := h item (List.mem_cons_self ..)
    have hrest := ih fun other hother => h other (List.mem_cons_of_mem _ hother)
    have hone := hitem.one_le_nodeSize
    rw [itemsSize_cons hitem, List.length_cons]
    omega

theorem nodeSize_le_itemsSize {items : List (Node Nat)} (h : AreWhole items) {item : Node Nat}
    (hitem : item ∈ items) : nodeSize item ≤ itemsSize items := by
  induction items with
  | nil => exact nomatch hitem
  | cons first rest ih =>
    have hfirst := h first (List.mem_cons_self ..)
    rw [itemsSize_cons hfirst]
    rcases List.mem_cons.1 hitem with rfl | hmem
    · omega
    · have hless := ih (fun other hother => h other (List.mem_cons_of_mem _ hother)) hmem
      omega

theorem nodeSize_le_entriesSize {entries : List (Node Nat × Node Nat)} (h : AreWholePairs entries)
    {entry : Node Nat × Node Nat} (hentry : entry ∈ entries) :
    nodeSize entry.1 ≤ entriesSize entries ∧ nodeSize entry.2 ≤ entriesSize entries := by
  induction entries with
  | nil => exact nomatch hentry
  | cons first rest ih =>
    have hfirst := h first (List.mem_cons_self ..)
    rw [entriesSize_cons hfirst.1]
    rcases List.mem_cons.1 hentry with rfl | hmem
    · omega
    · have hless := ih (fun other hother => h other (List.mem_cons_of_mem _ hother)) hmem
      omega

/-! ### What lies in a node -/

/-- The node is whole, without tags and other keys than scalars, and of at most a size. -/
structure Node.Fits (size : Nat) (node : Node Nat) : Prop where
  whole : node.IsWhole
  simple : node.IsSimple
  size_le : nodeSize node ≤ size

/-- What a node holds fits: what lies in it does, and no sequence is longer than the size. -/
inductive Content.Fits (size : Nat) : Content → Prop where
  | scalar {mark : Mark} {scalar : Scalar} (htag : scalar.tag = none) :
    Fits size (.scalar mark scalar)
  | sequence {mark : Mark} {tag : Option (List Char)} {items : List (Node Nat)}
    (hitems : ∀ item ∈ items, item.Fits size) (hlength : items.length ≤ size) :
    Fits size (.sequence mark tag items)
  | mapping {mark : Mark} {tag : Option (List Char)} {entries : List (Node Nat × Node Nat)}
    (hkeys : ∀ entry ∈ entries, entry.1.IsName) (hvalues : ∀ entry ∈ entries, entry.2.Fits size) :
    Fits size (.mapping mark tag entries)

section

variable {size : Nat} {mark : Mark} {anchor : Option Nat} {tag : Option (List Char)}

theorem Node.Fits.scalar {scalar : Scalar} (h : Node.Fits size (.scalar mark anchor scalar)) :
    (Content.scalar mark scalar).Fits size := by
  cases h.simple with
  | scalar htag => exact .scalar htag

theorem Node.Fits.sequence {items : List (Node Nat)}
    (h : Node.Fits size (.sequence mark anchor tag items)) :
    (Content.sequence mark tag items).Fits size := by
  obtain ⟨hwhole, hsimple, hsize⟩ := h
  cases hwhole with
  | sequence hwhole =>
    cases hsimple with
    | sequence hsimple =>
      rw [nodeSize] at hsize
      have hlength := length_le_itemsSize hwhole
      refine .sequence (fun item hitem => ?_) (by omega)
      have hless := nodeSize_le_itemsSize hwhole hitem
      exact ⟨hwhole item hitem, hsimple item hitem, by omega⟩

theorem Node.Fits.mapping {entries : List (Node Nat × Node Nat)}
    (h : Node.Fits size (.mapping mark anchor tag entries)) :
    (Content.mapping mark tag entries).Fits size := by
  obtain ⟨hwhole, hsimple, hsize⟩ := h
  cases hwhole with
  | mapping hwholeKeys hwhole =>
    cases hsimple with
    | mapping hkeys hsimple =>
      rw [nodeSize] at hsize
      refine .mapping hkeys fun entry hentry => ?_
      have hpairs : AreWholePairs entries := fun entry hentry =>
        ⟨hwholeKeys entry hentry, hwhole entry hentry⟩
      have hless := nodeSize_le_entriesSize hpairs hentry
      exact ⟨hwhole entry hentry, hsimple entry hentry, by omega⟩

/-- A key fits where its mapping does. -/
theorem Node.Fits.key {entries : List (Node Nat × Node Nat)}
    (h : Node.Fits size (.mapping mark anchor tag entries)) {entry : Node Nat × Node Nat}
    (hentry : entry ∈ entries) : entry.1.Fits size := by
  have hone := h.whole.one_le_nodeSize
  have hsize := h.size_le
  obtain ⟨key, value⟩ := entry
  cases h.simple with
  | mapping hkeys =>
    cases hkeys _ hentry with
    | intro htag => exact ⟨.scalar, .scalar htag, by simp only [nodeSize]; omega⟩

end

/-! ### What aliases mean -/

/-- Every content in a list of anchored ones fits. -/
def AllFit (size : Nat) (anchored : List (Nat × Content)) : Prop :=
  ∀ entry ∈ anchored, entry.2.Fits size

theorem allFit_nil (size : Nat) : AllFit size [] := fun _ hentry => nomatch hentry

theorem AllFit.append {size : Nat} {left right : List (Nat × Content)} (hleft : AllFit size left)
    (hright : AllFit size right) : AllFit size (left ++ right) := fun entry hentry =>
  (List.mem_append.1 hentry).elim (hleft entry) (hright entry)

theorem Content.Fits.anchoredAs {size : Nat} {content : Content} (h : content.Fits size)
    (anchor : Option Nat) : AllFit size (anchoredAs anchor content) := by
  cases anchor with
  | none => exact allFit_nil size
  | some number =>
    intro entry hentry
    obtain rfl := List.mem_singleton.1 hentry
    exact h

mutual

/-- The anchored nodes in a node fit where the node does. -/
theorem allFit_anchoredIn {size : Nat} :
    (node : Node Nat) → node.Fits size → AllFit size (anchoredIn node)
  | .scalar _ anchor _, h => by
    rw [anchoredIn]
    exact h.scalar.anchoredAs anchor
  | .sequence _ anchor _ items, h => by
    rw [anchoredIn]
    refine (h.sequence.anchoredAs anchor).append (allFit_anchoredInItems items ?_)
    cases h.sequence with
    | sequence hitems => exact hitems
  | .mapping _ anchor _ entries, h => by
    rw [anchoredIn]
    refine (h.mapping.anchoredAs anchor).append
      (allFit_anchoredInEntries entries (fun entry hentry => h.key hentry) ?_)
    cases h.mapping with
    | mapping _ hvalues => exact hvalues
  | .alias _ _, _ => by
    rw [anchoredIn]
    exact allFit_nil size
  | .cut, _ => by
    rw [anchoredIn]
    exact allFit_nil size

theorem allFit_anchoredInItems {size : Nat} :
    (items : List (Node Nat)) → (∀ item ∈ items, item.Fits size) →
    AllFit size (anchoredInItems items)
  | [], _ => by
    rw [anchoredInItems]
    exact allFit_nil size
  | item :: rest, h => by
    rw [anchoredInItems]
    exact (allFit_anchoredIn item (h item (List.mem_cons_self ..))).append
      (allFit_anchoredInItems rest fun other hother => h other (List.mem_cons_of_mem _ hother))

theorem allFit_anchoredInEntries {size : Nat} :
    (entries : List (Node Nat × Node Nat)) → (∀ entry ∈ entries, entry.1.Fits size) →
    (∀ entry ∈ entries, entry.2.Fits size) → AllFit size (anchoredInEntries entries)
  | [], _, _ => by
    rw [anchoredInEntries]
    exact allFit_nil size
  | (key, value) :: rest, hkeys, hvalues => by
    rw [anchoredInEntries]
    refine ((allFit_anchoredIn key (hkeys (key, value) (List.mem_cons_self ..))).append
      (allFit_anchoredIn value (hvalues (key, value) (List.mem_cons_self ..)))).append
      (allFit_anchoredInEntries rest ?_ ?_)
    · exact fun entry hentry => hkeys entry (List.mem_cons_of_mem _ hentry)
    · exact fun entry hentry => hvalues entry (List.mem_cons_of_mem _ hentry)

end

/-- What an alias means is one of the anchored nodes, or nothing written. -/
theorem Document.target_cases (document : Document) (number : Nat) :
    (∃ entry ∈ document.anchored, entry.2 = document.target number) ∨
      document.target number = .scalar .start .empty := by
  unfold Document.target
  cases h : document.anchored.lookup number with
  | none => exact .inr rfl
  | some content =>
    obtain ⟨_, _, hsplit, _⟩ := List.lookup_eq_some_iff.mp h
    exact .inl ⟨(number, content), by simp [hsplit], rfl⟩

/-- **In a document without tags and other keys than scalars, read to its end, everything
fits**: its top node, and what an alias may mean. -/
theorem Document.fits_of_complete {text : List Char} {document : Document}
    (hread : Document.read? text = some document) (hcomplete : document.complete = true)
    (hsimple : document.root.IsSimple) :
    document.root.Fits document.size ∧ ∀ number, (document.target number).Fits document.size := by
  have hwhole := document.isWhole_of_complete hread hcomplete
  obtain ⟨root, complete, rfl⟩ : ∃ root complete, document = .ofRoot root complete := by
    unfold Document.read? at hread
    dsimp only at hread
    split at hread
    · cases hread
    · exact ⟨_, _, (Option.some.inj hread).symm⟩
  have hroot : root.Fits (nodeSize root) := ⟨hwhole, hsimple, Nat.le_refl _⟩
  refine ⟨hroot, fun number => ?_⟩
  rcases (Document.ofRoot root complete).target_cases number with ⟨entry, hentry, heq⟩ | heq
  · rw [← heq]
    exact allFit_anchoredIn root hroot entry (List.mem_reverse.1 hentry)
  · rw [heq]
    exact .scalar rfl

end Yaml
end CurveSheet
