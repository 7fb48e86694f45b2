/-
# Documents that are read to their end are whole

A tree is cut where its text stops following the rules, and then nothing can be read behind
it.  So what was read is whole wherever reading goes on (`Read.Ensures`): every rule of the
grammar keeps this up (`isWholeAt`), and so does the numbering of anchors, which stops at an
alias without a number.  In a document that its text ends with nothing is cut
(`Document.isWhole_of_complete`).
-/

import CurveSheet.Yaml.Document

namespace CurveSheet
namespace Yaml

/-- Nothing of the node is cut. -/
inductive Node.IsWhole {α : Type} : Node α → Prop where
  | scalar {mark : Mark} {anchor : Option α} {scalar : Scalar} :
    IsWhole (.scalar mark anchor scalar)
  | sequence {mark : Mark} {anchor : Option α} {tag : Option (List Char)} {items : List (Node α)}
    (hitems : ∀ item ∈ items, IsWhole item) : IsWhole (.sequence mark anchor tag items)
  | mapping {mark : Mark} {anchor : Option α} {tag : Option (List Char)}
    {entries : List (Node α × Node α)} (hkeys : ∀ entry ∈ entries, IsWhole entry.1)
    (hvalues : ∀ entry ∈ entries, IsWhole entry.2) : IsWhole (.mapping mark anchor tag entries)
  | alias {mark : Mark} {target : α} : IsWhole (.alias mark target)

/-- Nothing of the nodes is cut. -/
def AreWhole {α : Type} (items : List (Node α)) : Prop := ∀ item ∈ items, item.IsWhole

/-- Nothing of the pair is cut. -/
def IsWholePair {α : Type} (entry : Node α × Node α) : Prop := entry.1.IsWhole ∧ entry.2.IsWhole

/-- Nothing of the pairs is cut. -/
def AreWholePairs {α : Type} (entries : List (Node α × Node α)) : Prop :=
  ∀ entry ∈ entries, IsWholePair entry

theorem AreWholePairs.mapping {α : Type} {entries : List (Node α × Node α)}
    (h : AreWholePairs entries) {mark : Mark} {anchor : Option α} {tag : Option (List Char)} :
    (Node.mapping mark anchor tag entries).IsWhole :=
  .mapping (fun entry hentry => (h entry hentry).1) fun entry hentry => (h entry hentry).2

/-! ### Reading -/

/-- Where reading goes on, what was read has a property. -/
def Read.Ensures {α : Type} (read : Read α) (p : α → Prop) : Prop :=
  read.rest.isSome = true → p read.value

theorem Read.ensures_none {α : Type} (value : α) (p : α → Prop) :
    (⟨value, none⟩ : Read α).Ensures p := by
  rintro ⟨⟩

theorem Read.Ensures.of_value {α : Type} {read : Read α} {p : α → Prop} (h : p read.value) :
    read.Ensures p := fun _ => h

theorem Read.Ensures.map {α β : Type} {read : Read α} {p : α → Prop} {q : β → Prop} {f : α → β}
    (h : read.Ensures p) (hf : ∀ value, p value → q (f value)) : (read.map f).Ensures q :=
  fun hrest => hf _ (h hrest)

section

variable {α : Type}

theorem Read.Ensures.items {first : Read (Node α)} {others : List Token → Read (List (Node α))}
    (hfirst : first.Ensures Node.IsWhole) (hothers : ∀ tokens, (others tokens).Ensures AreWhole) :
    (first.items others).Ensures AreWhole := by
  obtain ⟨value, rest⟩ := first
  cases rest with
  | none => exact Read.ensures_none _ _
  | some tokens =>
    exact fun hrest => List.forall_mem_cons.2 ⟨hfirst rfl, hothers tokens hrest⟩

theorem Read.Ensures.pair {key : Read (Node α)} {value : List Token → Read (Node α)}
    (hkey : key.Ensures Node.IsWhole) (hvalue : ∀ tokens, (value tokens).Ensures Node.IsWhole) :
    (key.pair value).Ensures IsWholePair := by
  obtain ⟨node, rest⟩ := key
  cases rest with
  | none => exact Read.ensures_none _ _
  | some tokens => exact fun hrest => ⟨hkey rfl, hvalue tokens hrest⟩

theorem Read.Ensures.entries {first : Read (Node α × Node α)}
    {others : List Token → Read (List (Node α × Node α))} (hfirst : first.Ensures IsWholePair)
    (hothers : ∀ tokens, (others tokens).Ensures AreWholePairs) :
    (first.entries others).Ensures AreWholePairs := by
  obtain ⟨value, rest⟩ := first
  cases rest with
  | none => exact Read.ensures_none _ _
  | some tokens =>
    exact fun hrest => List.forall_mem_cons.2 ⟨hfirst rfl, hothers tokens hrest⟩

end

theorem ensures_emptyNode (mark : Mark) (props : Properties) (tag : Option (List Char))
    (rest : List Token) : (emptyNode mark props tag rest).Ensures Node.IsWhole := by
  unfold emptyNode
  split
  · exact .of_value .scalar
  · exact Read.ensures_none _ _

theorem ensures_nodeUnless {ends : List TokenKind} {void : List Token → Mark}
    {read : List Token → Read (Node (List Char))}
    (h : ∀ tokens, (read tokens).Ensures Node.IsWhole) (tokens : List Token) :
    (nodeUnless ends void read tokens).Ensures Node.IsWhole := by
  unfold nodeUnless
  split
  · exact Read.ensures_none _ _
  · split
    · exact .of_value .scalar
    · exact h tokens

theorem ensures_flowValue {closing : TokenKind} {read : List Token → Read (Node (List Char))}
    (h : ∀ tokens, (read tokens).Ensures Node.IsWhole) (tokens : List Token) :
    (flowValue read closing tokens).Ensures Node.IsWhole := by
  unfold flowValue
  split
  · exact Read.ensures_none _ _
  · exact ensures_nodeUnless h _
  · exact .of_value .scalar

theorem Read.Ensures.singlePair {pair : Read (Node (List Char) × Node (List Char))}
    (h : pair.Ensures IsWholePair) (mark : Mark) :
    (pair.singlePair mark).Ensures Node.IsWhole := by
  obtain ⟨value, rest⟩ := pair
  match rest with
  | none => exact Read.ensures_none _ _
  | some [] => exact Read.ensures_none _ _
  | some (token :: rest) =>
    have hpairs : AreWholePairs [value] := by
      intro entry hentry
      obtain rfl := List.mem_singleton.1 hentry
      exact h rfl
    exact .of_value hpairs.mapping

/-! ### The grammar -/

/-- What is read with some fuel is whole where reading goes on. -/
structure IsWholeAt (handles : TagHandles) (fuel : Nat) : Prop where
  node : ∀ block indentless tokens,
    (Yaml.node handles fuel block indentless tokens).Ensures Node.IsWhole
  dashEntries : ∀ isBlock tokens, (dashEntries handles fuel isBlock tokens).Ensures AreWhole
  blockPairs : ∀ tokens, (blockPairs handles fuel tokens).Ensures AreWholePairs
  flowItems : ∀ isFirst tokens, (flowItems handles fuel isFirst tokens).Ensures AreWhole
  flowPairs : ∀ isFirst tokens, (flowPairs handles fuel isFirst tokens).Ensures AreWholePairs

theorem areWhole_nil {α : Type} : AreWhole ([] : List (Node α)) := fun _ h => nomatch h

theorem areWholePairs_nil {α : Type} : AreWholePairs ([] : List (Node α × Node α)) :=
  fun _ h => nomatch h

section

variable {handles : TagHandles} {fuel : Nat}

theorem IsWholeAt.ensures_node (h : IsWholeAt handles fuel) (block indentless : Bool)
    (tokens : List Token) :
    (Yaml.node handles (fuel + 1) block indentless tokens).Ensures Node.IsWhole := by
  unfold Yaml.node
  split
  · contradiction
  · exact .of_value .alias
  · rename_i hfuel _
    obtain rfl := Nat.succ.inj hfuel
    dsimp only
    split
    · exact Read.ensures_none _ _
    · split
      · exact Read.ensures_none _ _
      · split
        · exact (h.dashEntries _ _).map fun _ => .sequence
        · exact ensures_emptyNode _ _ _ _
      · exact .of_value .scalar
      · exact (h.flowItems _ _).map fun _ => .sequence
      · exact (h.flowPairs _ _).map fun _ hpairs => hpairs.mapping
      · split
        · exact (h.dashEntries _ _).map fun _ => .sequence
        · exact ensures_emptyNode _ _ _ _
      · split
        · exact (h.blockPairs _).map fun _ hpairs => hpairs.mapping
        · exact ensures_emptyNode _ _ _ _
      · exact ensures_emptyNode _ _ _ _

theorem IsWholeAt.ensures_dashEntries (h : IsWholeAt handles fuel) (isBlock : Bool)
    (tokens : List Token) :
    (Yaml.dashEntries handles (fuel + 1) isBlock tokens).Ensures AreWhole := by
  unfold Yaml.dashEntries
  split
  · rename_i hfuel
    obtain rfl := Nat.succ.inj hfuel
    exact .items (ensures_nodeUnless (h.node _ _) _) (h.dashEntries _)
  · exact .of_value areWhole_nil
  · exact .of_value areWhole_nil
  · exact Read.ensures_none _ _

theorem IsWholeAt.ensures_blockPairs (h : IsWholeAt handles fuel) (tokens : List Token) :
    (Yaml.blockPairs handles (fuel + 1) tokens).Ensures AreWholePairs := by
  unfold Yaml.blockPairs
  split
  · rename_i hfuel
    obtain rfl := Nat.succ.inj hfuel
    refine .entries (.pair (ensures_nodeUnless (h.node _ _) _) fun tokens => ?_) h.blockPairs
    split
    · exact Read.ensures_none _ _
    · exact ensures_nodeUnless (h.node _ _) _
    · exact .of_value .scalar
  · exact .of_value areWholePairs_nil
  · exact Read.ensures_none _ _

theorem IsWholeAt.ensures_flowItems (h : IsWholeAt handles fuel) (isFirst : Bool)
    (tokens : List Token) :
    (Yaml.flowItems handles (fuel + 1) isFirst tokens).Ensures AreWhole := by
  unfold Yaml.flowItems
  split
  · contradiction
  · exact .of_value areWhole_nil
  · rename_i hfuel _
    obtain rfl := Nat.succ.inj hfuel
    split
    · exact Read.ensures_none _ _
    · exact .of_value areWhole_nil
    · refine .items (.singlePair (.pair ?_ (ensures_flowValue (h.node _ _))) _) (h.flowItems _)
      split
      · exact Read.ensures_none _ _
      · split
        · exact .of_value .scalar
        · exact h.node _ _ _
    · exact .items (h.node _ _ _) (h.flowItems _)

theorem IsWholeAt.ensures_flowPairs (h : IsWholeAt handles fuel) (isFirst : Bool)
    (tokens : List Token) :
    (Yaml.flowPairs handles (fuel + 1) isFirst tokens).Ensures AreWholePairs := by
  unfold Yaml.flowPairs
  split
  · contradiction
  · exact .of_value areWholePairs_nil
  · rename_i hfuel _
    obtain rfl := Nat.succ.inj hfuel
    split
    · exact Read.ensures_none _ _
    · exact .of_value areWholePairs_nil
    · exact .entries (.pair (ensures_nodeUnless (h.node _ _) _) (ensures_flowValue (h.node _ _)))
        (h.flowPairs _)
    · refine .entries (.pair (h.node _ _ _) fun behind => ?_) (h.flowPairs _)
      split
      · exact Read.ensures_none _ _
      · exact .of_value .scalar

end

/-- **What the grammar reads is whole where reading goes on.** -/
theorem isWholeAt (handles : TagHandles) (fuel : Nat) : IsWholeAt handles fuel := by
  -- without fuel nothing is read, and all rules but those of single tokens spend some
  induction fuel with
  | zero =>
    constructor
    · intro block indentless tokens
      simp only [Yaml.node]
      exact Read.ensures_none _ _
    · intro isBlock tokens
      simp only [Yaml.dashEntries]
      exact Read.ensures_none _ _
    · intro tokens
      simp only [Yaml.blockPairs]
      exact Read.ensures_none _ _
    · intro isFirst tokens
      simp only [Yaml.flowItems]
      exact Read.ensures_none _ _
    · intro isFirst tokens
      simp only [Yaml.flowPairs]
      exact Read.ensures_none _ _
  | succ fuel ih =>
    exact ⟨ih.ensures_node, ih.ensures_dashEntries, ih.ensures_blockPairs, ih.ensures_flowItems,
      ih.ensures_flowPairs⟩

theorem ensures_documentNode (handles : TagHandles) (tokens : List Token) :
    (documentNode handles tokens).Ensures Node.IsWhole := by
  unfold documentNode
  split
  · exact .of_value .scalar
  · exact .of_value .scalar
  · exact ensures_nodeUnless ((isWholeAt _ _).node _ _) _

theorem ensures_firstDocument (tokens : List Token) :
    (firstDocument tokens).Ensures Node.IsWhole := by
  unfold firstDocument
  split
  · exact Read.ensures_none _ _
  · dsimp only
    split
    · exact ensures_documentNode _ _
    · split
      · exact Read.ensures_none _ _
      · exact (isWholeAt _ _).node _ _ _

/-! ### Numbers of anchors -/

mutual

/-- A whole node stays whole when its anchors are numbered, unless an alias has no number. -/
theorem Node.IsWhole.numberNode (anchors : Anchors) :
    (node : Node (List Char)) → node.IsWhole → (numberNode anchors node).2.isSome = true →
    (Yaml.numberNode anchors node).1.IsWhole
  | .scalar _ _ _, _, _ => .scalar
  | .sequence _ _ _ items, .sequence hitems, hsome => by
    simp only [Yaml.numberNode] at hsome ⊢
    exact .sequence (AreWhole.numberItems _ items hitems hsome)
  | .mapping _ _ _ entries, .mapping hkeys hvalues, hsome => by
    simp only [Yaml.numberNode] at hsome ⊢
    exact (AreWholePairs.numberEntries _ entries
      (fun entry hentry => ⟨hkeys entry hentry, hvalues entry hentry⟩) hsome).mapping
  | .alias mark name, _, hsome => by
    rw [Yaml.numberNode] at hsome ⊢
    split at hsome
    · exact .alias
    · exact absurd hsome (by simp)

theorem AreWhole.numberItems (anchors : Anchors) :
    (items : List (Node (List Char))) → AreWhole items →
    (numberItems anchors items).2.isSome = true → AreWhole (Yaml.numberItems anchors items).1
  | [], _, _ => by
    rw [Yaml.numberItems]
    exact areWhole_nil
  | item :: rest, hwhole, hsome => by
    obtain ⟨hitem, hrest⟩ := List.forall_mem_cons.1 hwhole
    have hfirst := Node.IsWhole.numberNode anchors item hitem
    rw [Yaml.numberItems] at hsome ⊢
    split at hsome
    · exact absurd hsome (by simp)
    · rename_i first known heq
      rw [heq] at hfirst
      simp only at hsome ⊢
      have hothers := AreWhole.numberItems known rest hrest hsome
      exact List.forall_mem_cons.2 ⟨hfirst rfl, hothers⟩

theorem AreWholePairs.numberEntries (anchors : Anchors) :
    (entries : List (Node (List Char) × Node (List Char))) → AreWholePairs entries →
    (numberEntries anchors entries).2.isSome = true →
    AreWholePairs (Yaml.numberEntries anchors entries).1
  | [], _, _ => by
    rw [Yaml.numberEntries]
    exact areWholePairs_nil
  | (key, value) :: rest, hwhole, hsome => by
    obtain ⟨⟨hkey, hvalue⟩, hrest⟩ := List.forall_mem_cons.1 hwhole
    have hfirst := Node.IsWhole.numberNode anchors key hkey
    rw [Yaml.numberEntries] at hsome ⊢
    split at hsome
    · exact absurd hsome (by simp)
    · rename_i first known heq
      rw [heq] at hfirst
      have hsecond := Node.IsWhole.numberNode known value hvalue
      simp only at hsome ⊢
      split at hsome
      · exact absurd hsome (by simp)
      · rename_i second known heq
        rw [heq] at hsecond
        simp only at hsome ⊢
        have hothers := AreWholePairs.numberEntries known rest hrest hsome
        exact List.forall_mem_cons.2 ⟨⟨hfirst rfl, hsecond rfl⟩, hothers⟩

end

/-- **In a document that its text ends with nothing is cut.** -/
theorem Document.isWhole_of_complete {text : List Char} {document : Document}
    (hread : Document.read? text = some document) (hcomplete : document.complete = true) :
    document.root.IsWhole := by
  unfold Document.read? at hread
  dsimp only at hread
  split at hread
  · cases hread
  · obtain rfl := Option.some.inj hread
    obtain ⟨hanchors, hdone⟩ := Bool.and_eq_true_iff.mp hcomplete
    have hrest : (firstDocument (tokens text)).rest.isSome = true := by
      cases hrest : (firstDocument (tokens text)).rest with
      | none => simp [hrest, isDone] at hdone
      | some rest => rfl
    exact Node.IsWhole.numberNode [] _ (ensures_firstDocument _ hrest) hanchors

end Yaml
end CurveSheet
