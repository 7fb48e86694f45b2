/-
# Reading fields

The fields of a mapping are read one after the other, and each fills a slot that was empty
(`Fills`).  What an empty slot may still cost bounds the cost of the fields that are left,
however many of them there are: a slot is filled once, and fields of other names cost nothing
(`decodes_readFields`).  So an axis costs three aliases at most and a row as well, and rows
are no more than the size of the document (`decodes_readAxis`, `decodes_readRows`).
-/

import CurveSheet.Proofs.Session.Reading

namespace CurveSheet
namespace Session

open Yaml Plot

/-! ### Slots -/

/-- From what it was, a slot becomes what the values of its field make of it. -/
inductive Fills {α : Type} (reads : Node Nat → α → Prop) :
    Option α → List (Node Nat) → Option α → Prop where
  | kept {got : Option α} : Fills reads got [] got
  | filled {node : Node Nat} {value : α} (h : reads node value) :
    Fills reads none [node] (some value)

section

variable {α : Type} {reads : Node Nat → α → Prop}

theorem fills_nil_iff {got last : Option α} : Fills reads got [] last ↔ last = got := by
  constructor
  · intro h
    cases h
    rfl
  · rintro rfl
    exact .kept

theorem fills_cons_iff {got last : Option α} {node : Node Nat} {values : List (Node Nat)} :
    Fills reads got (node :: values) last ↔
      got = none ∧ ∃ value, reads node value ∧ Fills reads (some value) values last := by
  constructor
  · intro h
    cases h with
    | filled hvalue => exact ⟨rfl, _, hvalue, .kept⟩
  · rintro ⟨rfl, value, hvalue, h⟩
    cases h with
    | kept => exact .filled hvalue

/-- A field means what its slot becomes, or the default if it stays empty. -/
theorem fieldMeans_iff_fills {default : Option α} {values : List (Node Nat)} {value : α} :
    FieldMeans reads default values value ↔
      ∃ last, Fills reads none values last ∧ last.or default = some value := by
  constructor
  · intro h
    cases h with
    | absent hdefault => exact ⟨none, .kept, hdefault⟩
    | given hvalue => exact ⟨_, .filled hvalue, rfl⟩
  · rintro ⟨last, hfills, hlast⟩
    cases hfills with
    | kept => exact .absent hlast
    | filled hvalue =>
      cases hlast
      exact .given hvalue

theorem fieldMeans_some_iff_fills {default : α} {values : List (Node Nat)} {value : α} :
    FieldMeans reads (some default) values value ↔
      ∃ last, Fills reads none values last ∧ last.getD default = value := by
  simp only [fieldMeans_iff_fills, Option.or_some, Option.some.injEq]

theorem fieldMeans_none_iff_fills {values : List (Node Nat)} {value : α} :
    FieldMeans reads none values value ↔ Fills reads none values (some value) := by
  simp only [fieldMeans_iff_fills, Option.or_none, exists_eq_right]

/-- What a slot may still cost. -/
def slotCost (cost : Nat) (got : Option α) : Nat := if got.isSome then 0 else cost

theorem slotCost_none (cost : Nat) : slotCost cost (none : Option α) = cost := rfl

theorem slotCost_some (cost : Nat) (value : α) : slotCost cost (some value) = 0 := rfl

end

/-! ### Names -/

theorem valuesOf_cons {name : String} {key value : Node Nat} (h : key.name? = some name)
    (entries : List (Node Nat × Node Nat)) :
    valuesOf name ((key, value) :: entries) = value :: valuesOf name entries := by
  simp [valuesOf, h]

theorem valuesOf_cons_of_ne {name other : String} {key value : Node Nat}
    (h : key.name? = some name) (hne : name ≠ other) (entries : List (Node Nat × Node Nat)) :
    valuesOf other ((key, value) :: entries) = valuesOf other entries := by
  simp [valuesOf, h, hne]

section

variable {σ : Type} {limit size : Nat} {becomes : σ → List (Node Nat × Node Nat) → σ → Prop}
  {cost : σ → Nat}

/-- Reading the first of some fields costs no more than it takes from what the rest may cost, and
makes of what was got what the others go on with. -/
def ReadsFirst (limit : Nat) (becomes : σ → List (Node Nat × Node Nat) → σ → Prop) (cost : σ → Nat)
    (got : σ) (entry : Node Nat × Node Nat) (rest : List (Node Nat × Node Nat))
    (reading : Reading σ) : Prop :=
  ∃ first right, Decodes limit first reading right ∧
    (∀ next, right next → first + cost next ≤ cost got) ∧
    ∀ last, becomes got (entry :: rest) last ↔ ∃ next, right next ∧ becomes next rest last

/-- A field is read into its slot, which must be empty. -/
theorem readsFirst_once {α : Type} {first : Nat} {reading : Reading α} {right : α → Prop}
    (h : Decodes limit first reading right) (site : Site) (mark : Mark) (name : String) {got : σ}
    {slot : Option α} {set : Option α → σ} {entry : Node Nat × Node Nat}
    {rest : List (Node Nat × Node Nat)}
    (hcost : slot = none → ∀ value, first + cost (set (some value)) ≤ cost got)
    (hbecomes : ∀ last, becomes got (entry :: rest) last ↔
      slot = none ∧ ∃ value, right value ∧ becomes (set (some value)) rest last) :
    ReadsFirst limit becomes cost got entry rest
      (do pure (set (← once site mark name slot reading))) := by
  cases slot with
  | none =>
    refine ⟨first, fun next => ∃ value, right value ∧ next = set (some value), ?_, ?_, ?_⟩
    · refine (h.map.bind (fun _ _ => decodes_pure fun _ => Iff.rfl) fun _ _ => Nat.le_refl _).of_iff
        fun next => ?_
      simp
    · rintro next ⟨value, -, rfl⟩
      exact hcost rfl value
    · intro last
      rw [hbecomes]
      simp
  | some value =>
    refine ⟨0, fun _ => False, (fails_fail _ _ _).bind.decodes fun _ => id, ?_, ?_⟩
    · intro next h
      exact h.elim
    · intro last
      rw [hbecomes]
      simp

/-- A field without a slot changes nothing. -/
theorem readsFirst_pure {got : σ} {entry : Node Nat × Node Nat} {rest : List (Node Nat × Node Nat)}
    (hbecomes : ∀ last, becomes got (entry :: rest) last ↔ becomes got rest last) :
    ReadsFirst limit becomes cost got entry rest (pure got) := by
  refine ⟨0, fun next => next = got, decodes_pure fun _ => Iff.rfl, ?_, ?_⟩
  · rintro next rfl
    exact Nat.le_of_eq (Nat.zero_add _)
  · intro last
    rw [hbecomes]
    simp

/-- **The fields of a mapping are read into what their names stand for**, if the first of any
fields is, and if what is got stands for itself. -/
theorem decodes_readFields {site : Site} {field : σ → String → Site → Node Nat → Reading σ}
    (hnil : ∀ got last, becomes got [] last ↔ last = got)
    (hcons : ∀ got name key value rest, key.name? = some name → value.Fits size →
      ReadsFirst limit becomes cost got (key, value) rest
        (field got name (site.within (stepOf key)) value))
    (entries : List (Node Nat × Node Nat)) (hkeys : ∀ entry ∈ entries, entry.1.IsName)
    (hvalues : ∀ entry ∈ entries, entry.2.Fits size) (got : σ) :
    Decodes limit (cost got) (readFields site field got entries) (becomes got entries) := by
  -- on the fields that are left; what they may cost shrinks with every slot that is filled
  induction entries generalizing got with
  | nil => exact (decodes_pure (hnil got)).of_le (Nat.zero_le _)
  | cons entry rest ih =>
    obtain ⟨key, value⟩ := entry
    obtain ⟨hkey, hrest⟩ := List.forall_mem_cons.1 hkeys
    obtain ⟨hvalue, hothers⟩ := List.forall_mem_cons.1 hvalues
    cases hkey with
    | @intro mark anchor scalar htag =>
      obtain ⟨first, right, hfield, hcost, hbecomes⟩ :=
        hcons got (String.ofList scalar.text) (.scalar mark anchor scalar) value rest rfl hvalue
      exact (hfield.bind (fun next _ => ih hrest hothers next) hcost).of_iff fun last =>
        (hbecomes last).symm

end

/-! ### Records -/

variable {site : Site} {node : Node Nat}

/-- The fields of a value are read at the cost of one alias, and what is read from them goes on. -/
theorem decodes_fields {α : Type} {expected : Expected} {cost : Nat}
    {next : Mark × List (Node Nat × Node Nat) → Reading α}
    {right : List (Node Nat × Node Nat) → α → Prop}
    (hcovers : Covers site.document) (hnode : node.Fits site.document.size)
    (hnext : ∀ mark entries, (∀ entry ∈ entries, entry.1.IsName) →
      (∀ entry ∈ entries, entry.2.Fits site.document.size) →
      Decodes (aliasLimit site.document) cost (next (mark, entries)) (right entries)) :
    Decodes (aliasLimit site.document) (cost + 1) (readEntries site expected node >>= next)
      fun value => ∃ entries, site.document.fields? node = some entries ∧ right entries value := by
  rw [readEntries, bind_assoc]
  refine decodes_of_content hcovers hnode fun content hcontent => ?_
  cases hcontent with
  | @scalar mark scalar htag =>
    dsimp only [Content.fields?]
    split
    · rw [pure_bind]
      exact (hnext mark [] (fun _ h => nomatch h) fun _ h => nomatch h).of_iff fun _ => by simp
    · exact ((fails_refuse _ _ _).bind.decodes fun _ => by simp).of_le (Nat.zero_le _)
  | sequence =>
    exact ((fails_refuse _ _ _).bind.decodes fun _ => by simp [Content.fields?]).of_le
      (Nat.zero_le _)
  | @mapping mark tag entries hkeys hvalues =>
    rw [pure_bind]
    exact (hnext mark entries hkeys hvalues).of_iff fun _ => by simp [Content.fields?]

/-- What the slots of an axis become. -/
def AxisFields.Becomes (document : Document) (got : AxisFields)
    (entries : List (Node Nat × Node Nat)) (last : AxisFields) : Prop :=
  Fills (Means document IsBound) got.min (valuesOf "min" entries) last.min ∧
    Fills (Means document IsBound) got.max (valuesOf "max" entries) last.max

/-- What the fields of an axis may still cost. -/
def AxisFields.cost (got : AxisFields) : Nat := slotCost 1 got.min + slotCost 1 got.max

theorem decodes_axisFields (site : Site) (hcovers : Covers site.document) (mark : Mark)
    (entries : List (Node Nat × Node Nat)) (hkeys : ∀ entry ∈ entries, entry.1.IsName)
    (hvalues : ∀ entry ∈ entries, entry.2.Fits site.document.size) (got : AxisFields) :
    Decodes (aliasLimit site.document) got.cost
      (readFields site (AxisFields.read site mark) got entries)
      (got.Becomes site.document entries) := by
  refine decodes_readFields (fun got last => ?_) (fun got name key value rest hname hvalue => ?_)
    entries hkeys hvalues got
  · obtain ⟨min, max⟩ := got
    obtain ⟨min', max'⟩ := last
    simp [AxisFields.Becomes, valuesOf, fills_nil_iff]
  · have hread : Decodes (aliasLimit site.document) 1
        (readBound site mark (site.within (stepOf key)) value)
        (Means site.document IsBound value) :=
      decodes_readBound (site.within _) hcovers hvalue site mark
    unfold AxisFields.read
    split
    · rename_i hmin
      subst hmin
      refine readsFirst_once hread site mark "min" (fun hnone bound => ?_) fun last => ?_
      · simp only [AxisFields.cost, hnone, slotCost_none, slotCost_some]
        omega
      · simp only [AxisFields.Becomes, valuesOf_cons hname, fills_cons_iff,
          valuesOf_cons_of_ne hname (by decide : "min" ≠ "max")]
        grind
    · split
      · rename_i hmax
        subst hmax
        refine readsFirst_once hread site mark "max" (fun hnone bound => ?_) fun last => ?_
        · simp only [AxisFields.cost, hnone, slotCost_none, slotCost_some]
          omega
        · simp only [AxisFields.Becomes, valuesOf_cons hname, fills_cons_iff,
            valuesOf_cons_of_ne hname (by decide : "max" ≠ "min")]
          grind
      · rename_i hmin hmax
        refine readsFirst_pure fun last => ?_
        simp only [AxisFields.Becomes, valuesOf_cons_of_ne hname hmin,
          valuesOf_cons_of_ne hname hmax]

theorem decodes_readAxis (site : Site) (hcovers : Covers site.document)
    (hnode : node.Fits site.document.size) :
    Decodes (aliasLimit site.document) 3 (readAxis site node) (IsAxis site.document node) := by
  refine decodes_fields hcovers hnode fun mark entries hkeys hvalues => ?_
  have hfields := decodes_axisFields site hcovers mark entries hkeys hvalues {}
  refine (hfields.bind (fun _ _ => decodes_pure fun _ => Iff.rfl) fun _ _ => Nat.le_refl _).of_iff
      fun bounds => ?_
  simp only [fieldMeans_some_iff_fills, AxisFields.Becomes]
  constructor
  · rintro ⟨got, ⟨hmin, hmax⟩, rfl⟩
    exact ⟨⟨got.min, hmin, rfl⟩, got.max, hmax, rfl⟩
  · rintro ⟨⟨min, hmin, hminValue⟩, max, hmax, hmaxValue⟩
    exact ⟨⟨min, max⟩, ⟨hmin, hmax⟩, by rw [hminValue, hmaxValue]⟩

/-- What the slots of a row become. -/
def RowFields.Becomes (document : Document) (got : RowFields)
    (entries : List (Node Nat × Node Nat)) (last : RowFields) : Prop :=
  Fills (Means document IsText) got.text (valuesOf "text" entries) last.text ∧
    Fills (Means document IsColour) got.colour (valuesOf "color" entries) last.colour

/-- What the fields of a row may still cost. -/
def RowFields.cost (got : RowFields) : Nat := slotCost 1 got.text + slotCost 1 got.colour

theorem decodes_rowFields (site : Site) (hcovers : Covers site.document) (mark : Mark)
    (entries : List (Node Nat × Node Nat)) (hkeys : ∀ entry ∈ entries, entry.1.IsName)
    (hvalues : ∀ entry ∈ entries, entry.2.Fits site.document.size) (got : RowFields) :
    Decodes (aliasLimit site.document) got.cost
      (readFields site (RowFields.read site mark) got entries)
      (got.Becomes site.document entries) := by
  refine decodes_readFields (fun got last => ?_) (fun got name key value rest hname hvalue => ?_)
    entries hkeys hvalues got
  · obtain ⟨text, colour⟩ := got
    obtain ⟨text', colour'⟩ := last
    simp [RowFields.Becomes, valuesOf, fills_nil_iff]
  · have htext : Decodes (aliasLimit site.document) 1 (readText (site.within (stepOf key)) value)
        (Means site.document IsText value) := decodes_readText (site.within _) hcovers hvalue
    have hcolour : Decodes (aliasLimit site.document) 1
        (readColour site mark (site.within (stepOf key)) value)
        (Means site.document IsColour value) :=
      decodes_readColour (site.within _) hcovers hvalue site mark
    unfold RowFields.read
    split
    · rename_i hcase
      subst hcase
      refine readsFirst_once htext site mark "text" (fun hnone text => ?_) fun last => ?_
      · simp only [RowFields.cost, hnone, slotCost_none, slotCost_some]
        omega
      · simp only [RowFields.Becomes, valuesOf_cons hname, fills_cons_iff,
          valuesOf_cons_of_ne hname (by decide : "text" ≠ "color")]
        grind
    · split
      · rename_i hcase
        subst hcase
        refine readsFirst_once hcolour site mark "color" (fun hnone colour => ?_) fun last => ?_
        · simp only [RowFields.cost, hnone, slotCost_none, slotCost_some]
          omega
        · simp only [RowFields.Becomes, valuesOf_cons hname, fills_cons_iff,
            valuesOf_cons_of_ne hname (by decide : "color" ≠ "text")]
          grind
      · rename_i hne hne'
        refine readsFirst_pure fun last => ?_
        simp only [RowFields.Becomes, valuesOf_cons_of_ne hname hne,
          valuesOf_cons_of_ne hname hne']

/-- A row without a text is none. -/
theorem decodes_readRow (site : Site) (hcovers : Covers site.document)
    (hnode : node.Fits site.document.size) :
    Decodes (aliasLimit site.document) 3 (readRow site node) (IsRow site.document node) := by
  refine decodes_fields hcovers hnode fun mark entries hkeys hvalues => ?_
  have hfields := decodes_rowFields site hcovers mark entries hkeys hvalues {}
  refine Decodes.of_iff (?_ : Decodes _ _ _ fun row : SessionRow => ∃ got : RowFields,
    RowFields.Becomes site.document {} entries got ∧
      got.text = some row.text ∧ got.colour.getD none = row.colour) fun row => ?_
  · refine hfields.bind (fun got _ => (?_ : Decodes _ 0 _ _)) fun _ _ => Nat.le_refl _
    split
    · rename_i text htext
      refine decodes_pure fun row => ?_
      rw [htext]
      constructor
      · rintro ⟨hrow, hcolour⟩
        cases hrow
        rw [hcolour]
      · rintro rfl
        exact ⟨rfl, rfl⟩
    · rename_i htext
      refine (fails_fail _ _ _).decodes fun row h => ?_
      rw [htext] at h
      cases h.1
  · rw [fieldMeans_none_iff_fills, fieldMeans_some_iff_fills]
    constructor
    · rintro ⟨got, ⟨htext, hcolour⟩, hrow, hpaint⟩
      rw [hrow] at htext
      exact ⟨htext, got.colour, hcolour, hpaint⟩
    · rintro ⟨htext, colour, hcolour, hpaint⟩
      exact ⟨⟨some row.text, colour⟩, ⟨htext, hcolour⟩, rfl, hpaint⟩

theorem decodes_readRowsFrom (hcovers : Covers site.document) {items : List (Node Nat)}
    (hitems : ∀ item ∈ items, item.Fits site.document.size) (index : Nat) :
    Decodes (aliasLimit site.document) (3 * items.length) (readRowsFrom site index items)
      (List.Forall₂ (IsRow site.document) items) := by
  induction items generalizing index with
  | nil => exact decodes_pure fun rows => by simp
  | cons item rest ih =>
    obtain ⟨hitem, hrest⟩ := List.forall_mem_cons.1 hitems
    have hrow : Decodes (aliasLimit site.document) 3 (readRow (site.within (.item index)) item)
        (IsRow site.document item) := decodes_readRow (site.within _) hcovers hitem
    have hothers (row : SessionRow) : Decodes (aliasLimit site.document) (3 * rest.length)
        (readRowsFrom site (index + 1) rest >>= fun others => pure (row :: others)) fun rows =>
          ∃ others, List.Forall₂ (IsRow site.document) rest others ∧ rows = row :: others :=
      (ih hrest (index + 1)).bind (fun _ _ => decodes_pure fun _ => Iff.rfl)
        fun _ _ => Nat.le_refl _
    refine (hrow.bind (fun row _ => hothers row) fun _ _ => ?_).of_iff fun rows => ?_
    · rw [List.length_cons]
      omega
    · rw [List.forall₂_cons_left_iff]
      constructor
      · rintro ⟨row, hrow, others, hothers, rfl⟩
        exact ⟨row, others, hrow, hothers, rfl⟩
      · rintro ⟨row, others, hrow, hothers, rfl⟩
        exact ⟨row, hrow, others, hothers, rfl⟩

/-- There are no more rows than the size of the document. -/
theorem decodes_readRows (site : Site) (hcovers : Covers site.document)
    (hnode : node.Fits site.document.size) :
    Decodes (aliasLimit site.document) (3 * site.document.size + 1) (readRows site node)
      (IsRows site.document node) := by
  refine decodes_of_content hcovers hnode fun content hcontent => ?_
  cases hcontent with
  | @scalar mark scalar htag =>
    dsimp only [Content.items?]
    split
    · exact (decodes_pure fun rows => by simp).of_le (Nat.zero_le _)
    · exact ((fails_refuse _ _ _).decodes fun _ => by simp).of_le (Nat.zero_le _)
  | @sequence mark tag items hitems hlength =>
    exact ((decodes_readRowsFrom hcovers hitems 0).of_le (by omega)).of_iff fun _ => by
      simp [Content.items?]
  | mapping =>
    exact ((fails_refuse _ _ _).decodes fun _ => by simp [Content.items?]).of_le (Nat.zero_le _)

/-! ### The session -/

/-- What the slots of a session become. -/
def SessionFields.Becomes (document : Document) (got : SessionFields)
    (entries : List (Node Nat × Node Nat)) (last : SessionFields) : Prop :=
  Fills (IsAxis document) got.x (valuesOf "x" entries) last.x ∧
    Fills (IsAxis document) got.y (valuesOf "y" entries) last.y ∧
    Fills (Means document IsSize) got.width (valuesOf "width" entries) last.width ∧
    Fills (Means document IsSize) got.height (valuesOf "height" entries) last.height ∧
    Fills (Means document IsFlag) got.grid (valuesOf "grid" entries) last.grid ∧
    Fills (IsRows document) got.rows (valuesOf "rows" entries) last.rows

/-- What the fields of a session may still cost. -/
def SessionFields.cost (size : Nat) (got : SessionFields) : Nat :=
  slotCost 3 got.x + slotCost 3 got.y + slotCost 1 got.width + slotCost 1 got.height +
    slotCost 1 got.grid + slotCost (3 * size + 1) got.rows

theorem decodes_sessionFields (site : Site) (hcovers : Covers site.document) (mark : Mark)
    (entries : List (Node Nat × Node Nat)) (hkeys : ∀ entry ∈ entries, entry.1.IsName)
    (hvalues : ∀ entry ∈ entries, entry.2.Fits site.document.size) (got : SessionFields) :
    Decodes (aliasLimit site.document) (got.cost site.document.size)
      (readFields site (SessionFields.read site mark) got entries)
      (got.Becomes site.document entries) := by
  refine decodes_readFields (fun got last => ?_) (fun got name key value rest hname hvalue => ?_)
    entries hkeys hvalues got
  · obtain ⟨x, y, width, height, grid, rows⟩ := got
    obtain ⟨x', y', width', height', grid', rows'⟩ := last
    simp [SessionFields.Becomes, valuesOf, fills_nil_iff]
  · unfold SessionFields.read
    split
    · refine readsFirst_once (decodes_readAxis (site.within _) hcovers hvalue) site mark "x"
        (fun hnone value => ?_) fun last => ?_
      · simp only [SessionFields.cost, hnone, slotCost_none, slotCost_some]
        omega
      · simp [SessionFields.Becomes, valuesOf_cons hname, valuesOf_cons_of_ne hname, fills_cons_iff]
        grind
    · refine readsFirst_once (decodes_readAxis (site.within _) hcovers hvalue) site mark "y"
        (fun hnone value => ?_) fun last => ?_
      · simp only [SessionFields.cost, hnone, slotCost_none, slotCost_some]
        omega
      · simp [SessionFields.Becomes, valuesOf_cons hname, valuesOf_cons_of_ne hname, fills_cons_iff]
        grind
    · refine readsFirst_once (decodes_readNatural (site.within _) hcovers hvalue) site mark "width"
        (fun hnone value => ?_) fun last => ?_
      · simp only [SessionFields.cost, hnone, slotCost_none, slotCost_some]
        omega
      · simp [SessionFields.Becomes, valuesOf_cons hname, valuesOf_cons_of_ne hname, fills_cons_iff]
        grind
    · refine readsFirst_once (decodes_readNatural (site.within _) hcovers hvalue) site mark "height"
        (fun hnone value => ?_) fun last => ?_
      · simp only [SessionFields.cost, hnone, slotCost_none, slotCost_some]
        omega
      · simp [SessionFields.Becomes, valuesOf_cons hname, valuesOf_cons_of_ne hname, fills_cons_iff]
        grind
    · refine readsFirst_once (decodes_readBoolean (site.within _) hcovers hvalue) site mark "grid"
        (fun hnone value => ?_) fun last => ?_
      · simp only [SessionFields.cost, hnone, slotCost_none, slotCost_some]
        omega
      · simp [SessionFields.Becomes, valuesOf_cons hname, valuesOf_cons_of_ne hname, fills_cons_iff]
        grind
    · refine readsFirst_once (decodes_readRows (site.within _) hcovers hvalue) site mark "rows"
        (fun hnone value => ?_) fun last => ?_
      · simp only [SessionFields.cost, hnone, slotCost_none, slotCost_some, document_within]
        omega
      · simp [SessionFields.Becomes, valuesOf_cons hname, valuesOf_cons_of_ne hname, fills_cons_iff]
        grind
    · rename_i hx hy hwidth hheight hgrid hrows
      refine readsFirst_pure fun last => ?_
      simp only [SessionFields.Becomes, valuesOf_cons_of_ne hname hx, valuesOf_cons_of_ne hname hy,
        valuesOf_cons_of_ne hname hwidth, valuesOf_cons_of_ne hname hheight,
        valuesOf_cons_of_ne hname hgrid, valuesOf_cons_of_ne hname hrows]

/-- **A session is read from a mapping exactly where its fields are those of a session**, if so
many aliases may be followed. -/
theorem decodes_readSession {document : Document} {mark : Mark} {anchor : Option Nat}
    {tag : Option (List Char)} {entries : List (Node Nat × Node Nat)}
    (hcomplete : document.complete = true)
    (hroot : document.root = .mapping mark anchor tag entries)
    (hcovers : Covers document) (hfits : document.root.Fits document.size) :
    Decodes (aliasLimit document) (3 * document.size + 10) (readSession document)
      (IsSession document entries) := by
  rw [hroot] at hfits
  have hread : readSession document = readFields ⟨document, []⟩
      (SessionFields.read ⟨document, []⟩ mark) {} entries >>= fun got => pure got.session := by
    rw [readSession, hroot, hcomplete]
    rfl
  cases hfits.mapping with
  | mapping hkeys hvalues =>
    have hfields := decodes_sessionFields ⟨document, []⟩ hcovers mark entries hkeys hvalues {}
    rw [hread]
    refine ((hfields.bind (fun _ _ => decodes_pure fun _ => Iff.rfl)
      fun _ _ => Nat.le_refl _).of_le ?_).of_iff fun session => ?_
    · simp only [SessionFields.cost, slotCost_none]
      omega
    · constructor
      · rintro ⟨got, ⟨hx, hy, hwidth, hheight, hgrid, hrows⟩, rfl⟩
        constructor <;> rw [fieldMeans_some_iff_fills]
        · exact ⟨got.x, hx, rfl⟩
        · exact ⟨got.y, hy, rfl⟩
        · exact ⟨got.width, hwidth, rfl⟩
        · exact ⟨got.height, hheight, rfl⟩
        · exact ⟨got.grid, hgrid, rfl⟩
        · exact ⟨got.rows, hrows, rfl⟩
      · intro h
        obtain ⟨x, hx, hxValue⟩ := fieldMeans_some_iff_fills.mp h.x
        obtain ⟨y, hy, hyValue⟩ := fieldMeans_some_iff_fills.mp h.y
        obtain ⟨width, hwidth, hwidthValue⟩ := fieldMeans_some_iff_fills.mp h.width
        obtain ⟨height, hheight, hheightValue⟩ := fieldMeans_some_iff_fills.mp h.height
        obtain ⟨grid, hgrid, hgridValue⟩ := fieldMeans_some_iff_fills.mp h.grid
        obtain ⟨rows, hrows, hrowsValue⟩ := fieldMeans_some_iff_fills.mp h.rows
        refine ⟨⟨x, y, width, height, grid, rows⟩, ⟨hx, hy, hwidth, hheight, hgrid, hrows⟩, ?_⟩
        simp only [SessionFields.session, hxValue, hyValue, hwidthValue, hheightValue, hgridValue,
          hrowsValue]

end Session
end CurveSheet
