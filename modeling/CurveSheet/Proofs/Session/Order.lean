/-
# The order of fields

Fields are found by their names, so what they mean does not depend on their order, nor on the
fields with other names.  Two mappings have the same fields if those that are known agree in
some order (`SameFields`), which for an axis or a row is asked of its own fields again
(`SameSession`).  Then they mean the same session, if any (`SameSession.isSession_iff`), even
if they stand in different documents.
-/

import CurveSheet.Proofs.Session.Contents

namespace CurveSheet
namespace Session

open Yaml

/-- The fields that have one of some names. -/
def known (names : List String) (entries : List (Node Nat × Node Nat)) :
    List (Node Nat × Node Nat) :=
  entries.filter fun entry => entry.1.name?.any names.contains

/-- Two fields have one name, and values that are the same as this name asks it. -/
def SameField (same : String → Node Nat → Node Nat → Prop) (entry other : Node Nat × Node Nat) :
    Prop :=
  ∃ name, entry.1.name? = some name ∧ other.1.name? = some name ∧ same name entry.2 other.2

/-- The fields of some names are the same, in some order. -/
def SameFields (names : List String) (same : String → Node Nat → Node Nat → Prop)
    (entries others : List (Node Nat × Node Nat)) : Prop :=
  ∃ sorted, sorted.Perm (known names others) ∧
    List.Forall₂ (SameField same) (known names entries) sorted

section

variable (document other : Document)

/-- Two values are the same scalar, or neither is one. -/
def SameScalar (node node' : Node Nat) : Prop := document.scalar? node = other.scalar? node'

/-- Two values have the same bounds, or neither has fields. -/
def SameAxis (node node' : Node Nat) : Prop :=
  Option.Rel (SameFields ["min", "max"] fun _ => SameScalar document other)
    (document.fields? node) (other.fields? node')

/-- Two values have the same text and colour, or neither has fields. -/
def SameRow (node node' : Node Nat) : Prop :=
  Option.Rel (SameFields ["text", "color"] fun _ => SameScalar document other)
    (document.fields? node) (other.fields? node')

/-- Two values have the same rows, or neither has items. -/
def SameRows (node node' : Node Nat) : Prop :=
  Option.Rel (List.Forall₂ (SameRow document other)) (document.items? node) (other.items? node')

/-- The values of a field of a session are the same. -/
def SameValue (name : String) : Node Nat → Node Nat → Prop :=
  if name = "x" ∨ name = "y" then SameAxis document other
  else if name = "rows" then SameRows document other
  else SameScalar document other

/-- Two mappings have the same fields of a session. -/
def SameSession : List (Node Nat × Node Nat) → List (Node Nat × Node Nat) → Prop :=
  SameFields ["x", "y", "width", "height", "grid", "rows"] (SameValue document other)

end

/-! ### Values of a name -/

theorem valuesOf_known {names : List String} {name : String} (h : name ∈ names)
    (entries : List (Node Nat × Node Nat)) :
    valuesOf name (known names entries) = valuesOf name entries := by
  unfold valuesOf known
  rw [List.filter_filter]
  congr 2
  funext entry
  by_cases hname : entry.1.name? = some name <;> simp [hname, h]

theorem forall₂_valuesOf {same : String → Node Nat → Node Nat → Prop}
    {entries others : List (Node Nat × Node Nat)}
    (h : List.Forall₂ (SameField same) entries others) (name : String) :
    List.Forall₂ (same name) (valuesOf name entries) (valuesOf name others) := by
  induction h with
  | nil => exact .nil
  | @cons entry other entries others hfield _ ih =>
    obtain ⟨found, hentry, hother, hsame⟩ := hfield
    by_cases hname : found = name
    · subst hname
      simpa [valuesOf, hentry, hother] using And.intro hsame ih
    · simpa [valuesOf, hentry, hother, hname] using ih

/-- The values of a known name are the same, in some order. -/
theorem SameFields.exists_values {names : List String}
    {same : String → Node Nat → Node Nat → Prop} {entries others : List (Node Nat × Node Nat)}
    (h : SameFields names same entries others) {name : String} (hname : name ∈ names) :
    ∃ values, values.Perm (valuesOf name others) ∧
      List.Forall₂ (same name) (valuesOf name entries) values := by
  obtain ⟨sorted, hperm, hsame⟩ := h
  refine ⟨valuesOf name sorted, ?_, ?_⟩
  · rw [← valuesOf_known hname others]
    exact (hperm.filter _).map _
  · rw [← valuesOf_known hname entries]
    exact forall₂_valuesOf hsame name

/-- A field means the same whatever the order of its values is: if there is more than one, it
means nothing. -/
theorem SameFields.fieldMeans_iff {α : Type} {names : List String}
    {same : String → Node Nat → Node Nat → Prop} {entries others : List (Node Nat × Node Nat)}
    (h : SameFields names same entries others) (name : String) (hname : name ∈ names)
    {reads reads' : Node Nat → α → Prop}
    (hreads : ∀ {node node'}, same name node node' → ∀ value, reads node value ↔ reads' node' value)
    (default : Option α) (value : α) :
    FieldMeans reads default (valuesOf name entries) value ↔
      FieldMeans reads' default (valuesOf name others) value := by
  obtain ⟨values, hperm, hsame⟩ := h.exists_values hname
  generalize valuesOf name entries = given at hsame
  generalize valuesOf name others = given' at hperm
  cases hsame with
  | nil =>
    obtain rfl := List.nil_perm.1 hperm
    constructor <;>
    · intro hfield
      cases hfield with
      | absent hdefault => exact .absent hdefault
  | cons hfirst hrest =>
    -- a single value has one order only, and of two or more none is taken
    cases hrest with
    | nil =>
      obtain rfl := List.singleton_perm.1 hperm
      constructor
      · intro hfield
        cases hfield with
        | given hvalue => exact .given ((hreads hfirst value).mp hvalue)
      · intro hfield
        cases hfield with
        | given hvalue => exact .given ((hreads hfirst value).mpr hvalue)
    | cons hsecond hrest =>
      have hlength := hperm.length_eq
      constructor
      · intro hfield
        cases hfield
      · intro hfield
        cases hfield <;> simp at hlength

/-! ### Meanings -/

section

variable {document other : Document} {node node' : Node Nat}

/-- What is asked of a part, if there is one, is asked alike of parts that are the same. -/
theorem exists_part_iff {α β : Type} {same : α → β → Prop} {part : Option α} {part' : Option β}
    (h : Option.Rel same part part') {asks : α → Prop} {asks' : β → Prop}
    (hasks : ∀ {a b}, same a b → (asks a ↔ asks' b)) :
    (∃ a, part = some a ∧ asks a) ↔ ∃ b, part' = some b ∧ asks' b := by
  cases h with
  | none => simp
  | some hsame => simp [hasks hsame]

theorem SameScalar.means_iff {α : Type} (is : Scalar → α → Prop)
    (h : SameScalar document other node node') (value : α) :
    Means document is node value ↔ Means other is node' value := by
  unfold Means
  rw [h]

theorem SameAxis.isAxis_iff (h : SameAxis document other node node') (bounds : AxisBounds) :
    IsAxis document node bounds ↔ IsAxis other node' bounds := by
  refine exists_part_iff h fun hfields => and_congr ?_ ?_
  · exact hfields.fieldMeans_iff "min" (by simp) (SameScalar.means_iff IsBound) _ _
  · exact hfields.fieldMeans_iff "max" (by simp) (SameScalar.means_iff IsBound) _ _

theorem SameRow.isRow_iff (h : SameRow document other node node') (row : SessionRow) :
    IsRow document node row ↔ IsRow other node' row := by
  refine exists_part_iff h fun hfields => and_congr ?_ ?_
  · exact hfields.fieldMeans_iff "text" (by simp) (SameScalar.means_iff IsText) _ _
  · exact hfields.fieldMeans_iff "color" (by simp) (SameScalar.means_iff IsColour) _ _

theorem SameRows.isRows_iff (h : SameRows document other node node') (rows : List SessionRow) :
    IsRows document node rows ↔ IsRows other node' rows := by
  refine exists_part_iff h fun hitems => ?_
  induction hitems generalizing rows with
  | nil => simp
  | cons hrow _ ih => cases rows <;> simp [hrow.isRow_iff, ih]

/-- **Mappings with the same fields mean the same session**, whatever the order of the fields is,
and whatever fields of other names stand between them. -/
theorem SameSession.isSession_iff {entries others : List (Node Nat × Node Nat)}
    (h : SameSession document other entries others) (session : Session) :
    IsSession document entries session ↔ IsSession other others session := by
  have hx := h.fieldMeans_iff "x" (by simp) SameAxis.isAxis_iff
  have hy := h.fieldMeans_iff "y" (by simp) SameAxis.isAxis_iff
  have hwidth := h.fieldMeans_iff "width" (by simp) (SameScalar.means_iff IsSize)
  have hheight := h.fieldMeans_iff "height" (by simp) (SameScalar.means_iff IsSize)
  have hgrid := h.fieldMeans_iff "grid" (by simp) (SameScalar.means_iff IsFlag)
  have hrows := h.fieldMeans_iff "rows" (by simp) SameRows.isRows_iff
  constructor
  · intro hsession
    constructor
    · exact (hx _ _).mp hsession.x
    · exact (hy _ _).mp hsession.y
    · exact (hwidth _ _).mp hsession.width
    · exact (hheight _ _).mp hsession.height
    · exact (hgrid _ _).mp hsession.grid
    · exact (hrows _ _).mp hsession.rows
  · intro hsession
    constructor
    · exact (hx _ _).mpr hsession.x
    · exact (hy _ _).mpr hsession.y
    · exact (hwidth _ _).mpr hsession.width
    · exact (hheight _ _).mpr hsession.height
    · exact (hgrid _ _).mpr hsession.grid
    · exact (hrows _ _).mpr hsession.rows

end

end Session
end CurveSheet
