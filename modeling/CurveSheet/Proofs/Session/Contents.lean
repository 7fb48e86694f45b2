/-
# What a document says of a session

A field that is given says what its only value means; one that is not has its default
(`FieldMeans`).  So the fields of a mapping are those of at most one session (`IsSession`), and
there is such a session where the fields are acceptable: none that is known is given twice,
and every value of one is of its kind (`exists_isSession_iff`).
-/

import CurveSheet.Session.Decode
import Mathlib.Data.List.Forall2

namespace CurveSheet

open Session

namespace Yaml

/-! ### Values -/

/-- The name that a key is. -/
def Node.name? : Node Nat → Option String
  | .scalar _ _ word => some (String.ofList word.text)
  | _ => none

/-- The values that a name has. -/
def valuesOf (name : String) (entries : List (Node Nat × Node Nat)) : List (Node Nat) :=
  (entries.filter fun entry => entry.1.name? = some name).map (·.2)

/-- The scalar that a content is. -/
def Content.scalar? : Content → Option Scalar
  | .scalar _ word => some word
  | _ => none

/-- The fields of a content; nothing written has none. -/
def Content.fields? : Content → Option (List (Node Nat × Node Nat))
  | .mapping _ _ entries => some entries
  | .scalar _ word => if word.isVoid then some [] else none
  | .sequence _ _ _ => none

/-- The items of a content; nothing written has none. -/
def Content.items? : Content → Option (List (Node Nat))
  | .sequence _ _ items => some items
  | .scalar _ word => if word.isVoid then some [] else none
  | .mapping _ _ _ => none

namespace Document

/-- What a node holds, or what its alias means; none where the text cannot be read. -/
def content? (document : Document) : Node Nat → Option Content
  | .scalar mark _ scalar => some (.scalar mark scalar)
  | .sequence mark _ tag items => some (.sequence mark tag items)
  | .mapping mark _ tag entries => some (.mapping mark tag entries)
  | .alias _ number => some (document.target number)
  | .cut => none

/-- The scalar that a value is. -/
def scalar? (document : Document) (node : Node Nat) : Option Scalar :=
  (document.content? node).bind Content.scalar?

/-- The fields of a value. -/
def fields? (document : Document) (node : Node Nat) : Option (List (Node Nat × Node Nat)) :=
  (document.content? node).bind Content.fields?

/-- The items of a value. -/
def items? (document : Document) (node : Node Nat) : Option (List (Node Nat)) :=
  (document.content? node).bind Content.items?

end Document
end Yaml

namespace Session

open Yaml Plot

/-! ### What scalars mean -/

/-- The scalar is an integer that 32 bits hold, and has no minus sign. -/
def IsSize (scalar : Scalar) (size : UInt32) : Prop :=
  scalar.meaning = .ok (.integer size.toNat) ∧ scalar.text.head? ≠ some '-'

/-- The scalar is a boolean. -/
def IsFlag (scalar : Scalar) (flag : Bool) : Prop := scalar.meaning = .ok (.boolean flag)

/-- A text, a real number, or an integer that 64 bits hold is a bound. -/
inductive BoundOf : Meaning → BoundValue → Prop where
  | text {text : List Char} : BoundOf (.text text) (.text (String.ofList text))
  | real {x : Binary64} : BoundOf (.real x) (.number x)
  | integer {n : Int} (hmin : -(2 ^ 63) ≤ n) (hmax : n < 2 ^ 64) :
    BoundOf (.integer n) (.number (.ofInt n))

/-- The scalar is a bound. -/
def IsBound (scalar : Scalar) (bound : BoundValue) : Prop :=
  ∃ meaning, scalar.meaning = .ok meaning ∧ BoundOf meaning bound

/-- The scalar is written so. -/
def IsText (scalar : Scalar) (text : String) : Prop := text = String.ofList scalar.text

/-- The scalar is the name of a colour, or null for none. -/
inductive IsColour (scalar : Scalar) : Option Colour → Prop where
  | null (h : scalar.meaning = .ok .null) : IsColour scalar none
  | named (h : scalar.meaning ≠ .ok .null) : IsColour scalar (some ⟨String.ofList scalar.text⟩)

section

variable {scalar : Scalar}

theorem isColour_iff_null (h : scalar.meaning = .ok .null)
    {colour : Option Colour} : IsColour scalar colour ↔ colour = none := by
  constructor
  · intro hcolour
    cases hcolour with
    | null => rfl
    | named hne => exact absurd h hne
  · rintro rfl
    exact .null h

theorem isColour_iff_named (h : scalar.meaning ≠ .ok .null)
    {colour : Option Colour} :
    IsColour scalar colour ↔ colour = some ⟨String.ofList scalar.text⟩ := by
  constructor
  · intro hcolour
    cases hcolour with
    | null heq => exact absurd heq h
    | named => rfl
  · rintro rfl
    exact .named h

end

/-! ### What fields mean -/

/-- The value is a scalar with a meaning. -/
def Means {α : Type} (document : Document) (is : Scalar → α → Prop) (node : Node Nat)
    (value : α) : Prop :=
  ∃ scalar, document.scalar? node = some scalar ∧ is scalar value

/-- What the values of a field mean: that which the only value means, or the default, if there
is one, where no value is given. -/
inductive FieldMeans {α : Type} (reads : Node Nat → α → Prop) (default : Option α) :
    List (Node Nat) → α → Prop where
  | absent {value : α} (h : default = some value) : FieldMeans reads default [] value
  | given {node : Node Nat} {value : α} (h : reads node value) :
    FieldMeans reads default [node] value

/-- The value is an axis. -/
def IsAxis (document : Document) (node : Node Nat) (bounds : AxisBounds) : Prop :=
  ∃ entries, document.fields? node = some entries ∧
    FieldMeans (Means document IsBound) (some AxisBounds.default.min) (valuesOf "min" entries)
      bounds.min ∧
    FieldMeans (Means document IsBound) (some AxisBounds.default.max) (valuesOf "max" entries)
      bounds.max

/-- The value is a row. -/
def IsRow (document : Document) (node : Node Nat) (row : SessionRow) : Prop :=
  ∃ entries, document.fields? node = some entries ∧
    FieldMeans (Means document IsText) none (valuesOf "text" entries) row.text ∧
    FieldMeans (Means document IsColour) (some none) (valuesOf "color" entries) row.colour

/-- The value is a sequence of rows. -/
def IsRows (document : Document) (node : Node Nat) (rows : List SessionRow) : Prop :=
  ∃ items, document.items? node = some items ∧ List.Forall₂ (IsRow document) items rows

/-- The fields are those of a session. -/
structure IsSession (document : Document) (entries : List (Node Nat × Node Nat))
    (session : Session) : Prop where
  x : FieldMeans (IsAxis document) (some default.x) (valuesOf "x" entries) session.x
  y : FieldMeans (IsAxis document) (some default.y) (valuesOf "y" entries) session.y
  width : FieldMeans (Means document IsSize) (some default.width) (valuesOf "width" entries)
    session.width
  height : FieldMeans (Means document IsSize) (some default.height) (valuesOf "height" entries)
    session.height
  grid : FieldMeans (Means document IsFlag) (some default.grid) (valuesOf "grid" entries)
    session.grid
  rows : FieldMeans (IsRows document) (some default.rows) (valuesOf "rows" entries) session.rows

/-! ### Which fields mean anything -/

/-- The value is a scalar of a kind. -/
def IsScalarOf (document : Document) (kind : Scalar → Prop) (node : Node Nat) : Prop :=
  ∃ scalar, document.scalar? node = some scalar ∧ kind scalar

/-- The scalar can be a size. -/
def CanBeSize (scalar : Scalar) : Prop :=
  ∃ n : Int, scalar.meaning = .ok (.integer n) ∧ 0 ≤ n ∧ n < 2 ^ 32 ∧ scalar.text.head? ≠ some '-'

/-- The scalar can be a boolean. -/
def CanBeFlag (scalar : Scalar) : Prop := ∃ b, scalar.meaning = .ok (.boolean b)

/-- The scalar can be a bound. -/
def CanBeBound (scalar : Scalar) : Prop :=
  (∃ text, scalar.meaning = .ok (.text text)) ∨ (∃ x, scalar.meaning = .ok (.real x)) ∨
    ∃ n : Int, scalar.meaning = .ok (.integer n) ∧ -(2 ^ 63) ≤ n ∧ n < 2 ^ 64

/-- There is no second value, and what there is is of a kind. -/
def AtMostOne (kind : Node Nat → Prop) (values : List (Node Nat)) : Prop :=
  values.length ≤ 1 ∧ ∀ node ∈ values, kind node

/-- There is one value, and it is of a kind. -/
def ExactlyOne (kind : Node Nat → Prop) (values : List (Node Nat)) : Prop :=
  values ≠ [] ∧ AtMostOne kind values

/-- The value can be an axis. -/
def CanBeAxis (document : Document) (node : Node Nat) : Prop :=
  ∃ entries, document.fields? node = some entries ∧
    AtMostOne (IsScalarOf document CanBeBound) (valuesOf "min" entries) ∧
    AtMostOne (IsScalarOf document CanBeBound) (valuesOf "max" entries)

/-- The value can be a row: its text is given, and both its fields may be any scalars. -/
def CanBeRow (document : Document) (node : Node Nat) : Prop :=
  ∃ entries, document.fields? node = some entries ∧
    ExactlyOne (IsScalarOf document fun _ => True) (valuesOf "text" entries) ∧
    AtMostOne (IsScalarOf document fun _ => True) (valuesOf "color" entries)

/-- The value can be a sequence of rows. -/
def CanBeRows (document : Document) (node : Node Nat) : Prop :=
  ∃ items, document.items? node = some items ∧ ∀ item ∈ items, CanBeRow document item

/-- The fields can be those of a session. -/
structure IsAcceptable (document : Document) (entries : List (Node Nat × Node Nat)) : Prop where
  x : AtMostOne (CanBeAxis document) (valuesOf "x" entries)
  y : AtMostOne (CanBeAxis document) (valuesOf "y" entries)
  width : AtMostOne (IsScalarOf document CanBeSize) (valuesOf "width" entries)
  height : AtMostOne (IsScalarOf document CanBeSize) (valuesOf "height" entries)
  grid : AtMostOne (IsScalarOf document CanBeFlag) (valuesOf "grid" entries)
  rows : AtMostOne (CanBeRows document) (valuesOf "rows" entries)

section

variable {document : Document}

section

variable {α : Type} {reads : Node Nat → α → Prop} {kind : Node Nat → Prop}

/-- A field means something where it is given once with a value of its kind, or not given and
has a default. -/
theorem exists_fieldMeans_iff (h : ∀ node, (∃ value, reads node value) ↔ kind node)
    (default : Option α) (values : List (Node Nat)) :
    (∃ value, FieldMeans reads default values value) ↔
      (default = none → values ≠ []) ∧ AtMostOne kind values := by
  constructor
  · rintro ⟨value, hvalue⟩
    cases hvalue with
    | absent hdefault =>
      refine ⟨fun hnone => ?_, Nat.zero_le _, fun _ hnode => nomatch hnode⟩
      rw [hnone] at hdefault
      cases hdefault
    | given hvalue =>
      refine ⟨fun _ => List.cons_ne_nil _ _, Nat.le_refl _, fun node hnode => ?_⟩
      obtain rfl := List.mem_singleton.1 hnode
      exact (h node).mp ⟨value, hvalue⟩
  · rintro ⟨hdefault, hlength, hkind⟩
    match values with
    | [] =>
      obtain ⟨value, hvalue⟩ := Option.ne_none_iff_exists'.mp fun hnone => hdefault hnone rfl
      exact ⟨value, .absent hvalue⟩
    | [node] =>
      obtain ⟨value, hvalue⟩ := (h node).mpr (hkind node (List.mem_singleton.2 rfl))
      exact ⟨value, .given hvalue⟩

theorem exists_fieldMeans_some_iff (h : ∀ node, (∃ value, reads node value) ↔ kind node)
    (default : α) (values : List (Node Nat)) :
    (∃ value, FieldMeans reads (some default) values value) ↔ AtMostOne kind values := by
  simp [exists_fieldMeans_iff h]

theorem exists_fieldMeans_none_iff (h : ∀ node, (∃ value, reads node value) ↔ kind node)
    (values : List (Node Nat)) :
    (∃ value, FieldMeans reads none values value) ↔ ExactlyOne kind values := by
  simp [exists_fieldMeans_iff h, ExactlyOne]

end

theorem exists_means_iff (document : Document) {α : Type} {is : Scalar → α → Prop}
    {kind : Scalar → Prop} (h : ∀ scalar, (∃ value, is scalar value) ↔ kind scalar)
    (node : Node Nat) :
    (∃ value, Means document is node value) ↔ IsScalarOf document kind node := by
  constructor
  · rintro ⟨value, scalar, hscalar, hvalue⟩
    exact ⟨scalar, hscalar, (h scalar).mp ⟨value, hvalue⟩⟩
  · rintro ⟨scalar, hscalar, hkind⟩
    obtain ⟨value, hvalue⟩ := (h scalar).mpr hkind
    exact ⟨value, scalar, hscalar, hvalue⟩

theorem exists_isSize_iff (scalar : Scalar) : (∃ size, IsSize scalar size) ↔ CanBeSize scalar := by
  constructor
  · rintro ⟨size, hmeaning, hsign⟩
    have hsize := size.toNat_lt
    exact ⟨size.toNat, hmeaning, by omega, by omega, hsign⟩
  · rintro ⟨n, hmeaning, hmin, hmax, hsign⟩
    refine ⟨UInt32.ofNat n.toNat, ?_, hsign⟩
    have hsize : ((UInt32.ofNat n.toNat).toNat : Int) = n := by
      rw [UInt32.toNat_ofNat_of_lt' (by simp only [UInt32.size]; omega), Int.toNat_of_nonneg hmin]
    rw [hsize]
    exact hmeaning

theorem exists_isFlag_iff (scalar : Scalar) : (∃ flag, IsFlag scalar flag) ↔ CanBeFlag scalar :=
  Iff.rfl

theorem exists_isBound_iff (scalar : Scalar) :
    (∃ bound, IsBound scalar bound) ↔ CanBeBound scalar := by
  constructor
  · rintro ⟨bound, meaning, hmeaning, hbound⟩
    cases hbound with
    | text => exact .inl ⟨_, hmeaning⟩
    | real => exact .inr (.inl ⟨_, hmeaning⟩)
    | integer hmin hmax => exact .inr (.inr ⟨_, hmeaning, hmin, hmax⟩)
  · rintro (⟨text, h⟩ | ⟨x, h⟩ | ⟨n, h, hmin, hmax⟩)
    · exact ⟨_, _, h, .text⟩
    · exact ⟨_, _, h, .real⟩
    · exact ⟨_, _, h, .integer hmin hmax⟩

theorem exists_isText_iff (scalar : Scalar) : (∃ text, IsText scalar text) ↔ True :=
  iff_true_intro ⟨_, rfl⟩

theorem exists_isColour_iff (scalar : Scalar) : (∃ colour, IsColour scalar colour) ↔ True := by
  refine iff_true_intro ?_
  by_cases h : scalar.meaning = .ok .null
  · exact ⟨_, .null h⟩
  · exact ⟨_, .named h⟩

theorem exists_isAxis_iff (node : Node Nat) :
    (∃ bounds, IsAxis document node bounds) ↔ CanBeAxis document node := by
  have hbound := exists_means_iff document exists_isBound_iff
  constructor
  · rintro ⟨bounds, entries, hentries, hmin, hmax⟩
    exact ⟨entries, hentries, (exists_fieldMeans_some_iff hbound _ _).mp ⟨_, hmin⟩,
      (exists_fieldMeans_some_iff hbound _ _).mp ⟨_, hmax⟩⟩
  · rintro ⟨entries, hentries, hmin, hmax⟩
    obtain ⟨min, hmin⟩ := (exists_fieldMeans_some_iff hbound AxisBounds.default.min _).mpr hmin
    obtain ⟨max, hmax⟩ := (exists_fieldMeans_some_iff hbound AxisBounds.default.max _).mpr hmax
    exact ⟨⟨min, max⟩, entries, hentries, hmin, hmax⟩

theorem exists_isRow_iff (node : Node Nat) :
    (∃ row, IsRow document node row) ↔ CanBeRow document node := by
  have htext := exists_means_iff document exists_isText_iff
  have hcolour := exists_means_iff document exists_isColour_iff
  constructor
  · rintro ⟨row, entries, hentries, hrow, hpaint⟩
    exact ⟨entries, hentries, (exists_fieldMeans_none_iff htext _).mp ⟨_, hrow⟩,
      (exists_fieldMeans_some_iff hcolour _ _).mp ⟨_, hpaint⟩⟩
  · rintro ⟨entries, hentries, hrow, hpaint⟩
    obtain ⟨text, hrow⟩ := (exists_fieldMeans_none_iff htext _).mpr hrow
    obtain ⟨colour, hpaint⟩ := (exists_fieldMeans_some_iff hcolour none _).mpr hpaint
    exact ⟨⟨text, colour⟩, entries, hentries, hrow, hpaint⟩

theorem exists_isRows_iff (node : Node Nat) :
    (∃ rows, IsRows document node rows) ↔ CanBeRows document node := by
  have hforall (items : List (Node Nat)) :
      (∃ rows, List.Forall₂ (IsRow document) items rows) ↔
        ∀ item ∈ items, CanBeRow document item := by
    induction items with
    | nil => exact ⟨fun _ _ hitem => (nomatch hitem), fun _ => ⟨[], .nil⟩⟩
    | cons item items ih =>
      rw [List.forall_mem_cons, ← ih, ← exists_isRow_iff]
      constructor
      · rintro ⟨rows, h⟩
        cases h with
        | cons hrow hrows => exact ⟨⟨_, hrow⟩, _, hrows⟩
      · rintro ⟨⟨row, hrow⟩, rows, hrows⟩
        exact ⟨row :: rows, .cons hrow hrows⟩
  constructor
  · rintro ⟨rows, items, hitems, hrows⟩
    exact ⟨items, hitems, (hforall items).mp ⟨rows, hrows⟩⟩
  · rintro ⟨items, hitems, hrows⟩
    obtain ⟨rows, hrows⟩ := (hforall items).mpr hrows
    exact ⟨rows, items, hitems, hrows⟩

/-- **The fields mean a session exactly where no known one is given twice and each value is of
its kind.** -/
theorem exists_isSession_iff (entries : List (Node Nat × Node Nat)) :
    (∃ session, IsSession document entries session) ↔ IsAcceptable document entries := by
  have hsize := exists_means_iff document exists_isSize_iff
  have hflag := exists_means_iff document exists_isFlag_iff
  constructor
  · rintro ⟨session, h⟩
    constructor
    · exact (exists_fieldMeans_some_iff exists_isAxis_iff _ _).mp ⟨_, h.x⟩
    · exact (exists_fieldMeans_some_iff exists_isAxis_iff _ _).mp ⟨_, h.y⟩
    · exact (exists_fieldMeans_some_iff hsize _ _).mp ⟨_, h.width⟩
    · exact (exists_fieldMeans_some_iff hsize _ _).mp ⟨_, h.height⟩
    · exact (exists_fieldMeans_some_iff hflag _ _).mp ⟨_, h.grid⟩
    · exact (exists_fieldMeans_some_iff exists_isRows_iff _ _).mp ⟨_, h.rows⟩
  · intro h
    obtain ⟨x, hx⟩ := (exists_fieldMeans_some_iff exists_isAxis_iff default.x _).mpr h.x
    obtain ⟨y, hy⟩ := (exists_fieldMeans_some_iff exists_isAxis_iff default.y _).mpr h.y
    obtain ⟨width, hwidth⟩ := (exists_fieldMeans_some_iff hsize default.width _).mpr h.width
    obtain ⟨height, hheight⟩ := (exists_fieldMeans_some_iff hsize default.height _).mpr h.height
    obtain ⟨grid, hgrid⟩ := (exists_fieldMeans_some_iff hflag default.grid _).mpr h.grid
    obtain ⟨rows, hrows⟩ := (exists_fieldMeans_some_iff exists_isRows_iff default.rows _).mpr h.rows
    exact ⟨⟨x, y, width, height, grid, rows⟩, hx, hy, hwidth, hheight, hgrid, hrows⟩

end

end Session
end CurveSheet
