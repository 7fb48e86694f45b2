/-
# Sessions read back

What is read from the text of a session is that session (`parse_toYaml`).  The text is a
document that holds the tree of the session, and each reader of a field gives what the tree
was made of: texts come back as texts, numbers as numbers.
-/

import CurveSheet.Proofs.Session.Tokens
import CurveSheet.Proofs.Yaml.Node.Reading
import CurveSheet.Proofs.Yaml.NumberText
import CurveSheet.Session.Decode

namespace CurveSheet
namespace Session

open Yaml Yaml.Tree Plot

variable {site : Site} {node : Node Nat}

/-! ### Scalars -/

theorem readText_textTree {text : String} (h : Holds (textTree text) node) :
    readText site node = pure text := by
  obtain ⟨⟩ := h
  simp [readText, Site.content]

theorem readNatural_sizeTree {size : UInt32} (h : Holds (sizeTree size) node) :
    readNatural site node = pure size := by
  obtain ⟨⟩ := h
  have hsize : size.toNat < 2 ^ 32 := size.toNat_lt
  have hread : natural? (2 ^ 64) (Nat.toDigits 10 size.toNat) = some size.toNat :=
    natural?_toDigits (Nat.lt_trans hsize (by decide))
  simp only [readNatural, Site.content, Scalar.isLiteralOf, hread, hsize, pure_bind, if_true,
    UInt32.ofNat_toNat]

theorem readBoolean_gridTree {grid : Bool} (h : Holds (gridTree grid) node) :
    readBoolean site node = pure grid := by
  obtain ⟨⟩ := h
  cases grid <;> rfl

theorem examine_scalar (depth : Nat) (mark : Mark) (scalar : Scalar) :
    examine depth site (.scalar mark none scalar) = readScalarBound site mark scalar := by
  -- there are no equations for `examine`, which is handed to `examineItems` as a function
  cases depth <;> (delta examine; rfl)

/-- A bound is read back as it was, a number as a number and a text as a text. -/
theorem readBound_boundTree {axis : Site} {mark : Mark} {bound : BoundValue}
    (h : Holds (boundTree bound) node) :
    readBound axis mark site node = pure bound := by
  cases bound with
  | number x =>
    obtain ⟨⟩ := h
    have hmeaning : (⟨Layout.yaml.chars x, .plain, none⟩ : Scalar).meaning = .ok (.real x) :=
      congrArg Except.ok (plainMeaning_chars x)
    simp [readBound, examine_scalar, readScalarBound, isLocalTag, hmeaning]
  | text s =>
    obtain ⟨⟩ := h
    simp [readBound, examine_scalar, readScalarBound, isLocalTag, meaning_written]

/-- A colour is read back, even one that is a word for null. -/
theorem readColour_textTree {row : Site} {mark : Mark} {text : String}
    (h : Holds (textTree text) node) :
    readColour row mark site node = pure (some ⟨text⟩) := by
  obtain ⟨⟩ := h
  by_cases hstyle : styleOf text.toList = .plain
  · simp only [readColour, Site.content, hstyle, isNull_eq_false_of_styleOf hstyle,
      String.ofList_toList, pure_bind]
    rfl
  · simp [readColour, Site.content, hstyle]

/-! ### Fields -/

section

variable {σ : Type} {field : σ → String → Site → Node Nat → Reading σ} {got last : σ}
  {pairs : List (Node Nat × Node Nat)}

/-- The first field is read, and the others after it. -/
theorem readFields_of_cons {name : String} {value : Tree} {entries : List (String × Tree)}
    (next : σ) (h : HoldsEntries ((name, value) :: entries) pairs)
    (hfield : ∀ {node}, Holds value node →
      field got name (site.within (.key name)) node = pure next)
    (hrest : ∀ {rest}, HoldsEntries entries rest → readFields site field next rest = pure last) :
    readFields site field got pairs = pure last := by
  cases h with
  | cons hvalue h => simp [readFields, readName, Site.content, stepOf, hfield hvalue, hrest h]

theorem readFields_of_nil (h : HoldsEntries [] pairs) :
    readFields site field got pairs = pure got := by
  cases h
  rfl

end

theorem readAxis_axisTree {bounds : AxisBounds} (h : Holds (axisTree bounds) node) :
    readAxis site node = pure bounds := by
  cases h with
  | @fields mark _ pairs h =>
    have hfields : readFields site (AxisFields.read site mark) {} pairs =
        pure ⟨some bounds.min, some bounds.max⟩ :=
      readFields_of_cons ⟨some bounds.min, none⟩ h
        (fun h => by simp [AxisFields.read, once, readBound_boundTree h]) fun h =>
      readFields_of_cons ⟨some bounds.min, some bounds.max⟩ h
        (fun h => by simp [AxisFields.read, once, readBound_boundTree h]) readFields_of_nil
    simp [readAxis, readEntries, Site.content, hfields]

theorem readRow_rowEntries {row : SessionRow} {mark : Mark} {pairs : List (Node Nat × Node Nat)}
    (h : HoldsEntries (rowEntries row) pairs) :
    readRow site (.mapping mark none none pairs) = pure row := by
  obtain ⟨text, colour⟩ := row
  have htext : ∀ {node}, Holds (textTree text) node →
      RowFields.read site mark {} "text" (site.within (.key "text")) node =
        pure ⟨some text, none⟩ := fun h => by
    simp [RowFields.read, once, readText_textTree h]
  have hfields : readFields site (RowFields.read site mark) {} pairs =
      pure ⟨some text, colour.map some⟩ := by
    cases colour with
    | none => exact readFields_of_cons ⟨some text, none⟩ h htext readFields_of_nil
    | some colour =>
      exact readFields_of_cons ⟨some text, none⟩ h htext fun h =>
        readFields_of_cons ⟨some text, some (some colour)⟩ h
          (fun h => by simp [RowFields.read, once, readColour_textTree h]) readFields_of_nil
  cases colour <;> simp [readRow, readEntries, Site.content, hfields]

theorem readRowsFrom_rows {rows : List SessionRow} {index : Nat} {nodes : List (Node Nat)}
    (h : HoldsItems (rows.map rowEntries) nodes) : readRowsFrom site index nodes = pure rows := by
  induction rows generalizing index nodes with
  | nil =>
    cases h
    rfl
  | cons row rows ih =>
    cases h with
    | cons hrow h => simp [readRowsFrom, readRow_rowEntries hrow, ih h]

theorem readRows_rows {rows : List SessionRow} (h : Holds (.rows (rows.map rowEntries)) node) :
    readRows site node = pure rows := by
  cases h with
  | rows h => simp [readRows, Site.content, readRowsFrom_rows h]

/-! ### The session -/

theorem readSession_ofRoot {session : Session} {root : Node Nat}
    (h : Holds (.fields (sessionEntries session)) root) :
    readSession (.ofRoot root true) = pure session := by
  obtain ⟨x, y, width, height, grid, rows⟩ := session
  cases h with
  | @fields mark _ pairs h =>
    have hfields (top : Site) : readFields top (SessionFields.read top mark) {} pairs =
        pure ⟨some x, some y, some width, some height, some grid, some rows⟩ :=
      readFields_of_cons ⟨some x, none, none, none, none, none⟩ h
        (fun h => by simp [SessionFields.read, once, readAxis_axisTree h]) fun h =>
      readFields_of_cons ⟨some x, some y, none, none, none, none⟩ h
        (fun h => by simp [SessionFields.read, once, readAxis_axisTree h]) fun h =>
      readFields_of_cons ⟨some x, some y, some width, none, none, none⟩ h
        (fun h => by simp [SessionFields.read, once, readNatural_sizeTree h]) fun h =>
      readFields_of_cons ⟨some x, some y, some width, some height, none, none⟩ h
        (fun h => by simp [SessionFields.read, once, readNatural_sizeTree h]) fun h =>
      readFields_of_cons ⟨some x, some y, some width, some height, some grid, none⟩ h
        (fun h => by simp [SessionFields.read, once, readBoolean_gridTree h]) fun h =>
      readFields_of_cons ⟨some x, some y, some width, some height, some grid, some rows⟩ h
        (fun h => by simp [SessionFields.read, once, readRows_rows h]) readFields_of_nil
    simp [readSession, readEntries, Site.content, Document.ofRoot, hfields, SessionFields.session]

theorem isBlankText_toYaml (session : Session) : Text.isBlankText (toYaml session) = false := by
  rw [Text.isBlankText, toYaml, String.toList_ofList, List.all_eq_false]
  exact ⟨'x', List.mem_cons_self .., by decide⟩

/-- **A session is read back from its text**, whatever its texts and numbers are: a text that
looks like a number stays a text, and the sign of a zero is kept. -/
theorem parse_toYaml (session : Session) : parse (toYaml session) = .ok session := by
  obtain ⟨root, hread, hroot⟩ := Document.exists_read?_eq (map_kind_tokens_toYaml session)
  rw [parse, isBlankText_toYaml, if_neg Bool.false_ne_true, hread]
  dsimp only
  rw [readSession_ofRoot hroot]
  rfl

end Session
end CurveSheet
