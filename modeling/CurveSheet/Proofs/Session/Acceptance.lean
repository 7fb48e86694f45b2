/-
# Which texts hold a session

A text that is a document with fields (`HoldsFields`) holds a session exactly where its fields
are acceptable, and then holds the session of these fields and no other, whatever their order is
and whatever else stands between them (`parse_fields`).  A size must have no minus sign, not even
that of zero (`parse_width_minus_zero`).
-/

import CurveSheet.Proofs.Session.Order
import CurveSheet.Proofs.Session.Records
import CurveSheet.Proofs.Yaml.Node.Reading
import CurveSheet.Proofs.Yaml.Token.Blank

namespace CurveSheet

open Yaml

namespace Yaml.Tree

mutual

/-- A node that holds a tree has no tags and no keys but scalars. -/
theorem isSimple_of_holds {tree : Tree} {node : Node Nat} : Holds tree node → node.IsSimple
  | .scalar => .scalar rfl
  | .fields h => .mapping (isName_of_holdsEntries h) (isSimple_of_holdsEntries h)
  | .rows h => .sequence (isSimple_of_holdsItems h)

theorem isName_of_holdsEntries {entries : List (String × Tree)}
    {pairs : List (Node Nat × Node Nat)} :
    HoldsEntries entries pairs → ∀ entry ∈ pairs, entry.1.IsName
  | .nil => fun _ hentry => nomatch hentry
  | .cons _ h => List.forall_mem_cons.2 ⟨.intro rfl, isName_of_holdsEntries h⟩

theorem isSimple_of_holdsEntries {entries : List (String × Tree)}
    {pairs : List (Node Nat × Node Nat)} :
    HoldsEntries entries pairs → ∀ entry ∈ pairs, entry.2.IsSimple
  | .nil => fun _ hentry => nomatch hentry
  | .cons hvalue h => List.forall_mem_cons.2 ⟨isSimple_of_holds hvalue, isSimple_of_holdsEntries h⟩

theorem isSimple_of_holdsItems {items : List (List (String × Tree))} {nodes : List (Node Nat)} :
    HoldsItems items nodes → ∀ item ∈ nodes, item.IsSimple
  | .nil => fun _ hitem => nomatch hitem
  | .cons hentries h => List.forall_mem_cons.2 ⟨.mapping (isName_of_holdsEntries hentries)
      (isSimple_of_holdsEntries hentries), isSimple_of_holdsItems h⟩

end

end Yaml.Tree

namespace Session

/-- The text is a single document, without tags and other keys than scalars, and its top node has
these fields. -/
structure HoldsFields (text : String) (document : Document)
    (entries : List (Node Nat × Node Nat)) : Prop where
  read : Document.read? text.toList = some document
  complete : document.complete = true
  simple : document.root.IsSimple
  root : ∃ mark anchor, document.root = .mapping mark anchor none entries

/-- A text with the tokens of fields holds these fields. -/
theorem exists_holdsFields {text : String} {entries : List (String × Tree)}
    (hkinds : (tokens text.toList).map Token.kind = (Tree.fields entries).kinds ++ [.streamEnd]) :
    ∃ root pairs, HoldsFields text (.ofRoot root true) pairs ∧ Tree.HoldsEntries entries pairs := by
  obtain ⟨root, hread, hroot⟩ := Document.exists_read?_eq hkinds
  have hsimple := Tree.isSimple_of_holds hroot
  cases hroot with
  | fields h => exact ⟨_, _, ⟨hread, rfl, hsimple, _, _, rfl⟩, h⟩

theorem parse_eq_ok_iff {text : String} {document : Document}
    {entries : List (Node Nat × Node Nat)} (h : HoldsFields text document entries)
    (session : Session) : parse text = .ok session ↔ IsSession document entries session := by
  obtain ⟨hread, hcomplete, hsimple, mark, anchor, hroot⟩ := h
  obtain ⟨hfits, hcovers⟩ := Document.fits_of_complete hread hcomplete hsimple
  have hblank : Text.isBlankText text = false := by
    rw [← Bool.not_eq_true]
    intro hblank
    exact Document.root_ne_mapping hread hblank _ _ _ _ hroot
  have hdecodes := decodes_readSession hcomplete hroot hcovers hfits
  have hone := hfits.whole.one_le_nodeSize
  have hsize := hfits.size_le
  rw [parse, hblank, if_neg Bool.false_ne_true, hread]
  dsimp only
  rw [StateT.run'_eq]
  constructor
  · intro hrun
    cases hresult : (readSession document).run 0 with
    | error fault =>
      rw [hresult] at hrun
      cases hrun
    | ok result =>
      rw [hresult] at hrun
      cases hrun
      exact hdecodes.sound hresult
  · intro hsession
    -- only rows are as many as the document is large, and each costs three aliases
    have hlimit : 0 + (3 * document.size + 10) ≤ aliasLimit document := by
      simp only [aliasLimit, aliasFactor]
      omega
    obtain ⟨m, -, hresult⟩ := hdecodes.complete hsession hlimit
    rw [hresult]
    rfl

/-- **A document with fields holds a session exactly where no field that is known is given twice
and each value is of its kind.**  The session has what is given and the default of what is not,
and any document with the same fields holds it too, whatever their order is and whatever fields
of other names it has. -/
theorem parse_fields {text : String} {document : Document} {entries : List (Node Nat × Node Nat)}
    (h : HoldsFields text document entries) :
    ((∃ session, parse text = .ok session) ↔ IsAcceptable document entries) ∧
      (∀ session, parse text = .ok session ↔ IsSession document entries session) ∧
      ∀ text' document' entries', HoldsFields text' document' entries' →
        SameSession document document' entries entries' →
        ∀ session, parse text' = .ok session ↔ parse text = .ok session := by
  refine ⟨?_, parse_eq_ok_iff h, ?_⟩
  · rw [← exists_isSession_iff]
    exact exists_congr (parse_eq_ok_iff h)
  · intro text' document' entries' h' hsame session
    rw [parse_eq_ok_iff h, parse_eq_ok_iff h', hsame.isSession_iff]

/-- Two fields in the other order, with one more between them. -/
theorem parse_fields_reordered : ∃ document entries document' entries',
    HoldsFields "grid: false\nwidth: 5\n" document entries ∧
      HoldsFields "width: 5\nnote: a\ngrid: false\n" document' entries' ∧
      SameSession document document' entries entries' ∧ IsAcceptable document entries ∧
      ∀ session, parse "width: 5\nnote: a\ngrid: false\n" = .ok session ↔
        parse "grid: false\nwidth: 5\n" = .ok session := by
  have hkinds : (tokens "grid: false\nwidth: 5\n".toList).map Token.kind =
      (Tree.fields [("grid", .scalar "false".toList .plain),
        ("width", .scalar "5".toList .plain)]).kinds ++ [.streamEnd] := by
    decide +kernel
  have hkinds' : (tokens "width: 5\nnote: a\ngrid: false\n".toList).map Token.kind =
      (Tree.fields [("width", .scalar "5".toList .plain), ("note", .scalar "a".toList .plain),
        ("grid", .scalar "false".toList .plain)]).kinds ++ [.streamEnd] := by
    decide +kernel
  obtain ⟨root, pairs, h, hpairs⟩ := exists_holdsFields hkinds
  obtain ⟨root', pairs', h', hpairs'⟩ := exists_holdsFields hkinds'
  have hparses : ∃ session, parse "grid: false\nwidth: 5\n" = .ok session := by
    have hok : (parse "grid: false\nwidth: 5\n").isOk = true := by decide +kernel
    cases hparse : parse "grid: false\nwidth: 5\n" with
    | ok session => exact ⟨session, rfl⟩
    | error fault =>
      rw [hparse] at hok
      cases hok
  have hsame : SameSession (.ofRoot root true) (.ofRoot root' true) pairs pairs' := by
    obtain _ | ⟨⟨⟩, _ | ⟨⟨⟩, ⟨⟩⟩⟩ := hpairs
    obtain _ | ⟨⟨⟩, _ | ⟨_, _ | ⟨⟨⟩, ⟨⟩⟩⟩⟩ := hpairs'
    exact ⟨_, List.Perm.swap _ _ _, .cons ⟨"grid", rfl, rfl, rfl⟩
      (.cons ⟨"width", rfl, rfl, rfl⟩ .nil)⟩
  obtain ⟨haccepts, -, horder⟩ := parse_fields h
  exact ⟨_, _, _, _, h, h', hsame, haccepts.mp hparses, horder _ _ _ h' hsame⟩

/-- The size 0 is not read with a minus sign. -/
theorem parse_width_minus_zero : ∃ document key value scalar,
    HoldsFields "width: -0" document [(key, value)] ∧ key.name? = some "width" ∧
      document.scalar? value = some scalar ∧ scalar.meaning = .ok (.integer 0) ∧
      ∀ session, parse "width: -0" ≠ .ok session := by
  have hkinds : (tokens "width: -0".toList).map Token.kind =
      (Tree.fields [("width", .scalar "-0".toList .plain)]).kinds ++ [.streamEnd] := by
    decide +kernel
  obtain ⟨root, pairs, h, hpairs⟩ := exists_holdsFields hkinds
  have hfails : (parse "width: -0").isOk = false := by decide +kernel
  cases hpairs with
  | @cons _ _ _ _ _ _ hvalue hrest =>
    cases hrest
    cases hvalue
    refine ⟨_, _, _, _, h, rfl, rfl, by decide +kernel, fun session hsession => ?_⟩
    rw [hsession] at hfails
    cases hfails

end Session
end CurveSheet
