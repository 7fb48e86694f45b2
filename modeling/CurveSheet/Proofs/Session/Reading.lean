/-
# Reading values

A reading *decodes* what is right if it gives right values only, and every right one
(`Decodes`).  Reading a value may follow an alias, and no more than a limited number of these
are followed, so a right value is given only where that number is not reached; how many
aliases a reading follows at most is its *cost*.  Every reader of a scalar decodes what the
scalar means, at the cost of one alias.
-/

import CurveSheet.Proofs.Session.Contents
import CurveSheet.Proofs.Yaml.Node.Part
import CurveSheet.Proofs.Yaml.Scalar.Meaning

namespace CurveSheet
namespace Session

open Yaml Plot

/-- The reading gives no value. -/
def Fails {α : Type} (reading : Reading α) : Prop := ∀ n, ∃ fault, reading.run n = .error fault

/-- The reading gives right values only, and every right one while `cost` more aliases may be
followed. -/
structure Decodes {α : Type} (limit cost : Nat) (reading : Reading α) (right : α → Prop) :
    Prop where
  sound : ∀ {n value m}, reading.run n = .ok (value, m) → right value
  complete : ∀ {n value}, right value → n + cost ≤ limit →
    ∃ m ≤ n + cost, reading.run n = .ok (value, m)

section

variable {α β : Type} {reading : Reading α} {next : α → Reading β}

theorem run_bind_of_ok {n m : Nat} {a : α} (h : reading.run n = .ok (a, m)) :
    (reading >>= next).run n = (next a).run m := by
  rw [StateT.run_bind, h]
  rfl

theorem run_bind_of_error {n : Nat} {fault : Fault} (h : reading.run n = .error fault) :
    (reading >>= next).run n = .error fault := by
  rw [StateT.run_bind, h]
  rfl

theorem exists_of_run_bind {n m : Nat} {b : β} (h : (reading >>= next).run n = .ok (b, m)) :
    ∃ a l, reading.run n = .ok (a, l) ∧ (next a).run l = .ok (b, m) := by
  cases hrun : reading.run n with
  | error fault =>
    rw [run_bind_of_error hrun] at h
    cases h
  | ok result =>
    obtain ⟨a, l⟩ := result
    rw [run_bind_of_ok hrun] at h
    exact ⟨a, l, rfl, h⟩

theorem fails_throw (fault : Fault) : Fails (throw fault : Reading α) := fun _ => ⟨fault, rfl⟩

theorem fails_fail (site : Site) (mark : Mark) (what : Problem) :
    Fails (site.fail mark what : Reading α) := fails_throw _

theorem fails_refuse (site : Site) (content : Content) (expected : Expected) :
    Fails (site.refuse content expected : Reading α) := fails_throw _

theorem Fails.bind (h : Fails reading) : Fails (reading >>= next) := by
  intro n
  obtain ⟨fault, hrun⟩ := h n
  exact ⟨fault, run_bind_of_error hrun⟩

/-- A reading fails if whatever it goes on with does. -/
theorem fails_bind (h : ∀ a, Fails (next a)) : Fails (reading >>= next) := by
  intro n
  cases hrun : reading.run n with
  | error fault => exact ⟨fault, run_bind_of_error hrun⟩
  | ok result =>
    rw [run_bind_of_ok hrun]
    exact h result.1 result.2

end

/-! ### Decoding -/

section

variable {α β : Type} {limit cost : Nat} {reading : Reading α} {right : α → Prop}

theorem Fails.decodes (h : Fails reading) (hright : ∀ value, ¬ right value) :
    Decodes limit 0 reading right := by
  constructor
  · intro n value m hrun
    obtain ⟨fault, hfault⟩ := h n
    rw [hfault] at hrun
    cases hrun
  · intro n value hvalue
    exact absurd hvalue (hright value)

theorem decodes_pure {a : α} (hright : ∀ value, right value ↔ value = a) :
    Decodes limit 0 (pure a) right := by
  constructor
  · intro n value m hrun
    cases hrun
    exact (hright a).mpr rfl
  · intro n value hvalue _
    obtain rfl := (hright value).mp hvalue
    exact ⟨n, Nat.le_refl _, rfl⟩

theorem Decodes.of_iff {right' : α → Prop} (h : Decodes limit cost reading right)
    (hright : ∀ value, right value ↔ right' value) : Decodes limit cost reading right' := by
  constructor
  · intro n value m hrun
    exact (hright value).mp (h.sound hrun)
  · intro n value hvalue
    exact h.complete ((hright value).mpr hvalue)

theorem Decodes.of_le {less : Nat} (h : Decodes limit less reading right) (hless : less ≤ cost) :
    Decodes limit cost reading right := by
  constructor
  · exact h.sound
  · intro n value hvalue hcost
    have hlimit : n + less ≤ limit := by omega
    obtain ⟨m, hm, hrun⟩ := h.complete hvalue hlimit
    exact ⟨m, by omega, hrun⟩

/-- One reading after the other costs what both do. -/
theorem Decodes.bind {next : α → Reading β} {then' : α → β → Prop} {cost' : α → Nat} {total : Nat}
    (h : Decodes limit cost reading right)
    (hnext : ∀ a, right a → Decodes limit (cost' a) (next a) (then' a))
    (htotal : ∀ a, right a → cost + cost' a ≤ total) :
    Decodes limit total (reading >>= next) fun b => ∃ a, right a ∧ then' a b := by
  constructor
  · intro n value m hrun
    obtain ⟨a, l, hfirst, hsecond⟩ := exists_of_run_bind hrun
    have ha := h.sound hfirst
    exact ⟨a, ha, (hnext a ha).sound hsecond⟩
  · rintro n value ⟨a, ha, hvalue⟩ hlimit
    have hcost := htotal a ha
    have hless : n + cost ≤ limit := by omega
    obtain ⟨l, hl, hfirst⟩ := h.complete ha hless
    have hrest : l + cost' a ≤ limit := by omega
    obtain ⟨m, hm, hsecond⟩ := (hnext a ha).complete hvalue hrest
    exact ⟨m, by omega, by rw [run_bind_of_ok hfirst, hsecond]⟩

theorem Decodes.map {f : α → β} (h : Decodes limit cost reading right) :
    Decodes limit cost (f <$> reading) fun b => ∃ a, right a ∧ b = f a := by
  rw [← bind_pure_comp]
  exact h.bind (fun a _ => decodes_pure fun _ => Iff.rfl) fun _ _ => Nat.le_refl _

end

/-! ### What nodes hold -/

@[simp] theorem document_within (site : Site) (step : PathStep) :
    (site.within step).document = site.document := rfl

/-- Whatever an alias means fits. -/
def Covers (document : Document) : Prop := ∀ number, (document.target number).Fits document.size

variable {document : Document} {site : Site} {node : Node Nat}

theorem fits_of_content? (hcovers : Covers document) (hnode : node.Fits document.size)
    {content : Content} (h : document.content? node = some content) :
    content.Fits document.size := by
  rcases node with _ | _ | _ | ⟨mark, number⟩ | _
  · cases h
    exact hnode.scalar
  · cases h
    exact hnode.sequence
  · cases h
    exact hnode.mapping
  · cases h
    exact hcovers number
  · cases h

/-- So many aliases are followed in a document. -/
abbrev aliasLimit (document : Document) : Nat := aliasFactor * document.size

theorem run_content_alias (mark : Mark) (number n : Nat) :
    (site.content (Node.alias mark number)).run n =
      if aliasLimit site.document ≤ n then .error .malformed
      else .ok (site.document.target number, n + 1) := by
  show StateT.run (if aliasLimit site.document ≤ n then throw .malformed
    else do set (n + 1); pure (site.document.target number) : Reading Content) n = _
  split <;> rfl

theorem decodes_content (site : Site) (node : Node Nat) :
    Decodes (aliasLimit site.document) 1 (site.content node) fun content =>
      site.document.content? node = some content := by
  rcases node with _ | _ | _ | ⟨mark, number⟩ | _
  · exact (decodes_pure fun _ => by simp [Document.content?, eq_comm]).of_le (by omega)
  · exact (decodes_pure fun _ => by simp [Document.content?, eq_comm]).of_le (by omega)
  · exact (decodes_pure fun _ => by simp [Document.content?, eq_comm]).of_le (by omega)
  · constructor
    · intro n value m h
      rw [run_content_alias] at h
      split at h
      · cases h
      · cases h
        rfl
    · intro n value hvalue hlimit
      cases hvalue
      exact ⟨n + 1, Nat.le_refl _, by rw [run_content_alias, if_neg (by omega)]⟩
  · exact ((fails_throw _).decodes fun _ h => by cases h).of_le (by omega)

/-- Looking at what a node holds costs one alias. -/
theorem decodes_of_content {α β : Type} {cost : Nat} {get : Content → Option β}
    {right : β → α → Prop} {next : Content → Reading α} (hcovers : Covers site.document)
    (hnode : node.Fits site.document.size)
    (hnext : ∀ content, content.Fits site.document.size →
      Decodes (aliasLimit site.document) cost (next content) fun value =>
        ∃ part, get content = some part ∧ right part value) :
    Decodes (aliasLimit site.document) (cost + 1) (site.content node >>= next) fun value =>
      ∃ part, (site.document.content? node).bind get = some part ∧ right part value := by
  have hcontent (content : Content) (h : site.document.content? node = some content) :=
    hnext content (fits_of_content? hcovers hnode h)
  refine ((decodes_content site node).bind hcontent fun _ _ =>
    Nat.le_of_eq (Nat.add_comm _ _)).of_iff fun value => ?_
  simp only [Option.bind_eq_some_iff]
  constructor
  · rintro ⟨content, hcontent, part, hpart, hvalue⟩
    exact ⟨part, ⟨content, hcontent, hpart⟩, hvalue⟩
  · rintro ⟨part, ⟨content, hcontent, hpart⟩, hvalue⟩
    exact ⟨content, hcontent, part, hpart, hvalue⟩

theorem decodes_scalar {α : Type} {is : Scalar → α → Prop} {next : Content → Reading α}
    (hcovers : Covers site.document) (hnode : node.Fits site.document.size)
    (hscalar : ∀ mark scalar, scalar.tag = none →
      Decodes (aliasLimit site.document) 0 (next (.scalar mark scalar)) (is scalar))
    (hsequence : ∀ mark tag items, Fails (next (.sequence mark tag items)))
    (hmapping : ∀ mark tag entries, Fails (next (.mapping mark tag entries))) :
    Decodes (aliasLimit site.document) 1 (site.content node >>= next)
      (Means site.document is node) := by
  refine decodes_of_content hcovers hnode fun content hcontent => ?_
  cases hcontent with
  | scalar htag => exact (hscalar _ _ htag).of_iff fun _ => by simp [Content.scalar?]
  | sequence => exact (hsequence _ _ _).decodes fun _ => by simp [Content.scalar?]
  | mapping => exact (hmapping _ _ _).decodes fun _ => by simp [Content.scalar?]

/-! ### Readers of scalars -/

/-- What examining a value does with its content: a scalar is read, and what is no scalar is no
bound, whatever lies in it. -/
theorem exists_examine_eq (depth : Nat) (site : Site) :
    ∃ f : Content → Reading (Option BoundValue),
      (∀ node, examine depth site node = site.content node >>= f) ∧
      (∀ mark scalar, f (.scalar mark scalar) = readScalarBound site mark scalar) ∧
      ∀ content, content.scalar? = none → ∀ next : Option BoundValue → Reading BoundValue,
        Fails (next none) → Fails (f content >>= next) := by
  cases depth with
  | zero =>
    -- there are no equations for `examine`, which is handed to `examineItems` as a function
    delta examine
    refine ⟨_, fun _ => rfl, fun _ _ => rfl, fun content hcontent next _ => ?_⟩
    cases content with
    | scalar => cases hcontent
    | sequence => exact (fails_throw _).bind
    | mapping => exact (fails_throw _).bind
  | succ depth =>
    delta examine
    refine ⟨_, fun _ => rfl, fun _ _ => rfl, fun content hcontent next hnone => ?_⟩
    cases content with
    | scalar => cases hcontent
    | sequence mark tag items =>
      cases htag : isLocalTag tag with
      | true =>
        simp only [htag]
        exact (fails_throw _).bind
      | false =>
        simp only [htag, bind_assoc, pure_bind]
        exact fails_bind fun _ => hnone
    | mapping mark tag entries =>
      cases htag : isLocalTag tag with
      | true =>
        simp only [htag]
        exact (fails_throw _).bind
      | false =>
        simp only [htag, bind_assoc, pure_bind]
        exact fails_bind fun _ => hnone

section

variable (site : Site) (hcovers : Covers site.document) (hnode : node.Fits site.document.size)

include hcovers hnode

theorem decodes_readNatural :
    Decodes (aliasLimit site.document) 1 (readNatural site node)
      (Means site.document IsSize node) := by
  refine decodes_scalar hcovers hnode (fun mark scalar htag => ?_)
    (fun _ _ _ => fails_refuse _ _ _) (fun _ _ _ => fails_refuse _ _ _)
  dsimp only
  split
  · rename_i hread
    refine (fails_refuse _ _ _).decodes fun size hsize => ?_
    have hless : size.toNat < 2 ^ 64 := Nat.lt_trans size.toNat_lt (by decide)
    rw [(meaning_eq_integer_iff htag).mp ⟨hsize.1, hless, hsize.2⟩] at hread
    cases hread
  · rename_i n hread
    obtain ⟨hmeaning, -, hsign⟩ := (meaning_eq_integer_iff htag).mpr hread
    have hsize (size : UInt32) : IsSize scalar size ↔ n = size.toNat := by
      rw [IsSize, hmeaning, Except.ok.injEq, Meaning.integer.injEq, Int.natCast_inj]
      exact and_iff_left hsign
    split
    · rename_i hless
      refine decodes_pure fun size => (hsize size).trans ?_
      rw [← UInt32.toNat_inj, UInt32.toNat_ofNat_of_lt' hless, eq_comm]
    · rename_i hless
      refine (fails_fail _ _ _).decodes fun size h => hless ?_
      rw [(hsize size).mp h]
      exact size.toNat_lt

theorem decodes_readBoolean :
    Decodes (aliasLimit site.document) 1 (readBoolean site node)
      (Means site.document IsFlag node) := by
  refine decodes_scalar hcovers hnode (fun mark scalar htag => ?_)
    (fun _ _ _ => fails_refuse _ _ _) (fun _ _ _ => fails_refuse _ _ _)
  dsimp only
  split
  · rename_i hread
    refine (fails_refuse _ _ _).decodes fun flag hflag => ?_
    rw [(meaning_eq_boolean_iff htag).mp hflag] at hread
    cases hread
  · rename_i b hread
    have hmeaning := (meaning_eq_boolean_iff htag).mpr hread
    exact decodes_pure fun flag => by simp [IsFlag, hmeaning, eq_comm]

theorem decodes_readText :
    Decodes (aliasLimit site.document) 1 (readText site node)
      (Means site.document IsText node) :=
  decodes_scalar hcovers hnode (fun _ _ _ => decodes_pure fun _ => Iff.rfl)
    (fun _ _ _ => fails_refuse _ _ _) (fun _ _ _ => fails_refuse _ _ _)

theorem decodes_readColour (row : Site) (mark : Mark) :
    Decodes (aliasLimit site.document) 1 (readColour row mark site node)
      (Means site.document IsColour node) := by
  refine decodes_scalar hcovers hnode (fun _ scalar htag => ?_)
    (fun _ _ _ => fails_refuse _ _ _) (fun _ _ _ => fails_refuse _ _ _)
  have hnull := meaning_eq_null_iff htag
  dsimp only
  rw [htag]
  split
  · rename_i hstyle
    have hmeaning := mt hnull.mp fun h => hstyle h.1
    exact decodes_pure fun _ => isColour_iff_named hmeaning
  · rename_i hstyle
    rw [not_not] at hstyle
    dsimp only
    split
    · rename_i htext
      exact decodes_pure fun _ => isColour_iff_null (hnull.mpr ⟨hstyle, htext⟩)
    · rename_i htext
      have hmeaning := mt hnull.mp fun h => htext h.2
      exact decodes_pure fun _ => isColour_iff_named hmeaning

theorem decodes_readBound (axis : Site) (mark : Mark) :
    Decodes (aliasLimit site.document) 1 (readBound axis mark site node)
      (Means site.document IsBound node) := by
  obtain ⟨f, hexamine, hscalar, hother⟩ := exists_examine_eq (maxDepth - 2) site
  rw [readBound, hexamine, bind_assoc]
  refine decodes_scalar hcovers hnode (fun mark scalar htag => ?_)
    (fun _ _ _ => hother _ rfl _ (fails_fail _ _ _)) fun _ _ _ => hother _ rfl _ (fails_fail _ _ _)
  rw [hscalar, readScalarBound, htag, if_neg (by decide)]
  cases hmeaning : scalar.meaning with
  | error type =>
    rw [meaning_eq htag] at hmeaning
    cases hmeaning
  | ok meaning =>
    have hbound (bound : BoundValue) : IsBound scalar bound ↔ BoundOf meaning bound := by
      simp [IsBound, hmeaning]
    cases meaning with
    | null => exact (fails_fail _ _ _).decodes fun bound h => nomatch (hbound bound).mp h
    | boolean b => exact (fails_fail _ _ _).decodes fun bound h => nomatch (hbound bound).mp h
    | integer n =>
      dsimp only
      split
      · rename_i hrange
        refine decodes_pure fun bound => (hbound bound).trans ⟨fun h => ?_, fun h => ?_⟩
        · cases h
          rfl
        · rw [h]
          exact .integer hrange.1 hrange.2
      · rename_i hrange
        refine (fails_fail _ _ _).bind.decodes fun bound h => ?_
        cases (hbound bound).mp h with
        | integer hmin hmax => exact hrange ⟨hmin, hmax⟩
    | real x =>
      refine decodes_pure fun bound => (hbound bound).trans ⟨fun h => ?_, fun h => ?_⟩
      · cases h
        rfl
      · rw [h]
        exact .real
    | text text =>
      refine decodes_pure fun bound => (hbound bound).trans ⟨fun h => ?_, fun h => ?_⟩
      · cases h
        rfl
      · rw [h]
        exact .text

end

end Session
end CurveSheet
