/-
# Texts of blanks

A text of blanks may have a node, since not every blank separates words, but no sign stands in
it: its tokens are scalars and ends (`isQuiet_of_mem_tokens`).  So its top node is no mapping
(`Document.root_ne_mapping`).
-/

import CurveSheet.Proofs.Yaml.Token.Fetch
import CurveSheet.Text.Blank
import CurveSheet.Yaml.Document

namespace CurveSheet
namespace Yaml

open Text (isBlank)

/-! ### What is left of a text -/

theorem plainWord_subset {inFlow : Bool} {text word rest : List Char}
    (h : plainWord inFlow text = some (word, rest)) : rest ⊆ text := by
  induction text generalizing word with
  | nil =>
    cases h
    exact List.Subset.refl _
  | cons c text ih =>
    rw [plainWord] at h
    split at h
    · cases h
      exact List.Subset.refl _
    · split at h
      · cases h
      · split at h
        · cases h
          exact List.Subset.refl _
        · obtain ⟨⟨word, behind⟩, hword, heq⟩ := Option.map_eq_some_iff.mp h
          cases heq
          exact List.subset_cons_of_subset _ (ih hword)

theorem plainFrom_subset {inFlow : Bool} {floor fuel : Nat} {gap : Gap} {cursor : Cursor}
    {plain : PlainText} (h : plainFrom inFlow floor fuel gap cursor = some plain) :
    plain.cursor.rest ⊆ cursor.rest := by
  induction fuel generalizing gap cursor plain with
  | zero => cases h
  | succ fuel ih =>
    rw [plainFrom] at h
    split at h
    · cases h
      exact List.Subset.refl _
    · split at h
      · cases h
      · cases h
        exact List.Subset.refl _
      · rename_i word rest _ hword
        have hrest := plainWord_subset hword
        dsimp only at h
        split at h
        · split at h
          · cases h
          · rename_i next ahead hgap
            have hahead := List.Subset.trans (scanGapFrom_subset hgap) hrest
            split at h
            · cases h
              exact hahead
            · obtain ⟨tail, htail, heq⟩ := Option.map_eq_some_iff.mp h
              cases heq
              have hbehind : tail.cursor.rest ⊆ ahead.rest := ih htail
              exact List.Subset.trans hbehind hahead
        · cases h
          exact hrest

/-! ### Steps of the scanner -/

/-- The token is a scalar or an end. -/
def TokenKind.isQuiet : TokenKind → Bool
  | .scalar _ _ | .blockEnd | .streamEnd => true
  | _ => false

namespace Scanner

/-- Only blanks are left of the text, and no sign was met. -/
structure IsQuiet (s : Scanner) : Prop where
  rest : ∀ c ∈ s.cursor.rest, isBlank c = true
  tokens : ∀ token ∈ s.tokens, token.kind.isQuiet = true

section

variable {s t : Scanner}

theorem IsQuiet.emit (h : s.IsQuiet) (kind : TokenKind) (hkind : kind.isQuiet = true)
    (start stop : Mark) : (s.emit kind start stop).IsQuiet :=
  ⟨h.rest, List.forall_mem_cons.2 ⟨hkind, h.tokens⟩⟩

theorem IsQuiet.skipGap (h : s.IsQuiet) : s.skipGap.IsQuiet :=
  ⟨fun c hc => h.rest c (gapFrom_subset _ _ _ _ _ hc), h.tokens⟩

theorem IsQuiet.expireKeys (h : s.IsQuiet) (ht : s.expireKeys = some t) : t.IsQuiet := by
  unfold Scanner.expireKeys at ht
  split at ht
  · cases ht
    exact ⟨h.rest, h.tokens⟩
  · cases ht

theorem IsQuiet.dropKey (h : s.IsQuiet) (ht : s.dropKey = some t) : t.IsQuiet := by
  unfold Scanner.dropKey at ht
  split at ht
  · cases ht
  · cases ht
    exact ⟨h.rest, h.tokens⟩

theorem IsQuiet.openKey (h : s.IsQuiet) (ht : s.openKey = some t) : t.IsQuiet := by
  unfold Scanner.openKey at ht
  split at ht
  · obtain ⟨u, hu, rfl⟩ := Option.map_eq_some_iff.mp ht
    have hquiet := h.dropKey hu
    exact ⟨hquiet.rest, hquiet.tokens⟩
  · cases ht
    exact h

theorem IsQuiet.endBlocks (h : s.IsQuiet) (column : Int) (indents : List Int) :
    (endBlocks column s indents).IsQuiet := by
  induction indents generalizing s with
  | nil => exact h
  | cons outer rest ih =>
    rw [Scanner.endBlocks]
    split
    · have hemit := h.emit .blockEnd rfl s.cursor.mark s.cursor.mark
      exact ih ⟨hemit.rest, hemit.tokens⟩
    · exact h

theorem IsQuiet.unindent (h : s.IsQuiet) (column : Int) : (s.unindent column).IsQuiet := by
  unfold Scanner.unindent
  split
  · exact h
  · exact h.endBlocks column _

theorem IsQuiet.fetchEnd (h : s.IsQuiet) (ht : s.fetchEnd = some t) : t.IsQuiet := by
  obtain ⟨u, hu, rfl⟩ := Option.map_eq_some_iff.mp ht
  have hended : ({ s with cursor := { s.cursor with
      mark := if s.cursor.mark.column = 0 then s.cursor.mark else s.cursor.mark.down 0 } } :
      Scanner).IsQuiet := ⟨h.rest, h.tokens⟩
  have hemit := ((hended.unindent (-1)).dropKey hu).emit .streamEnd rfl
    (if s.cursor.mark.column = 0 then s.cursor.mark else s.cursor.mark.down 0)
    (if s.cursor.mark.column = 0 then s.cursor.mark else s.cursor.mark.down 0)
  exact ⟨hemit.rest, hemit.tokens⟩

theorem IsQuiet.fetchPlain (h : s.IsQuiet) (ht : s.fetchPlain = some t) : t.IsQuiet := by
  unfold Scanner.fetchPlain at ht
  split at ht
  · cases ht
  · rename_i u hu
    obtain ⟨plain, hplain, rfl⟩ := Option.map_eq_some_iff.mp ht
    have hopen := h.openKey hu
    have hemit := hopen.emit (.scalar plain.text .plain) rfl u.cursor.mark plain.cursor.mark
    exact ⟨fun c hc => hopen.rest c (plainFrom_subset hplain hc), hemit.tokens⟩

/-- A blank is no sign, so nothing but a plain scalar can start with it. -/
theorem fetch_blank {c : Char} {rest : List Char} (hrest : s.cursor.rest = c :: rest)
    (hc : isBlank c = true) (ht : s.fetch c = some t) : s.fetchPlain = some t := by
  have hne {d : Char} (hd : isBlank d = false) : c ≠ d := by
    rintro rfl
    rw [hc] at hd
    cases hd
  unfold fetch at ht
  dsimp only at ht
  rw [atMarker_cons hrest (hne (by decide)), atMarker_cons hrest (hne (by decide)),
    if_neg fun h => hne (by decide) h.2, if_neg Bool.false_ne_true, if_neg Bool.false_ne_true,
    if_neg (hne (by decide)), if_neg (hne (by decide)), if_neg (hne (by decide)),
    if_neg (hne (by decide)), if_neg (hne (by decide)), if_neg fun h => hne (by decide) h.1,
    if_neg fun h => hne (by decide) h.1, if_neg fun h => hne (by decide) h.1,
    if_neg (hne (by decide)), if_neg (hne (by decide)), if_neg (hne (by decide)),
    if_neg fun h => hne (by decide) h.1, if_neg fun h => hne (by decide) h.1,
    if_neg (hne (by decide)), if_neg (hne (by decide))] at ht
  split at ht
  · exact ht
  · cases ht

theorem IsQuiet.step (h : s.IsQuiet) (ht : s.step = some t) : t.IsQuiet := by
  unfold Scanner.step at ht
  split at ht
  · cases ht
  · rename_i u hu
    have hblock := (h.skipGap.expireKeys hu).unindent u.cursor.column
    dsimp only at ht
    split at ht
    · exact hblock.fetchEnd ht
    · rename_i c rest hrest
      have hc : isBlank c = true := hblock.rest c (by rw [hrest]; exact List.mem_cons_self ..)
      exact hblock.fetchPlain (fetch_blank hrest hc ht)

theorem IsQuiet.run (h : s.IsQuiet) (limit : Option Nat) (fuel : Nat) :
    ∀ token ∈ run limit fuel s, token.kind.isQuiet = true := by
  have hsettled {u : Scanner} (hu : u.IsQuiet) :
      ∀ token ∈ u.settled, token.kind.isQuiet = true :=
    fun token htoken => hu.tokens token (List.mem_of_mem_drop htoken)
  induction fuel generalizing s with
  | zero => exact hsettled h
  | succ fuel ih =>
    rw [Scanner.run]
    split
    · exact hsettled h
    · rename_i t ht
      obtain ⟨u, hu, hexpire⟩ := Option.bind_eq_some_iff.mp ht
      have hquiet := (h.step (Option.filter_eq_some_iff.mp hu).1).expireKeys hexpire
      split
      · exact hquiet.tokens
      · exact ih hquiet

end

end Scanner

/-- **The tokens of a text of blanks are scalars and ends.** -/
theorem isQuiet_of_mem_tokens {text : List Char} (h : text.all isBlank = true) :
    ∀ token ∈ tokens text, token.kind.isQuiet = true := by
  have hstart : (Scanner.start text).IsQuiet := ⟨List.all_eq_true.1 h, fun _ h => nomatch h⟩
  exact fun token htoken => hstart.run _ _ token (List.mem_reverse.1 htoken)

/-! ### The top node -/

/-- The node is a scalar, or missing. -/
inductive Node.IsBare {α : Type} : Node α → Prop where
  | scalar {mark : Mark} {anchor : Option α} {scalar : Scalar} : IsBare (.scalar mark anchor scalar)
  | cut : IsBare .cut

/-- Neither a collection nor an alias starts with a scalar or an end. -/
theorem isBare_node {handles : TagHandles} {fuel : Nat} {block indentless : Bool}
    {tokens : List Token} (h : ∀ token ∈ tokens, token.kind.isQuiet = true) :
    (node handles fuel block indentless tokens).value.IsBare := by
  cases fuel with
  | zero =>
    rw [node]
    exact .cut
  | succ fuel =>
    cases tokens with
    | nil =>
      simp only [node, properties, resolveTag]
      exact .cut
    | cons token rest =>
      obtain ⟨kind, start, stop⟩ := token
      have hkind : kind.isQuiet = true := h _ (List.mem_cons_self ..)
      cases kind with
      | scalar =>
        simp only [node, properties, resolveTag]
        exact .scalar
      | streamEnd =>
        simp only [node, properties, resolveTag]
        exact .cut
      | blockEnd =>
        simp only [node, properties, resolveTag]
        exact .cut
      | _ => cases hkind

theorem isBare_firstDocument {tokens : List Token}
    (h : ∀ token ∈ tokens, token.kind.isQuiet = true) : (firstDocument tokens).value.IsBare := by
  have hdirectives : directives false [] tokens = some (false, [], tokens) := by
    cases tokens with
    | nil => rfl
    | cons token rest =>
      obtain ⟨kind, start, stop⟩ := token
      have hkind : kind.isQuiet = true := h _ (List.mem_cons_self ..)
      cases kind <;> first | rfl | cases hkind
  unfold firstDocument
  rw [hdirectives]
  dsimp only
  split
  · cases h _ (List.mem_cons_self ..)
  · exact isBare_node h

/-- **The top node of a text of blanks is no mapping.** -/
theorem Document.root_ne_mapping {text : List Char} {document : Document}
    (hread : Document.read? text = some document) (hblank : text.all isBlank = true) (mark : Mark)
    (anchor : Option Nat) (tag : Option (List Char)) (entries : List (Node Nat × Node Nat)) :
    document.root ≠ .mapping mark anchor tag entries := by
  have hbare := isBare_firstDocument (isQuiet_of_mem_tokens hblank)
  unfold Document.read? at hread
  dsimp only at hread
  split at hread
  · cases hread
  · obtain rfl := Option.some.inj hread
    cases hvalue : (firstDocument (tokens text)).value with
    | scalar => simp [ofRoot, numberNode]
    | cut => simp [ofRoot, numberNode]
    | _ => rw [hvalue] at hbare; cases hbare

end Yaml
end CurveSheet
