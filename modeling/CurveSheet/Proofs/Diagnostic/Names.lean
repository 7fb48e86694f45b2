/-
# Names in a text

The names of a text are its longest stretches of name characters: at least one of them, and no
further one right before or behind (`IsNameIn`).  Cutting the text at every other character
finds them all (`mem_names_iff`), so the names of a text with such a character in it are those of
its two sides (`names_append_cons`).

The lint for formulas that use `y` goes through a formula once and looks at the neighbours of
every `y`.  It too can be cut where a name ends (`mentions_append_cons`), and so it finds a
character exactly where the character is a name (`mentions_iff_mem_names`).
-/

import CurveSheet.Proofs.Diagnostic.Findings

namespace CurveSheet
namespace Text

/-- A stretch of a text is one of its names: name characters, and none right beside them. -/
def IsNameIn (text name : List Char) : Prop :=
  name ≠ [] ∧ (∀ c ∈ name, isNameChar c = true) ∧
    ∃ before after, text = before ++ name ++ after ∧
      (∀ c ∈ before.getLast?, isNameChar c = false) ∧ ∀ c ∈ after.head?, isNameChar c = false

/-- The names of a text, in order. -/
def names (text : List Char) : List (List Char) :=
  (text.splitOnP (!isNameChar ·)).filter (!·.isEmpty)

/-! ### Cutting a text where a name ends -/

/-- **A character that no name holds cuts the names of a text in two.** -/
theorem names_append_cons {d : Char} (hd : isNameChar d = false) (left right : List Char) :
    names (left ++ d :: right) = names left ++ names right := by
  rw [names, List.splitOnP_append_cons left right (by rw [hd]; rfl), List.filter_append]
  rfl

/-- A text of name characters has no name but itself. -/
theorem names_of_forall {text : List Char} (h : ∀ c ∈ text, isNameChar c = true) :
    names text = if text = [] then [] else [text] := by
  rw [names, List.splitOnP_eq_singleton fun c hc => by rw [h c hc]; rfl]
  cases text <;> rfl

/-- A text is taken apart into a stretch of name characters, a character that is none, and a
text again. -/
theorem induction_on_names {motive : List Char → Prop}
    (name : ∀ text, (∀ c ∈ text, isNameChar c = true) → motive text)
    (gap : ∀ left d right, (∀ c ∈ left, isNameChar c = true) → isNameChar d = false →
      motive right → motive (left ++ d :: right)) (text : List Char) : motive text := by
  suffices h : ∀ left, (∀ c ∈ left, isNameChar c = true) → motive (left ++ text) from
    h [] (List.forall_mem_nil _)
  induction text with
  | nil =>
    intro left hleft
    rw [List.append_nil]
    exact name left hleft
  | cons c text ih =>
    intro left hleft
    cases hc : isNameChar c with
    | true =>
      rw [List.append_cons]
      exact ih (left ++ [c]) (List.forall_mem_append.2 ⟨hleft, List.forall_mem_singleton.2 hc⟩)
    | false => exact gap left c text hleft hc (ih [] (List.forall_mem_nil _))

/-! ### Names are found where they stand -/

theorem IsNameIn.of_left {d : Char} (hd : isNameChar d = false) {left : List Char}
    (hne : left ≠ []) (hleft : ∀ c ∈ left, isNameChar c = true) (right : List Char) :
    IsNameIn (left ++ d :: right) left := by
  refine ⟨hne, hleft, [], d :: right, rfl, fun c hc => (nomatch hc), fun c hc => ?_⟩
  cases hc
  exact hd

theorem IsNameIn.of_right {d : Char} (hd : isNameChar d = false) {right name : List Char}
    (h : IsNameIn right name) (left : List Char) : IsNameIn (left ++ d :: right) name := by
  obtain ⟨hne, hname, before, after, rfl, hbefore, hafter⟩ := h
  refine ⟨hne, hname, left ++ d :: before, after, by simp, fun c hc => ?_, hafter⟩
  rcases List.eq_nil_or_concat before with rfl | ⟨before, b, rfl⟩
  · rw [List.getLast?_concat] at hc
    cases hc
    exact hd
  · rw [List.concat_eq_append, ← List.cons_append, ← List.append_assoc,
      List.getLast?_concat] at hc
    exact hbefore c (by rwa [List.concat_eq_append, List.getLast?_concat])

/-- What stands before a name has its names to itself, and so has what stands behind. -/
theorem names_of_isNameIn {before name after : List Char} (hne : name ≠ [])
    (hname : ∀ c ∈ name, isNameChar c = true)
    (hbefore : ∀ c ∈ before.getLast?, isNameChar c = false)
    (hafter : ∀ c ∈ after.head?, isNameChar c = false) :
    name ∈ names (before ++ name ++ after) := by
  have hself : name ∈ names name := by
    rw [names_of_forall hname, if_neg hne]
    exact List.mem_singleton_self name
  have hbehind : name ∈ names (name ++ after) := by
    cases after with
    | nil => rwa [List.append_nil]
    | cons d after =>
      rw [names_append_cons (hafter d rfl)]
      exact List.mem_append_left _ hself
  rcases List.eq_nil_or_concat before with rfl | ⟨before, d, rfl⟩
  · exact hbehind
  · rw [List.append_assoc, List.concat_eq_append, List.append_assoc, List.singleton_append,
      names_append_cons (hbefore d (by simp))]
    exact List.mem_append_right _ hbehind

/-- **The names of a text are those that are found.** -/
theorem mem_names_iff {text name : List Char} : name ∈ names text ↔ IsNameIn text name := by
  constructor
  · induction text using induction_on_names with
    | name text htext =>
      intro h
      rw [names_of_forall htext] at h
      split at h
      · exact absurd h List.not_mem_nil
      · rename_i hne
        rw [List.mem_singleton.1 h]
        exact ⟨hne, htext, [], [], (List.append_nil text).symm, fun c hc => (nomatch hc),
          fun c hc => (nomatch hc)⟩
    | gap left d right hleft hd ih =>
      intro h
      rw [names_append_cons hd, names_of_forall hleft] at h
      rcases List.mem_append.1 h with h | h
      · split at h
        · exact absurd h List.not_mem_nil
        · rename_i hne
          rw [List.mem_singleton.1 h]
          exact .of_left hd hne hleft right
      · exact (ih h).of_right hd left
  · rintro ⟨hne, hname, before, after, rfl, hbefore, hafter⟩
    exact names_of_isNameIn hne hname hbefore hafter

end Text

namespace Check

open Formula Plot Text

/-! ### Looking for a name -/

/-- **A character that no name holds cuts the search in two.** -/
theorem standsAloneFrom_append_cons {v d : Char} (hv : isNameChar v = true)
    (hd : isNameChar d = false) (inName : Bool) (left right : List Char) :
    standsAloneFrom v inName (left ++ d :: right) =
      (standsAloneFrom v inName left || mentions v right) := by
  have hne : (d == v) = false := by
    rw [beq_eq_false_iff_ne]
    rintro rfl
    rw [hv] at hd
    cases hd
  induction left generalizing inName with
  | nil =>
    rw [List.nil_append, standsAloneFrom, standsAloneFrom, hne, hd]
    rfl
  | cons c left ih =>
    have hhead : (left ++ d :: right).head?.any isNameChar = left.head?.any isNameChar := by
      cases left with
      | nil => exact hd
      | cons b left => rfl
    rw [List.cons_append, standsAloneFrom, standsAloneFrom, ih, hhead, Bool.or_assoc]

theorem mentions_append_cons {v d : Char} (hv : isNameChar v = true) (hd : isNameChar d = false)
    (left right : List Char) :
    mentions v (left ++ d :: right) = (mentions v left || mentions v right) :=
  standsAloneFrom_append_cons hv hd false left right

/-- Inside a name nothing stands alone. -/
theorem standsAloneFrom_of_forall {v : Char} {text : List Char}
    (h : ∀ c ∈ text, isNameChar c = true) : standsAloneFrom v true text = false := by
  induction text with
  | nil => rfl
  | cons c text ih =>
    rw [standsAloneFrom, h c (List.mem_cons_self ..),
      ih fun d hd => h d (List.mem_cons_of_mem _ hd), Bool.not_true, Bool.and_false]
    rfl

/-- In a text of name characters a character stands alone if there is no other. -/
theorem mentions_of_forall {v : Char} {text : List Char}
    (h : ∀ c ∈ text, isNameChar c = true) : mentions v text = true ↔ text = [v] := by
  cases text with
  | nil => exact ⟨fun h => (nomatch h), fun h => (nomatch h)⟩
  | cons c rest =>
    have hrest := fun d hd => h d (List.mem_cons_of_mem c hd)
    rw [mentions, standsAloneFrom, h c (List.mem_cons_self ..), standsAloneFrom_of_forall hrest]
    cases rest with
    | nil => simp
    | cons d rest => simp [hrest d (List.mem_cons_self ..)]

/-- **A character is found exactly if it is a name.** -/
theorem mentions_iff_mem_names {v : Char} (hv : isNameChar v = true) (text : List Char) :
    mentions v text = true ↔ [v] ∈ names text := by
  induction text using induction_on_names with
  | name text htext =>
    rw [mentions_of_forall htext, names_of_forall htext]
    split
    · rename_i hnil
      simp [hnil]
    · rw [List.mem_singleton]
      exact eq_comm
  | gap left d right hleft hd ih =>
    rw [mentions_append_cons hv hd, names_append_cons hd, Bool.or_eq_true, ih,
      mentions_of_forall hleft, List.mem_append, names_of_forall hleft]
    refine or_congr_left ?_
    split
    · rename_i hnil
      simp [hnil]
    · rw [List.mem_singleton]
      exact eq_comm

/-- Before a text, where no name stands, nothing is found. -/
theorem mentions_gap_append {v : Char} (hv : isNameChar v = true) {gap : List Char}
    (hgap : ∀ c ∈ gap, isNameChar c = false) (text : List Char) :
    mentions v (gap ++ text) = mentions v text := by
  induction gap with
  | nil => rfl
  | cons d gap ih =>
    have hcut := mentions_append_cons hv (hgap d (List.mem_cons_self ..)) [] (gap ++ text)
    rw [List.nil_append] at hcut
    rw [List.cons_append, hcut, ih fun c hc => hgap c (List.mem_cons_of_mem _ hc)]
    rfl

/-- And so it is behind a text. -/
theorem mentions_append_gap {v : Char} (hv : isNameChar v = true) {gap : List Char}
    (hgap : ∀ c ∈ gap, isNameChar c = false) (text : List Char) :
    mentions v (text ++ gap) = mentions v text := by
  cases gap with
  | nil => rw [List.append_nil]
  | cons d gap =>
    have hrest := mentions_gap_append hv (fun c hc => hgap c (List.mem_cons_of_mem _ hc)) []
    rw [List.append_nil] at hrest
    rw [mentions_append_cons hv (hgap d (List.mem_cons_self ..)), hrest]
    exact Bool.or_false _

/-- **The lint sees exactly the names.**  A character that may stand in a name is found in a
formula exactly if it makes up one of its names.  So characters that stand in no name can be put
beside such a character, or taken away there, and nothing changes; and a formula with such a
character in it mentions what stands to its left or to its right.  An explicit formula is warned
of exactly if `y` is one of its names. -/
theorem mentions_reads_names {v : Char} (hv : isNameChar v = true) :
    (∀ text, mentions v text = true ↔ IsNameIn text [v]) ∧
    (∀ left c gap right, isNameChar c = false → (∀ d ∈ gap, isNameChar d = false) →
      mentions v (left ++ c :: gap ++ right) = mentions v (left ++ c :: right) ∧
      mentions v (left ++ gap ++ c :: right) = mentions v (left ++ c :: right)) ∧
    (∀ left d right, isNameChar d = false →
      mentions v (left ++ d :: right) = (mentions v left || mentions v right)) ∧
    ∀ spec, (explicitDiagnostic? spec).isSome = true ↔
      spec.kind = .explicit ∧ IsNameIn spec.formula.toList ['y'] := by
  have hfound {w : Char} (hw : isNameChar w = true) (text : List Char) :
      mentions w text = true ↔ IsNameIn text [w] := by
    rw [mentions_iff_mem_names hw, mem_names_iff]
  refine ⟨hfound hv, fun left c gap right hc hgap => ⟨?_, ?_⟩,
    fun left d right hd => mentions_append_cons hv hd left right, fun spec => ?_⟩
  · rw [List.append_assoc, List.cons_append, mentions_append_cons hv hc,
      mentions_gap_append hv hgap, mentions_append_cons hv hc]
  · rw [mentions_append_cons hv hc, mentions_append_gap hv hgap, mentions_append_cons hv hc]
  · rw [isSome_explicitDiagnostic?, usesY, Bool.and_eq_true, beq_iff_eq,
      hfound (by decide +kernel)]

/-- A factor `y` is a name, the `y` of `dy` and one behind a letter of another script are none;
blanks around a sign change nothing. -/
theorem mentions_reads_names_factor :
    isNameChar 'y' = true ∧ IsNameIn ['d', 'y', '*', 'y'] ['y'] ∧
      ¬IsNameIn ['λ', 'y', '+', 'd', 'y'] ['y'] ∧
      mentions 'y' ['d', 'y', '*', ' ', ' ', 'y'] = mentions 'y' ['d', 'y', '*', 'y'] ∧
      mentions 'y' ['d', 'y', '*', 'y'] = (mentions 'y' ['d', 'y'] || mentions 'y' ['y']) ∧
      (explicitDiagnostic? (.explicit "dy*y" ⟨"red"⟩)).isSome = true := by
  have hy : isNameChar 'y' = true := by decide +kernel
  obtain ⟨hfound, hgaps, hcut, hlint⟩ := mentions_reads_names hy
  have hfactor : IsNameIn ['d', 'y', '*', 'y'] ['y'] := (hfound _).1 (by decide +kernel)
  have htimes : isNameChar '*' = false := by decide +kernel
  have hblank : isNameChar ' ' = false := by decide +kernel
  have hblanks : ∀ d ∈ [' ', ' '], isNameChar d = false :=
    List.forall_mem_cons.2 ⟨hblank, List.forall_mem_singleton.2 hblank⟩
  refine ⟨hy, hfactor, fun h => ?_, (hgaps ['d', 'y'] '*' [' ', ' '] ['y'] htimes hblanks).1,
    hcut ['d', 'y'] '*' ['y'] htimes, (hlint _).2 ⟨rfl, hfactor⟩⟩
  exact absurd ((hfound _).2 h) (by decide +kernel)

end Check
end CurveSheet
