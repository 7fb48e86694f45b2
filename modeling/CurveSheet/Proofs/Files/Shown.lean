/-
# A shown path names the same place

A path is shown as it is, or by what follows the working directory in it.  In the second case
the directory's components are the first of the path's (`behind_isSome_iff`), and what is left
over is the rest of them (`exists_of_behind`): only idle segments are cut off at its ends, and it
starts with a segment that leads somewhere, so it is a path relative to the directory.  Put
behind the directory again (`under`), it has the parts of the path (`shownPart_names_same_place`).

What is shown is a text, though, and a path need be none.  A path is a text exactly if its components
are texts (`isText_iff_components`), so the text of a path has its parts exactly if no byte of it was
replaced (`parts_under_text_iff`).  Whether the path starts at the root can be told from its text in
any case.

The *parts* of a path are its components and where it starts: `/` for the root, `.` where a
relative path says so itself.
-/

import CurveSheet.Files.Path
import CurveSheet.Proofs.Text.Utf8

namespace CurveSheet
namespace Files

open Text.Utf8

/-- The parts of a path: where it starts, if it says so, and its components. -/
def parts (path : List UInt8) : List Segment :=
  (if isAbsolute path then [[slash]]
    else if (segments path).head? = some [dot] then [[dot]] else []) ++ components path

/-- A path put behind a directory; one that starts at the root needs no directory. -/
def under (directory path : Path) : Path :=
  if isAbsolute path.bytes then path else fileIn directory path

/-! ### Segments of paths -/

theorem segments_append_slash (left right : List UInt8) :
    segments (left ++ slash :: right) = segments left ++ segments right :=
  List.splitOn_append_cons_self left right

theorem components_append_slash (left right : List UInt8) :
    components (left ++ slash :: right) = components left ++ components right := by
  rw [components, segments_append_slash, List.filter_append]
  rfl

/-- No slash stands in a segment. -/
theorem slash_not_mem_of_mem_segments {path : List UInt8} {segment : Segment}
    (hsegment : segment ∈ segments path) : slash ∉ segment := by
  by_cases hpath : slash ∈ path
  · obtain ⟨left, right, heq⟩ := List.append_of_mem hpath
    have hlength : path.length = left.length + right.length + 1 := by
      rw [heq, List.length_append, List.length_cons, Nat.add_assoc]
    rw [heq, segments_append_slash] at hsegment
    rcases List.mem_append.1 hsegment with h | h
    · exact slash_not_mem_of_mem_segments h
    · exact slash_not_mem_of_mem_segments h
  · rw [segments, List.splitOn_eq_singleton hpath] at hsegment
    rwa [List.mem_singleton.1 hsegment]
termination_by path.length

/-- Segments without slashes are those of the path that they are joined to. -/
theorem segments_joinSegments {row : List Segment} (hne : row ≠ [])
    (hslash : ∀ segment ∈ row, slash ∉ segment) : segments (joinSegments row) = row :=
  List.splitOn_intercalate slash hslash hne

theorem isAbsolute_eq_false_of_segments {path : List UInt8} {first : Segment} {rest : List Segment}
    (hsegments : segments path = first :: rest) (hfirst : first ≠ []) :
    isAbsolute path = false := by
  cases path with
  | nil => rfl
  | cons c path =>
    rw [isAbsolute, List.head?_cons, beq_eq_false_iff_ne]
    intro hc
    obtain rfl := Option.some.inj hc
    rw [← List.nil_append (slash :: path), segments_append_slash] at hsegments
    exact hfirst (List.cons.inj hsegments).1.symm

/-! ### What follows some components -/

/-- What is behind some components is the end of the segments, and they are in front of it. -/
theorem exists_of_behind {front row rest : List Segment} (h : behind front row = some rest) :
    ∃ before, row = before ++ rest ∧ before.filter (!isIdle ·) = front := by
  fun_induction behind front row with
  | case1 row =>
    cases h
    exact ⟨[], rfl, rfl⟩
  | case2 => cases h
  | case3 name others segment row hidle ih =>
    obtain ⟨before, rfl, hbefore⟩ := ih h
    exact ⟨segment :: before, rfl, by simp [hidle, hbefore]⟩
  | case4 others segment row hidle ih =>
    obtain ⟨before, rfl, hbefore⟩ := ih h
    exact ⟨segment :: before, rfl, by simp [hidle, hbefore]⟩
  | case5 => cases h

/-- **Something is behind some components exactly if the segments start with them**, idle
segments apart. -/
theorem behind_isSome_iff {front row : List Segment} :
    (behind front row).isSome = true ↔ front <+: row.filter (!isIdle ·) := by
  fun_induction behind front row with
  | case1 => simp
  | case2 => simp
  | case3 name others segment row hidle ih =>
    rw [ih, List.filter_cons_of_neg (by simp [hidle])]
  | case4 others segment row hidle ih =>
    rw [ih, List.filter_cons_of_pos (by simp [hidle]), List.cons_prefix_cons]
    simp
  | case5 name others segment row hidle hne =>
    rw [List.filter_cons_of_pos (by simp [hidle]), List.cons_prefix_cons]
    simp [Ne.symm hne]

/-! ### Trimming idle segments -/

theorem trimIdle_isPrefix (row : List Segment) : trimIdle row <+: row.dropWhile isIdle := by
  rw [trimIdle, ← List.reverse_suffix, List.reverse_reverse]
  exact List.dropWhile_suffix _

/-- The first segment that is left leads somewhere. -/
theorem isIdle_head_trimIdle {row rest : List Segment} {first : Segment}
    (h : trimIdle row = first :: rest) : isIdle first = false := by
  obtain ⟨more, hmore⟩ := trimIdle_isPrefix row
  have hhead := List.head?_dropWhile_not isIdle row
  rw [← hmore, h] at hhead
  exact hhead

/-! ### A path relative to a directory -/

/-- **What is left of segments is a relative path** with the same components, and it is empty if
there are none. -/
theorem joinSegments_trimIdle {row : List Segment} (hslash : ∀ segment ∈ row, slash ∉ segment) :
    isAbsolute (joinSegments (trimIdle row)) = false ∧
      components (joinSegments (trimIdle row)) = row.filter (!isIdle ·) ∧
      (row.filter (!isIdle ·) = [] → joinSegments (trimIdle row) = []) := by
  rw [← filter_trimIdle]
  cases htrim : trimIdle row with
  | nil => exact ⟨rfl, rfl, fun _ => rfl⟩
  | cons first rest =>
    have hidle := isIdle_head_trimIdle htrim
    have hfirst : first ≠ [] := by
      rintro rfl
      cases hidle
    have hsegments : segments (joinSegments (first :: rest)) = first :: rest := by
      refine segments_joinSegments (List.cons_ne_nil _ _) fun segment hsegment => ?_
      have hdropped := (trimIdle_isPrefix row).subset (htrim ▸ hsegment)
      exact hslash segment ((List.dropWhile_sublist _).subset hdropped)
    refine ⟨isAbsolute_eq_false_of_segments hsegments hfirst, by rw [components, hsegments],
      fun hnil => ?_⟩
    rw [List.filter_cons_of_pos (by rw [hidle]; rfl)] at hnil
    cases hnil

section

variable {directory path relative : List UInt8}

/-- A path relative to a directory has the components that the directory has not, and it is empty
if there are none. -/
theorem of_relativeTo?_eq_some (h : relativeTo? directory path = some relative) :
    isAbsolute path = true ∧ isAbsolute relative = false ∧
      components directory ++ components relative = components path ∧
      (components relative = [] → relative = []) := by
  unfold relativeTo? at h
  split at h
  · rename_i habsolute
    rw [Bool.and_eq_true] at habsolute
    obtain ⟨rest, hrest, rfl⟩ := Option.map_eq_some_iff.1 h
    obtain ⟨before, hsegments, hbefore⟩ := exists_of_behind hrest
    have hslash : ∀ segment ∈ rest, slash ∉ segment := fun segment hsegment =>
      slash_not_mem_of_mem_segments (hsegments ▸ List.mem_append_right before hsegment)
    obtain ⟨hrelative, hcomponents, hempty⟩ := joinSegments_trimIdle hslash
    refine ⟨habsolute.2, hrelative, ?_, fun hnil => hempty (hcomponents ▸ hnil)⟩
    rw [hcomponents, ← hbefore, ← List.filter_append, ← hsegments, components]
  · cases h

/-- No component of a path is spelled like the root. -/
theorem slash_not_mem_components : [slash] ∉ components path := fun h =>
  slash_not_mem_of_mem_segments (List.mem_filter.1 h).1 (List.mem_singleton_self _)

theorem parts_of_isAbsolute (h : isAbsolute path = true) :
    parts path = [slash] :: components path := by
  rw [parts, if_pos h]
  rfl

/-- A path starts at the root if its parts say so. -/
theorem isAbsolute_of_root (h : [[slash]] <+: parts path) : isAbsolute path = true := by
  cases hpath : isAbsolute path with
  | true => rfl
  | false =>
    obtain ⟨rest, hrest⟩ := h
    have hroot : [slash] ∈ parts path := by
      rw [← hrest]
      exact List.mem_cons_self ..
    rw [parts, hpath, if_neg Bool.false_ne_true] at hroot
    rcases List.mem_append.1 hroot with h | h
    · split at h
      · rw [List.mem_singleton] at h
        exact absurd h (by decide)
      · exact absurd h List.not_mem_nil
    · exact absurd h slash_not_mem_components

/-- **A path is relative to a directory exactly if the directory's parts are its first ones.** -/
theorem relativeTo?_isSome_iff (hdirectory : isAbsolute directory = true) :
    (relativeTo? directory path).isSome = true ↔ parts directory <+: parts path := by
  rw [parts_of_isAbsolute hdirectory, relativeTo?, hdirectory, Bool.true_and]
  cases hpath : isAbsolute path with
  | true =>
    rw [if_pos rfl, Option.isSome_map, behind_isSome_iff, parts_of_isAbsolute hpath,
      List.cons_prefix_cons]
    simp [components]
  | false =>
    rw [if_neg Bool.false_ne_true]
    refine ⟨fun h => (nomatch h), fun h => ?_⟩
    have hroot := isAbsolute_of_root ((List.prefix_append [[slash]] _).trans h)
    rw [hpath] at hroot
    cases hroot

end

/-! ### Behind the directory again -/

section

variable {directory path : Path}

theorem components_fileIn (directory name : Path) : components (fileIn directory name).bytes =
    components directory.bytes ++ components name.bytes := by
  unfold fileIn
  split
  · rename_i hend
    rcases Bool.or_eq_true_iff.1 hend with hempty | hlast
    · rw [List.isEmpty_iff.1 hempty]
      rfl
    · obtain ⟨before, hbefore⟩ := List.getLast?_eq_some_iff.1 (beq_iff_eq.1 hlast)
      have hslash : components (before ++ [slash]) = components before := by
        rw [components_append_slash]
        exact List.append_nil _
      rw [hbefore, hslash, List.append_assoc]
      exact components_append_slash _ _
  · exact components_append_slash _ _

/-- A path behind a directory has the parts of the directory and then its own components. -/
theorem parts_under (hdirectory : isAbsolute directory.bytes = true)
    (hpath : isAbsolute path.bytes = false) :
    parts (under directory path).bytes = parts directory.bytes ++ components path.bytes := by
  have happend (rest : List UInt8) : isAbsolute (directory.bytes ++ rest) = true := by
    rw [isAbsolute, List.head?_append, beq_iff_eq.1 hdirectory]
    rfl
  have habsolute : isAbsolute (fileIn directory path).bytes = true := by
    unfold fileIn
    split <;> exact happend _
  rw [under, hpath, if_neg Bool.false_ne_true, parts_of_isAbsolute habsolute, components_fileIn,
    parts_of_isAbsolute hdirectory, List.cons_append]

/-- A path in the directory is shown by the components that the directory has not. -/
theorem shownPart_of_relative {relative : List UInt8}
    (h : relativeTo? directory.bytes path.bytes = some relative) :
    isAbsolute (shownPart directory path).bytes = false ∧
      components (shownPart directory path).bytes = components relative ∧
      (relative = [] → (shownPart directory path).bytes = [dot]) := by
  have hrelative := (of_relativeTo?_eq_some h).2.1
  unfold shownPart
  rw [h]
  cases relative with
  | nil =>
    have hstart : isAbsolute [dot] = false := by decide
    have hnone : components [dot] = components [] := by decide
    exact ⟨hstart, hnone, fun _ => rfl⟩
  | cons c rest => exact ⟨hrelative, rfl, fun hnil => nomatch hnil⟩

/-- **What is shown of a path names the same place,** before it is made a text. -/
theorem shownPart_names_same_place (hdirectory : isAbsolute directory.bytes = true)
    (path : Path) :
    parts (under directory (shownPart directory path)).bytes =
      parts (under directory path).bytes ∧
    (isAbsolute (shownPart directory path).bytes = false ↔
      isAbsolute path.bytes = false ∨ parts directory.bytes <+: parts path.bytes) ∧
    (parts path.bytes = parts directory.bytes → (shownPart directory path).bytes = [dot]) := by
  have hfirst : (relativeTo? directory.bytes path.bytes).isSome = true ↔
      parts directory.bytes <+: parts path.bytes := relativeTo?_isSome_iff hdirectory
  cases hrelative : relativeTo? directory.bytes path.bytes with
  | none =>
    have hshown : shownPart directory path = path := by rw [shownPart, hrelative]
    have hnot : ¬parts directory.bytes <+: parts path.bytes := by
      rw [← hfirst, hrelative]
      exact Bool.false_ne_true
    rw [hshown]
    exact ⟨rfl, ⟨.inl, fun h => h.resolve_right hnot⟩,
      fun heq => absurd (heq ▸ List.prefix_rfl) hnot⟩
  | some relative =>
    have hstarts : parts directory.bytes <+: parts path.bytes := by
      rw [← hfirst, hrelative]
      rfl
    obtain ⟨hpath, -, hcomponents, hempty⟩ := of_relativeTo?_eq_some hrelative
    obtain ⟨hshown, hsame, hdot⟩ := shownPart_of_relative hrelative
    refine ⟨?_, ⟨fun _ => .inr hstarts, fun _ => hshown⟩, fun heq => hdot (hempty ?_)⟩
    · rw [parts_under hdirectory hshown, hsame, under, if_pos hpath, parts_of_isAbsolute hpath,
        parts_of_isAbsolute hdirectory, List.cons_append, hcomponents]
    · rw [parts_of_isAbsolute hpath, parts_of_isAbsolute hdirectory, ← hcomponents] at heq
      simpa using heq

end

/-! ### Paths that are texts -/

/-- A path that is a text is that of its text. -/
theorem ofText_text {path : Path} (h : IsText path.bytes) : Path.ofText path.text = path := by
  rw [Path.ofText, Path.text, String.toList_ofList, isText_iff.1 h]

/-- A path starts where its text does. -/
theorem isAbsolute_ofText_text (path : Path) :
    isAbsolute (Path.ofText path.text).bytes = isAbsolute path.bytes := by
  rw [Bool.eq_iff_iff, isAbsolute, isAbsolute, beq_iff_eq, beq_iff_eq, Path.ofText, Path.text,
    String.toList_ofList]
  exact head?_encode_eq_slash_iff.trans head?_decode_eq_slash_iff

/-- The segments of a text are texts. -/
theorem isText_of_mem_segments (text : List Char) {segment : Segment}
    (hsegment : segment ∈ segments (encode text)) : IsText segment := by
  by_cases htext : '/' ∈ text
  · obtain ⟨left, right, heq⟩ := List.append_of_mem htext
    have hlength : text.length = left.length + right.length + 1 := by
      rw [heq, List.length_append, List.length_cons, Nat.add_assoc]
    have hencode : encode text = encode left ++ slash :: encode right := by
      rw [heq, encode_append, encode_cons]
      rfl
    rw [hencode, segments_append_slash] at hsegment
    rcases List.mem_append.1 hsegment with h | h
    · exact isText_of_mem_segments left h
    · exact isText_of_mem_segments right h
  · have hslash : slash ∉ encode text := mt slash_mem_encode_iff.1 htext
    rw [segments, List.splitOn_eq_singleton hslash] at hsegment
    exact List.mem_singleton.1 hsegment ▸ isText_encode text
termination_by text.length

/-- Segments that are texts are joined to a text. -/
theorem isText_joinSegments {row : List Segment} (h : ∀ segment ∈ row, IsText segment) :
    IsText (joinSegments row) := by
  induction row with
  | nil => exact ⟨[], rfl⟩
  | cons segment row ih =>
    obtain ⟨hsegment, hrow⟩ := List.forall_mem_cons.1 h
    cases row with
    | nil => rwa [joinSegments, List.intercalate_singleton]
    | cons other rest =>
      rw [joinSegments, List.intercalate_cons_cons]
      exact (hsegment.append ⟨['/'], rfl⟩).append (ih hrow)

/-- **A path is a text exactly if its components are texts.** -/
theorem isText_iff_components {path : List UInt8} :
    IsText path ↔ ∀ segment ∈ components path, IsText segment := by
  -- the segments that are no components are idle, and these are texts
  constructor
  · rintro ⟨text, rfl⟩ segment hsegment
    exact isText_of_mem_segments text (List.mem_filter.1 hsegment).1
  · intro h
    have hpath : joinSegments (segments path) = path := List.intercalate_splitOn slash
    rw [← hpath]
    refine isText_joinSegments fun segment hsegment => ?_
    cases hidle : isIdle segment with
    | true =>
      rcases Bool.or_eq_true_iff.1 hidle with hempty | hdot
      · exact ⟨[], (List.isEmpty_iff.1 hempty).symm⟩
      · exact ⟨['.'], (beq_iff_eq.1 hdot).symm⟩
    | false => exact h segment (List.mem_filter.2 ⟨hsegment, by rw [hidle]; rfl⟩)

section

variable {directory path : Path}

/-- What is shown of a text is a text. -/
theorem isText_shownPart (h : IsText path.bytes) : IsText (shownPart directory path).bytes := by
  cases hrelative : relativeTo? directory.bytes path.bytes with
  | none => rwa [shownPart, hrelative]
  | some relative =>
    obtain ⟨-, -, hcomponents, -⟩ := of_relativeTo?_eq_some hrelative
    obtain ⟨-, hsame, -⟩ := shownPart_of_relative hrelative
    rw [isText_iff_components] at h ⊢
    rw [hsame]
    intro segment hsegment
    refine h segment ?_
    rw [← hcomponents]
    exact List.mem_append_right _ hsegment

/-- **The text of a path names the same place exactly if the path is a text.**  Replaced bytes are
those of other components. -/
theorem parts_under_text_iff (hdirectory : isAbsolute directory.bytes = true) (path : Path) :
    parts (under directory (.ofText path.text)).bytes = parts (under directory path).bytes ↔
      IsText path.bytes := by
  constructor
  · intro h
    have hstart := isAbsolute_ofText_text path
    have hcomponents : components (Path.ofText path.text).bytes = components path.bytes := by
      cases hpath : isAbsolute path.bytes with
      | true =>
        have htext := hstart.trans hpath
        rw [under, if_pos htext, under, if_pos hpath, parts_of_isAbsolute htext,
          parts_of_isAbsolute hpath] at h
        exact (List.cons.inj h).2
      | false =>
        rw [parts_under hdirectory (hstart.trans hpath), parts_under hdirectory hpath] at h
        exact List.append_cancel_left h
    rw [isText_iff_components, ← hcomponents, ← isText_iff_components]
    exact isText_encode _
  · intro h
    rw [ofText_text h]

end

/-- **A shown path names the same place.**  Behind the working directory it has the parts that the
path has there if the path is a text, and in general exactly if what is shown of it is one.  It is
relative exactly if the path is, or if the path starts with the parts of the directory, not only
with its bytes; and the directory itself, however it is spelled, is a dot. -/
theorem shownPath_names_same_place {directory : Path}
    (hdirectory : isAbsolute directory.bytes = true) (path : Path) :
    (IsText path.bytes → parts (under directory (.ofText (shownPath directory path))).bytes =
      parts (under directory path).bytes) ∧
    (parts (under directory (.ofText (shownPath directory path))).bytes =
      parts (under directory path).bytes ↔ IsText (shownPart directory path).bytes) ∧
    (isAbsolute (Path.ofText (shownPath directory path)).bytes = false ↔
      isAbsolute path.bytes = false ∨ parts directory.bytes <+: parts path.bytes) ∧
    (parts path.bytes = parts directory.bytes → shownPath directory path = ".") := by
  obtain ⟨hsame, hrelative, hdot⟩ := shownPart_names_same_place hdirectory path
  have hshown := parts_under_text_iff hdirectory (shownPart directory path)
  rw [hsame] at hshown
  refine ⟨fun h => hshown.2 (isText_shownPart h), hshown, ?_, fun h => ?_⟩
  · rw [shownPath, isAbsolute_ofText_text, hrelative]
  · rw [shownPath, Path.text, hdot h]
    rfl

/-- In `/a` the path `//a/./b/..//` is shown as `b/..`.  The text of `/ab` starts with that of `/a`,
but its parts do not; and `/a//.` is the directory itself. -/
theorem shownPath_names_same_place_sibling :
    let directory := Path.ofText "/a"
    isAbsolute directory.bytes = true ∧
      parts (under directory (.ofText (shownPath directory (.ofText "//a/./b/..//")))).bytes =
        parts (under directory (.ofText "//a/./b/..//")).bytes ∧
      shownPath directory (.ofText "//a/./b/..//") = "b/.." ∧
      ¬parts directory.bytes <+: parts (Path.ofText "/ab").bytes ∧
      shownPath directory (.ofText "/a//.") = "." := by
  intro directory
  have hdirectory : isAbsolute directory.bytes = true := by decide
  obtain ⟨hsame, -, -, -⟩ := shownPath_names_same_place hdirectory (.ofText "//a/./b/..//")
  obtain ⟨-, -, hsibling, -⟩ := shownPath_names_same_place hdirectory (.ofText "/ab")
  obtain ⟨-, -, -, hdot⟩ := shownPath_names_same_place hdirectory (.ofText "/a//.")
  refine ⟨hdirectory, hsame (isText_encode _), by decide +kernel, fun h => ?_,
    hdot (by decide +kernel)⟩
  have hrelative := hsibling.2 (.inr h)
  exact absurd hrelative (by decide +kernel)

/-- A path that is no text is shown as one that leads elsewhere: in `/w` a `c` and the first byte of a
character that does not go on are shown as `c` and the replacement character. -/
theorem shownPath_loses_bytes :
    let directory := Path.ofText "/w"
    let path : Path := ⟨[0x63, 0xE9]⟩
    isAbsolute directory.bytes = true ∧ shownPath directory path = "c\ufffd" ∧
      parts (under directory (.ofText (shownPath directory path))).bytes ≠
        parts (under directory path).bytes := by
  decide +kernel

end Files
end CurveSheet
