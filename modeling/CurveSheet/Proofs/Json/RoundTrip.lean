/-
# JSON values read back

Whatever white space stands between the signs of a value, a reader finds the value
(`isRead`), by induction on the value.  A list or an object is read item by item, and the
sign behind an item says whether another one follows (`readItems?_spelled`,
`readFields?_spelled`).  So both ways to write a value are read back
(`readFirst?_pretty`, `read?_compact`).
-/

import CurveSheet.Proofs.Json.Scalar
import CurveSheet.Proofs.Json.Spelling

namespace CurveSheet
namespace Json

/-! ### What a reader should find -/

mutual

/-- What a reader should find of a value. -/
def data : Json → Data
  | bool b => .bool b
  | count n => .integer n
  | real x => .real x
  | text s => .text s
  | list items => .list (dataItems items)
  | object fields => .object (dataFields fields)

/-- What a reader should find of items. -/
def dataItems : List Json → List Data
  | [] => []
  | item :: rest => item.data :: dataItems rest

/-- What a reader should find of fields. -/
def dataFields : List (String × Json) → List (String × Data)
  | [] => []
  | (key, value) :: rest => (key, value.data) :: dataFields rest

end

theorem dataItems_eq_map (items : List Json) : dataItems items = items.map data := by
  induction items with
  | nil => rfl
  | cons item rest ih => rw [dataItems, ih, List.map_cons]

/-! ### Reading -/

theorem skipSpace_append {spaces : List Char} (h : ∀ c ∈ spaces, isSpace c = true)
    (rest : List Char) : skipSpace (spaces ++ rest) = skipSpace rest :=
  List.dropWhile_append_of_pos h

theorem skipSpace_cons {c : Char} (h : isSpace c = false) (rest : List Char) :
    skipSpace (c :: rest) = c :: rest :=
  List.dropWhile_cons_of_neg (by rw [h]; exact Bool.false_ne_true)

theorem isNumberChar_of_isSpace {c : Char} (h : isSpace c = true) : isNumberChar c = false := by
  simp only [isSpace, Bool.or_eq_true, beq_iff_eq] at h
  rcases h with ((rfl | rfl) | rfl) | rfl <;> decide

/-- A number ends before white space and before a sign. -/
theorem any_isNumberChar_spaces {spaces : List Char} (h : ∀ c ∈ spaces, isSpace c = true) {c : Char}
    (hc : isNumberChar c = false) (rest : List Char) :
    (spaces ++ c :: rest).head?.any isNumberChar = false := by
  cases spaces with
  | nil => exact hc
  | cons space spaces => exact isNumberChar_of_isSpace (h space (List.mem_cons_self ..))

/-- A character that a value may start with. -/
def isStart (c : Char) : Bool := isDigit c || ['-', '"', '[', '\x7b', 't', 'f'].contains c

theorem isStart_of_isDigit {c : Char} (h : isDigit c = true) : isStart c = true := by
  rw [isStart, h, Bool.true_or]

theorem isSpace_eq_false_of_isStart {c : Char} (h : isStart c = true) : isSpace c = false := by
  rw [← Bool.not_eq_true]
  intro hspace
  simp only [isSpace, Bool.or_eq_true, beq_iff_eq] at hspace
  rcases hspace with ((rfl | rfl) | rfl) | rfl <;> exact absurd h (by decide)

/-- A number starts with a digit or a minus. -/
theorem exists_finiteChars_eq (x : Finite) : ∃ c rest,
    Layout.json.finiteChars x = c :: rest ∧ (isDigit c = true ∨ c = '-') := by
  obtain ⟨whole, tail, hchars, hne, hdigits, -, -⟩ :=
    Layout.isMeasure_magnitudeChars (rfl : Layout.json.wholeFraction = true) x.rank
  obtain ⟨c, whole, rfl⟩ := List.exists_cons_of_ne_nil hne
  rw [Layout.finiteChars]
  split
  · exact ⟨'-', _, rfl, .inr rfl⟩
  · exact ⟨c, whole ++ tail, hchars, .inl (hdigits c (List.mem_cons_self ..))⟩

theorem exists_toDigits_eq (n : Nat) : ∃ c rest,
    Nat.toDigits 10 n = c :: rest ∧ isDigit c = true := by
  obtain ⟨c, rest, h⟩ := List.exists_cons_of_ne_nil (Nat.toDigits_ne_nil (n := n) (b := 10))
  exact ⟨c, rest, h, isDigit_of_mem_toDigits (h ▸ List.mem_cons_self ..)⟩

/-- A value starts with neither white space nor a closing bracket. -/
theorem exists_spelled_eq (spacing : Spacing) (level : Nat) (value : Json) : ∃ c rest,
    spelled spacing level value = c :: rest ∧ isStart c = true := by
  match value with
  | bool true => exact ⟨'t', _, rfl, by decide⟩
  | bool false => exact ⟨'f', _, rfl, by decide⟩
  | count n =>
    obtain ⟨c, rest, h, hc⟩ := exists_toDigits_eq n
    exact ⟨c, rest, h, isStart_of_isDigit hc⟩
  | real x =>
    obtain ⟨c, rest, h, hc | rfl⟩ := exists_finiteChars_eq x
    · exact ⟨c, rest, h, isStart_of_isDigit hc⟩
    · exact ⟨'-', rest, h, by decide⟩
  | text s => exact ⟨'"', _, rfl, by decide⟩
  | list [] => exact ⟨'[', _, rfl, by decide⟩
  | list (_ :: _) => exact ⟨'[', _, rfl, by decide⟩
  | object [] => exact ⟨'\x7b', _, rfl, by decide⟩
  | object (_ :: _) => exact ⟨'\x7b', _, rfl, by decide⟩

/-- A word that starts like a number is read as one. -/
theorem readValue?_number {c : Char} (h : isDigit c = true ∨ c = '-') {spaces : List Char}
    (hspaces : ∀ c ∈ spaces, isSpace c = true) (fuel : Nat) (rest : List Char) :
    readValue? (fuel + 1) (spaces ++ c :: rest) = readNumber? (c :: rest) := by
  have hstart : isSpace c = false := by
    refine isSpace_eq_false_of_isStart ?_
    rcases h with h | rfl
    · exact isStart_of_isDigit h
    · decide
  have hne {sign : Char} (hdigit : isDigit sign = false) (hminus : sign ≠ '-') : c ≠ sign := by
    rintro rfl
    rcases h with h | h
    · rw [h] at hdigit
      exact absurd hdigit (by decide)
    · exact hminus h
  rw [readValue?, skipSpace_append hspaces, skipSpace_cons hstart]
  dsimp only
  rw [if_neg (hne (by decide) (by decide)), if_neg (hne (by decide) (by decide)),
    if_neg (hne (by decide) (by decide)), if_neg (hne (by decide) (by decide)),
    if_neg (hne (by decide) (by decide)), if_neg (hne (by decide) (by decide))]

theorem readText?_stringChars (s : String) (rest : List Char) : ∃ body,
    stringChars s ++ rest = '"' :: body ∧ readText? body = some (s, rest) := by
  refine ⟨s.toList.flatMap escapedChar ++ '"' :: rest, ?_, readText?_escaped s rest⟩
  simp only [stringChars, List.cons_append, List.append_assoc, List.nil_append]

/-- A value is found behind white space, whatever follows that does not go on with a number. -/
def IsRead (spacing : Spacing) (level : Nat) (value : Json) : Prop :=
  ∀ (fuel : Nat) (spaces rest : List Char), (spelled spacing level value).length ≤ fuel →
    (∀ c ∈ spaces, isSpace c = true) → rest.head?.any isNumberChar = false →
    readValue? fuel (spaces ++ (spelled spacing level value ++ rest)) = some (value.data, rest)

section

variable {spacing : Spacing} {level : Nat}

/-- What stands behind an item does not go on with a number. -/
theorem any_isNumberChar_items (items : List Json) {closing : List Char}
    (h : ∀ c ∈ closing, isSpace c = true) (rest : List Char) :
    (spelledItems spacing level items ++ (closing ++ ']' :: rest)).head?.any isNumberChar =
      false := by
  cases items with
  | nil => exact any_isNumberChar_spaces h (by decide) rest
  | cons _ _ => rfl

/-- What stands behind a field does not go on with a number. -/
theorem any_isNumberChar_fields (fields : List (String × Json)) {closing : List Char}
    (h : ∀ c ∈ closing, isSpace c = true) (rest : List Char) :
    (spelledFields spacing level fields ++ (closing ++ '\x7d' :: rest)).head?.any isNumberChar =
      false := by
  cases fields with
  | nil => exact any_isNumberChar_spaces h (by decide) rest
  | cons _ _ => rfl

/-- Items are read one by one; the sign behind an item says whether another one follows. -/
theorem readItems?_spelled {items : List Json} (h : ∀ item ∈ items, IsRead spacing level item)
    {item : Json} (hitem : IsRead spacing level item) {fuel : Nat} {spaces closing : List Char}
    (hfuel : (spelled spacing level item).length + (spelledItems spacing level items).length < fuel)
    (hspaces : ∀ c ∈ spaces, isSpace c = true) (hclosing : ∀ c ∈ closing, isSpace c = true)
    (rest : List Char) :
    readItems? fuel (spaces ++ (spelled spacing level item ++
      (spelledItems spacing level items ++ (closing ++ ']' :: rest)))) =
      some (item.data :: dataItems items, rest) := by
  induction items generalizing item fuel spaces with
  | nil =>
    obtain ⟨fuel, rfl⟩ := Nat.exists_eq_succ_of_ne_zero (Nat.ne_of_gt (Nat.zero_lt_of_lt hfuel))
    rw [readItems?, hitem fuel spaces _ (by omega) hspaces
      (any_isNumberChar_items [] hclosing rest)]
    dsimp only [spelledItems]
    rw [List.nil_append, skipSpace_append hclosing, skipSpace_cons (by decide)]
    rfl
  | cons next items ih =>
    obtain ⟨fuel, rfl⟩ := Nat.exists_eq_succ_of_ne_zero (Nat.ne_of_gt (Nat.zero_lt_of_lt hfuel))
    have hless : (spelled spacing level next).length +
        (spelledItems spacing level items).length < fuel := by
      simp only [spelledItems, List.length_cons, List.length_append] at hfuel
      omega
    have hnext := ih (fun item hmem => h item (List.mem_cons_of_mem _ hmem))
      (h next (List.mem_cons_self ..)) hless (spacing.line_spaces level)
    rw [readItems?, hitem fuel spaces _ (by omega) hspaces
      (any_isNumberChar_items (next :: items) hclosing rest)]
    simp only [spelledItems, List.cons_append, List.append_assoc,
      skipSpace_cons (by decide : isSpace ',' = false)]
    rw [hnext]
    rfl

/-- A field is read up to its end. -/
theorem readFields?_succ {key : String} {value : Json} (hvalue : IsRead spacing level value)
    {fuel : Nat} {spaces : List Char} (hfuel : (spelled spacing level value).length ≤ fuel)
    (hspaces : ∀ c ∈ spaces, isSpace c = true) {more : List Char}
    (hmore : more.head?.any isNumberChar = false) :
    readFields? (fuel + 1) (spaces ++ (stringChars key ++ ':' :: (spacing.colon ++
      (spelled spacing level value ++ more)))) =
      match skipSpace more with
      | ',' :: rest => (readFields? fuel rest).map fun read => ((key, value.data) :: read.1, read.2)
      | '\x7d' :: rest => some ([(key, value.data)], rest)
      | _ => none := by
  obtain ⟨body, hbody, hkey⟩ := readText?_stringChars key (':' :: (spacing.colon ++
    (spelled spacing level value ++ more)))
  have hread := hvalue fuel spacing.colon more hfuel spacing.colon_spaces hmore
  rw [hbody, readFields?, skipSpace_append hspaces, skipSpace_cons (by decide)]
  simp only [hkey, skipSpace_cons (by decide : isSpace ':' = false)]
  split <;> rename_i h
  · cases hread.symm.trans h
  · cases hread.symm.trans h
    rfl

/-- Fields are read one by one; the sign behind a field says whether another one follows. -/
theorem readFields?_spelled {fields : List (String × Json)}
    (h : ∀ field ∈ fields, IsRead spacing level field.2) {key : String} {value : Json}
    (hvalue : IsRead spacing level value) {fuel : Nat} {spaces closing : List Char}
    (hfuel : (spelled spacing level value).length +
      (spelledFields spacing level fields).length < fuel)
    (hspaces : ∀ c ∈ spaces, isSpace c = true) (hclosing : ∀ c ∈ closing, isSpace c = true)
    (rest : List Char) :
    readFields? fuel (spaces ++ (stringChars key ++ ':' :: (spacing.colon ++
      (spelled spacing level value ++
        (spelledFields spacing level fields ++ (closing ++ '\x7d' :: rest)))))) =
      some ((key, value.data) :: dataFields fields, rest) := by
  induction fields generalizing key value fuel spaces with
  | nil =>
    obtain ⟨fuel, rfl⟩ := Nat.exists_eq_succ_of_ne_zero (Nat.ne_of_gt (Nat.zero_lt_of_lt hfuel))
    rw [readFields?_succ hvalue (by omega) hspaces (any_isNumberChar_fields [] hclosing rest)]
    rw [spelledFields, List.nil_append, skipSpace_append hclosing, skipSpace_cons (by decide)]
    rfl
  | cons next fields ih =>
    obtain ⟨key', value'⟩ := next
    obtain ⟨fuel, rfl⟩ := Nat.exists_eq_succ_of_ne_zero (Nat.ne_of_gt (Nat.zero_lt_of_lt hfuel))
    have hless : (spelled spacing level value').length +
        (spelledFields spacing level fields).length < fuel := by
      simp only [spelledFields, List.length_cons, List.length_append] at hfuel
      omega
    have hnext := @ih (fun field hmem => h field (List.mem_cons_of_mem _ hmem)) key' value'
      (h (key', value') (List.mem_cons_self ..)) fuel _ hless (spacing.line_spaces level)
    rw [readFields?_succ hvalue (by omega) hspaces
      (any_isNumberChar_fields ((key', value') :: fields) hclosing rest)]
    simp only [spelledFields, List.cons_append, List.append_assoc,
      skipSpace_cons (by decide : isSpace ',' = false)]
    rw [hnext]
    rfl

/-- Behind an opening bracket and no closing one there are items. -/
theorem readValue?_openBracket {spaces line : List Char} (hspaces : ∀ c ∈ spaces, isSpace c = true)
    (hline : ∀ c ∈ line, isSpace c = true) {c : Char} (hc : isStart c = true) (fuel : Nat)
    (text : List Char) :
    readValue? (fuel + 1) (spaces ++ '[' :: (line ++ c :: text)) =
      (readItems? fuel (c :: text)).map fun read => (.list read.1, read.2) := by
  rw [readValue?, skipSpace_append hspaces, skipSpace_cons (by decide)]
  dsimp only
  rw [if_neg (by decide), if_pos rfl, skipSpace_append hline,
    skipSpace_cons (isSpace_eq_false_of_isStart hc)]
  split
  · rename_i heq
    obtain ⟨rfl, -⟩ := List.cons.inj heq
    exact absurd hc (by decide)
  · rfl

/-- Behind an opening brace and a quote there are fields. -/
theorem readValue?_openBrace {spaces line : List Char} (hspaces : ∀ c ∈ spaces, isSpace c = true)
    (hline : ∀ c ∈ line, isSpace c = true) (fuel : Nat) (text : List Char) :
    readValue? (fuel + 1) (spaces ++ '\x7b' :: (line ++ '"' :: text)) =
      (readFields? fuel ('"' :: text)).map fun read => (.object read.1, read.2) := by
  rw [readValue?, skipSpace_append hspaces, skipSpace_cons (by decide)]
  dsimp only
  rw [if_neg (by decide), if_neg (by decide), if_pos rfl, skipSpace_append hline,
    skipSpace_cons (by decide)]
  rfl

/-- A list is read if its items are. -/
theorem isRead_list {items : List Json} (h : ∀ item ∈ items, IsRead spacing (level + 1) item) :
    IsRead spacing level (list items) := by
  intro fuel spaces rest hfuel hspaces _
  cases items with
  | nil =>
    obtain ⟨fuel, rfl⟩ := Nat.exists_eq_succ_of_ne_zero (Nat.ne_of_gt (Nat.zero_lt_of_lt hfuel))
    rw [readValue?, skipSpace_append hspaces]
    rfl
  | cons item items =>
    obtain ⟨fuel, rfl⟩ := Nat.exists_eq_succ_of_ne_zero (Nat.ne_of_gt (Nat.zero_lt_of_lt hfuel))
    have hless : (spelled spacing (level + 1) item).length +
        (spelledItems spacing (level + 1) items).length < fuel := by
      simp only [spelled, List.length_cons, List.length_append] at hfuel
      omega
    have hread := readItems?_spelled (fun item hmem => h item (List.mem_cons_of_mem _ hmem))
      (h item (List.mem_cons_self ..)) hless (List.forall_mem_nil _) (spacing.line_spaces level)
      rest
    obtain ⟨c, text, htext, hc⟩ := exists_spelled_eq spacing (level + 1) item
    rw [htext] at hread
    rw [spelled, htext]
    simp only [List.cons_append, List.append_assoc, List.nil_append] at hread ⊢
    rw [readValue?_openBracket hspaces (spacing.line_spaces _) hc, hread]
    rfl

/-- An object is read if the values of its fields are. -/
theorem isRead_object {fields : List (String × Json)}
    (h : ∀ field ∈ fields, IsRead spacing (level + 1) field.2) :
    IsRead spacing level (object fields) := by
  intro fuel spaces rest hfuel hspaces _
  cases fields with
  | nil =>
    obtain ⟨fuel, rfl⟩ := Nat.exists_eq_succ_of_ne_zero (Nat.ne_of_gt (Nat.zero_lt_of_lt hfuel))
    rw [readValue?, skipSpace_append hspaces]
    rfl
  | cons field fields =>
    obtain ⟨key, value⟩ := field
    obtain ⟨fuel, rfl⟩ := Nat.exists_eq_succ_of_ne_zero (Nat.ne_of_gt (Nat.zero_lt_of_lt hfuel))
    have hless : (spelled spacing (level + 1) value).length +
        (spelledFields spacing (level + 1) fields).length < fuel := by
      simp only [spelled, List.length_cons, List.length_append] at hfuel
      omega
    have hread := @readFields?_spelled _ _ fields
      (fun field hmem => h field (List.mem_cons_of_mem _ hmem)) key value
      (h (key, value) (List.mem_cons_self ..)) fuel [] _ hless (List.forall_mem_nil _)
      (spacing.line_spaces level) rest
    rw [spelled]
    simp only [stringChars, List.cons_append, List.append_assoc, List.nil_append] at hread ⊢
    rw [readValue?_openBrace hspaces (spacing.line_spaces _), hread]
    rfl

end

/-- A text is read. -/
theorem isRead_text (spacing : Spacing) (level : Nat) (s : String) :
    IsRead spacing level (text s) := by
  intro fuel spaces rest hfuel hspaces _
  obtain ⟨fuel, rfl⟩ := Nat.exists_eq_succ_of_ne_zero (Nat.ne_of_gt (Nat.zero_lt_of_lt hfuel))
  obtain ⟨body, hbody, hread⟩ := readText?_stringChars s rest
  rw [spelled, hbody, readValue?, skipSpace_append hspaces, skipSpace_cons (by decide)]
  dsimp only
  rw [if_pos rfl, hread]
  rfl

/-- A number is read. -/
theorem isRead_number {spacing : Spacing} {level : Nat} {value : Json} {c : Char} {word : List Char}
    (hspelled : spelled spacing level value = c :: word) (hc : isDigit c = true ∨ c = '-')
    (hread : ∀ rest : List Char, rest.head?.any isNumberChar = false →
      readNumber? (spelled spacing level value ++ rest) = some (value.data, rest)) :
    IsRead spacing level value := by
  intro fuel spaces rest hfuel hspaces hrest
  rw [hspelled] at hfuel
  obtain ⟨fuel, rfl⟩ := Nat.exists_eq_succ_of_ne_zero (Nat.ne_of_gt (Nat.zero_lt_of_lt hfuel))
  have hnumber := readValue?_number hc hspaces fuel (word ++ rest)
  rw [← List.cons_append, ← hspelled] at hnumber
  rw [hnumber, hread rest hrest]

mutual

/-- **A value is read back from its text**, whatever white space is between its signs. -/
theorem isRead (spacing : Spacing) (level : Nat) : ∀ value : Json, IsRead spacing level value
  | bool b => by
    intro fuel spaces rest hfuel hspaces _
    cases b <;>
    · obtain ⟨fuel, rfl⟩ := Nat.exists_eq_succ_of_ne_zero (Nat.ne_of_gt (Nat.zero_lt_of_lt hfuel))
      rw [readValue?, skipSpace_append hspaces]
      rfl
  | count n => by
    obtain ⟨c, word, hword, hc⟩ := exists_toDigits_eq n
    exact isRead_number hword (.inl hc) fun _ => readNumber?_toDigits n
  | real x => by
    obtain ⟨c, word, hword, hc⟩ := exists_finiteChars_eq x
    exact isRead_number hword hc fun _ => readNumber?_finiteChars x
  | text s => isRead_text spacing level s
  | list items => isRead_list (isRead_of_mem spacing (level + 1) items)
  | object fields => isRead_object (isRead_of_mem_fields spacing (level + 1) fields)

theorem isRead_of_mem (spacing : Spacing) (level : Nat) : ∀ items : List Json,
    ∀ item ∈ items, IsRead spacing level item
  | [] => List.forall_mem_nil _
  | item :: items =>
    List.forall_mem_cons.2 ⟨isRead spacing level item, isRead_of_mem spacing level items⟩

theorem isRead_of_mem_fields (spacing : Spacing) (level : Nat) : ∀ fields : List (String × Json),
    ∀ field ∈ fields, IsRead spacing level field.2
  | [] => List.forall_mem_nil _
  | (_, value) :: fields =>
    List.forall_mem_cons.2 ⟨isRead spacing level value, isRead_of_mem_fields spacing level fields⟩

end

/-! ### Whole texts -/

/-- **The pretty text of a value is read back**, with what follows it left over. -/
theorem readFirst?_pretty (value : Json) (after : String)
    (h : after.toList.head?.any isNumberChar = false) :
    readFirst? (value.pretty ++ after) = some (value.data, after.toList) := by
  have hread := isRead .lines 0 value (value.pretty ++ after).toList.length [] after.toList
  rw [spelled_pretty] at hread
  rw [readFirst?]
  rw [String.toList_append, pretty, String.toList_ofList] at hread ⊢
  refine hread ?_ (List.forall_mem_nil _) h
  rw [List.length_append]
  exact Nat.le_add_right ..

/-- **The compact text of a value is read back.** -/
theorem read?_compact (value : Json) : read? value.compact = some value.data := by
  have hread := isRead .none 0 value value.compact.toList.length [] []
  rw [spelled_compact, List.append_nil, List.nil_append, compact, String.toList_ofList] at hread
  rw [read?, readFirst?, compact, String.toList_ofList,
    hread (Nat.le_refl _) (List.forall_mem_nil _) rfl]
  rfl

end Json
end CurveSheet
