/-
# The two ways to write a JSON value

A value the pretty way and on one line differ only in the white space between its signs.
They are two cases of one text that leaves this white space open (`spelled_pretty`,
`spelled_compact`), so what is said of that text holds of both.
-/

import CurveSheet.Proofs.Json.Reader

namespace CurveSheet
namespace Json

/-- The white space before the items of a level and behind a colon. -/
structure Spacing where
  line : Nat → List Char
  colon : List Char
  line_spaces : ∀ level, ∀ c ∈ line level, isSpace c = true
  colon_spaces : ∀ c ∈ colon, isSpace c = true

/-- No white space at all. -/
def Spacing.none : Spacing := ⟨fun _ => [], [], by simp, by simp⟩

/-- Every item on a line of its own. -/
def Spacing.lines : Spacing where
  line := newLine
  colon := [' ']
  line_spaces level c hc := by
    rcases List.mem_cons.1 hc with rfl | hc
    · decide
    · rw [List.eq_of_mem_replicate hc]
      decide
  colon_spaces := List.forall_mem_singleton.2 rfl

mutual

/-- A value inside `level` others. -/
def spelled (spacing : Spacing) (level : Nat) : Json → List Char
  | bool b => (if b then "true" else "false").toList
  | count n => Nat.toDigits 10 n
  | real x => Layout.json.finiteChars x
  | text s => stringChars s
  | list [] => ['[', ']']
  | list (item :: rest) =>
    '[' :: (spacing.line (level + 1) ++ (spelled spacing (level + 1) item ++
      (spelledItems spacing (level + 1) rest ++ (spacing.line level ++ [']']))))
  | object [] => ['\x7b', '\x7d']
  | object ((key, value) :: rest) =>
    '\x7b' :: (spacing.line (level + 1) ++ (stringChars key ++ ':' :: (spacing.colon ++
      (spelled spacing (level + 1) value ++
        (spelledFields spacing (level + 1) rest ++ (spacing.line level ++ ['\x7d']))))))

/-- Further items, each behind a comma. -/
def spelledItems (spacing : Spacing) (level : Nat) : List Json → List Char
  | [] => []
  | item :: rest => ',' :: (spacing.line level ++ (spelled spacing level item ++
      spelledItems spacing level rest))

/-- Further fields, each behind a comma. -/
def spelledFields (spacing : Spacing) (level : Nat) : List (String × Json) → List Char
  | [] => []
  | (key, value) :: rest => ',' :: (spacing.line level ++ (stringChars key ++ ':' ::
      (spacing.colon ++ (spelled spacing level value ++ spelledFields spacing level rest))))

end

mutual

/-- **The pretty way is one with a line for every item.** -/
theorem spelled_pretty (level : Nat) : ∀ value : Json,
    spelled .lines level value = prettyChars level value
  | bool _ => rfl
  | count _ => rfl
  | real _ => rfl
  | text _ => rfl
  | list [] => rfl
  | list (item :: rest) => by
    rw [spelled, prettyChars, spelled_pretty (level + 1) item, spelledItems_pretty (level + 1) rest]
    simp only [Spacing.lines, List.append_assoc, List.cons_append]
  | object [] => rfl
  | object ((key, value) :: rest) => by
    rw [spelled, prettyChars, spelled_pretty (level + 1) value,
      spelledFields_pretty (level + 1) rest]
    simp only [Spacing.lines, List.append_assoc, List.cons_append, List.nil_append]

theorem spelledItems_pretty (level : Nat) : ∀ items : List Json,
    spelledItems .lines level items = prettyItems level items
  | [] => rfl
  | item :: rest => by
    rw [spelledItems, prettyItems, spelled_pretty level item, spelledItems_pretty level rest]
    simp only [Spacing.lines, List.append_assoc, List.cons_append]

theorem spelledFields_pretty (level : Nat) : ∀ fields : List (String × Json),
    spelledFields .lines level fields = prettyFields level fields
  | [] => rfl
  | (key, value) :: rest => by
    rw [spelledFields, prettyFields, spelled_pretty level value, spelledFields_pretty level rest]
    simp only [Spacing.lines, List.append_assoc, List.cons_append, List.nil_append]

end

mutual

/-- **One line is a text without white space.** -/
theorem spelled_compact (level : Nat) : ∀ value : Json,
    spelled .none level value = compactChars value
  | bool _ => rfl
  | count _ => rfl
  | real _ => rfl
  | text _ => rfl
  | list [] => rfl
  | list (item :: rest) => by
    rw [spelled, compactChars, compactItems_cons (level + 1) rest item,
      spelled_compact (level + 1) item]
    simp only [Spacing.none, List.append_assoc, List.nil_append, List.cons_append]
  | object [] => rfl
  | object ((key, value) :: rest) => by
    rw [spelled, compactChars, compactFields_cons (level + 1) rest key value,
      spelled_compact (level + 1) value]
    simp only [Spacing.none, List.append_assoc, List.nil_append, List.cons_append]

theorem compactItems_cons (level : Nat) : ∀ (rest : List Json) (item : Json),
    compactItems (item :: rest) = compactChars item ++ spelledItems .none level rest
  | [], item => by rw [compactItems, spelledItems, List.append_nil]
  | next :: rest, item => by
    rw [spelledItems, spelled_compact level next]
    change compactChars item ++ ',' :: compactItems (next :: rest) = _
    rw [compactItems_cons level rest next]
    rfl

theorem compactFields_cons (level : Nat) : ∀ (rest : List (String × Json)) (key : String)
    (value : Json), compactFields ((key, value) :: rest) =
      stringChars key ++ ':' :: (compactChars value ++ spelledFields .none level rest)
  | [], key, value => by rw [compactFields, spelledFields, List.append_nil]
  | (key', next) :: rest, key, value => by
    rw [spelledFields, spelled_compact level next]
    change stringChars key ++ ':' :: compactChars value ++
      ',' :: compactFields ((key', next) :: rest) = _
    rw [compactFields_cons level rest key' next]
    simp only [Spacing.none, List.append_assoc, List.nil_append, List.cons_append]

end

end Json
end CurveSheet
