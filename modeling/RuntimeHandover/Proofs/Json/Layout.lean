import RuntimeHandover.Proofs.Json.Tokens

/-! One printer for both forms of a JSON text. They differ in the blanks between tokens
only, which no reader of a value minds. -/
namespace RuntimeHandover.Json
open Text

/-- The blanks before an item of an array or object at some level, after a colon, and
before the end of what has items. -/
structure Layout where
  item : Nat → List Char
  colon : List Char
  ending : Nat → List Char
  item_blank : ∀ level, ∀ c ∈ item level, isSpace (.char c) = true
  colon_blank : ∀ c ∈ colon, isSpace (.char c) = true
  ending_blank : ∀ level, ∀ c ∈ ending level, isSpace (.char c) = true

namespace Layout

def tight : Layout where
  item _ := []
  colon := []
  ending _ := []
  item_blank := by simp
  colon_blank := by simp
  ending_blank := by simp

private theorem newLine_blank (level : Nat) : ∀ c ∈ newLine level, isSpace (.char c) = true := by
  intro c inside
  rcases List.mem_cons.mp inside with rfl | space
  · rfl
  · rw [List.eq_of_mem_replicate space]
    rfl

def lined : Layout where
  item level := newLine (level + 1)
  colon := [' ']
  ending := newLine
  item_blank level := newLine_blank (level + 1)
  colon_blank := by simp [isSpace]
  ending_blank := newLine_blank

end Layout

variable (layout : Layout)

def separator (level : Nat) (first : Bool) : List Char :=
  if first then layout.item level else ',' :: layout.item level

def closing (level : Nat) (first : Bool) : List Char :=
  if first then [] else layout.ending level

mutual
def layValue (level : Nat) : Value → List Char
  | .null => ['n', 'u', 'l', 'l']
  | .bool true => ['t', 'r', 'u', 'e']
  | .bool false => ['f', 'a', 'l', 's', 'e']
  | .number text => text.toList
  | .string text => printString text
  | .array items => '[' :: layItems level true items
  | .object members => '\x7b' :: layMembers level true members

def layItems (level : Nat) (first : Bool) : List Value → List Char
  | [] => closing layout level first ++ [']']
  | item :: rest =>
    separator layout level first ++ layValue (level + 1) item ++ layItems level false rest

def layMembers (level : Nat) (first : Bool) : List (String × Value) → List Char
  | [] => closing layout level first ++ ['\x7d']
  | (key, value) :: rest =>
    separator layout level first ++ printString key ++ ':' :: layout.colon ++
      layValue (level + 1) value ++ layMembers level false rest
end

mutual
theorem printValue_eq (level : Nat) : (value : Value) →
    printValue value = layValue .tight level value
  | .null | .bool true | .bool false | .number _ | .string _ => rfl
  | .array [] | .object [] => rfl
  | .array (item :: rest) => by
    rw [printValue, printValue_eq (level + 1) item, printItems_eq level rest]
    rfl
  | .object ((key, value) :: rest) => by
    rw [printValue, printValue_eq (level + 1) value, printMembers_eq level rest]
    simp [layValue, layMembers, separator, Layout.tight]

theorem printItems_eq (level : Nat) : (items : List Value) →
    printItems items = layItems .tight level false items
  | [] => rfl
  | item :: rest => by
    rw [printItems, printValue_eq (level + 1) item, printItems_eq level rest]
    rfl

theorem printMembers_eq (level : Nat) : (members : List (String × Value)) →
    printMembers members = layMembers .tight level false members
  | [] => rfl
  | (key, value) :: rest => by
    rw [printMembers, printValue_eq (level + 1) value, printMembers_eq level rest]
    simp [layMembers, separator, Layout.tight]
end

mutual
theorem prettyValue_eq (level : Nat) : (value : Value) →
    prettyValue level value = layValue .lined level value
  | .null | .bool true | .bool false | .number _ | .string _ => rfl
  | .array [] | .object [] => rfl
  | .array (item :: rest) => by
    rw [prettyValue, prettyValue_eq (level + 1) item, prettyItems_eq level rest]
    rfl
  | .object ((key, value) :: rest) => by
    rw [prettyValue, prettyValue_eq (level + 1) value, prettyMembers_eq level rest]
    simp [layValue, layMembers, separator, Layout.lined]

theorem prettyItems_eq (level : Nat) : (items : List Value) →
    prettyItems level items = layItems .lined level false items
  | [] => rfl
  | item :: rest => by
    rw [prettyItems, prettyValue_eq (level + 1) item, prettyItems_eq level rest]
    rfl

theorem prettyMembers_eq (level : Nat) : (members : List (String × Value)) →
    prettyMembers level members = layMembers .lined level false members
  | [] => rfl
  | (key, value) :: rest => by
    rw [prettyMembers, prettyValue_eq (level + 1) value, prettyMembers_eq level rest]
    simp [layMembers, separator, Layout.lined]
end

end RuntimeHandover.Json
