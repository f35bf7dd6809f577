import RuntimeHandover.Json.Machine
import RuntimeHandover.Json.Skip

/-! Reading values of known shape. A structure may be written as an object, whose
unknown members are passed over, or as an array of its fields in order; fields
that are left out keep the value they start with. -/
namespace RuntimeHandover.Json
open Text

abbrev Reader (α : Type) := Nat → List Symbol → Except Stop (Taken α)

def readText (expected : String) : Reader String := fun _ input =>
  match skipSpace input with
  | [] => .error (.next .endInValue [])
  | .char '"' :: rest => do
    let (text, left) ← readString rest
    .ok (String.ofList text, left)
  | rest => .error (mismatch expected rest)

def readBool : Reader Bool := fun _ input =>
  match skipSpace input with
  | [] => .error (.next .endInValue [])
  | .char 't' :: rest => do .ok (true, ← readWord ['r', 'u', 'e'] rest)
  | .char 'f' :: rest => do .ok (false, ← readWord ['a', 'l', 's', 'e'] rest)
  | rest => .error (mismatch "a boolean" rest)

def readNat64 : Reader Nat := fun _ input =>
  let expected := "u64"
  match skipSpace input with
  | [] => .error (.next .endInValue [])
  | symbol :: rest =>
    if startsNumber symbol then do
      match ← machineNumber (symbol :: rest) with
      | (.natural n, left) => .ok (n, left)
      | (.negative n, left) => .error (.here (.unfit (.integer s!"-{n}") expected) left)
      | (.floating x, left) => .error (.here (.mismatch (.floating (floating x)) expected) left)
    else .error (mismatch expected (symbol :: rest))

def readOption {α : Type} (read : Reader α) : Reader (Option α) := fun depth input =>
  match skipSpace input with
  | .char 'n' :: rest => do .ok (none, ← readWord ['u', 'l', 'l'] rest)
  | rest => do
    let (a, left) ← read depth rest
    .ok (some a, left)

def readEach {α : Type} (read : Reader α) (depth : Nat) :
    Nat → Bool → List Symbol → Except Stop (Taken (List α))
  | 0, _, input => .error (.next .endInList input)
  | fuel + 1, first, input => do
    match ← nextItem first input with
    | (false, left) => .ok ([], left)
    | (true, left) =>
      let (a, left) ← read depth left
      let (as, left) ← readEach read depth fuel false left
      .ok (a :: as, left)

def readList {α : Type} (read : Reader α) : Reader (List α) := fun depth input =>
  match skipSpace input with
  | [] => .error (.next .endInValue [])
  | .char '[' :: rest =>
    if depth ≤ 1 then .error (.next .tooDeep (.char '[' :: rest))
    else closed endItems (readEach read (depth - 1) (steps rest) true rest)
  | rest => .error (mismatch "a sequence" rest)

structure FieldReader (σ : Type) where
  name : String
  read : Reader (σ → σ)

def FieldReader.of {σ α : Type} (name : String) (read : Reader α) (set : α → σ → σ) : FieldReader σ where
  name := name
  read depth input := do
    let (a, left) ← read depth input
    .ok (set a, left)

/-- The members of a structure; `seen` are the fields that were there already. -/
def readFields {σ : Type} (fields : List (FieldReader σ)) (depth : Nat) :
    Nat → Bool → List String → σ → List Symbol → Except Stop (Taken σ)
  | 0, _, _, _, input => .error (.next .endInObject input)
  | fuel + 1, first, seen, state, input => do
    match ← nextKey first input with
    | (none, left) => .ok (state, left)
    | (some key, left) =>
      match fields.find? (·.name == key) with
      | none =>
        let left ← skipValue (← readColon left)
        readFields fields depth fuel false seen state left
      | some field =>
        if seen.contains key then .error ⟨.repeatedField key, .pending left⟩
        else
          let (set, left) ← field.read depth (← readColon left)
          readFields fields depth fuel false (key :: seen) (set state) left

def readInOrder {σ : Type} (depth : Nat) :
    List (FieldReader σ) → Bool → σ → List Symbol → Except Stop (Taken σ)
  | [], _, state, input => .ok (state, input)
  | field :: fields, first, state, input => do
    match ← nextItem first input with
    | (false, left) => .ok (state, left)
    | (true, left) =>
      let (set, left) ← field.read depth left
      readInOrder depth fields false (set state) left

def readStructure {σ : Type} (name : String) (fields : List (FieldReader σ)) (start : σ) :
    Reader σ := fun depth input =>
  match skipSpace input with
  | [] => .error (.next .endInValue [])
  | .char '[' :: rest =>
    if depth ≤ 1 then .error (.next .tooDeep (.char '[' :: rest))
    else closed endItems (readInOrder (depth - 1) fields true start rest)
  | .char '\x7b' :: rest =>
    if depth ≤ 1 then .error (.next .tooDeep (.char '\x7b' :: rest))
    else closed endMembers (readFields fields (depth - 1) (steps rest) true [] start rest)
  | rest => .error (mismatch s!"struct {name}" rest)

end RuntimeHandover.Json
