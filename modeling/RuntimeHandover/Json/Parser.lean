import RuntimeHandover.Json.Scan
import RuntimeHandover.Json.Value

/-! Reading a JSON text as a value. At most 127 arrays and objects may stand one
in another. An inner object whose first key is the number mark is a number that
was carried as text. -/
namespace RuntimeHandover.Json
open Text

def depthLimit : Nat := 128

def numberMark : String := "$serde_json::private::Number"

/-- What a stray value is called when something else was expected; numbers that
fit no machine word, and the zero below zero, are only called a number. -/
def foundNumber (text : String) : Found :=
  match text.toInt? with
  | some n =>
    if text ≠ "-0" ∧ -(signedLimit : Int) ≤ n ∧ n < wordLimit then .integer text else .number
  | none => .number

def readColon (input : List Symbol) : Except Stop (List Symbol) :=
  match skipSpace input with
  | [] => .error (.next .endInObject [])
  | .char ':' :: rest => .ok rest
  | rest => .error (.next .expectedColon rest)

def nextItem (first : Bool) (input : List Symbol) : Except Stop (Taken Bool) :=
  match skipSpace input with
  | [] => .error (.next .endInList [])
  | .char ']' :: rest => .ok (false, .char ']' :: rest)
  | symbol :: rest =>
    if first then .ok (true, symbol :: rest)
    else if symbol = .char ',' then
      match skipSpace rest with
      | [] => .error (.next .endInValue [])
      | .char ']' :: rest => .error (.next .trailingComma (.char ']' :: rest))
      | rest => .ok (true, rest)
    else .error (.next .expectedListCommaOrEnd (symbol :: rest))

def nextKey (first : Bool) (input : List Symbol) : Except Stop (Taken (Option String)) :=
  match skipSpace input with
  | [] => .error (.next .endInObject [])
  | .char '\x7d' :: rest => .ok (none, .char '\x7d' :: rest)
  | symbol :: rest =>
    if first then
      if symbol = .char '"' then key rest else .error (.next .keyMustBeString (symbol :: rest))
    else if symbol = .char ',' then
      match skipSpace rest with
      | [] => .error (.next .endInValue [])
      | .char '"' :: rest => key rest
      | .char '\x7d' :: rest => .error (.next .trailingComma (.char '\x7d' :: rest))
      | rest => .error (.next .keyMustBeString rest)
    else .error (.next .expectedObjectCommaOrEnd (symbol :: rest))
where
  key (rest : List Symbol) : Except Stop (Taken (Option String)) := do
    let (text, left) ← readString rest
    .ok (some (String.ofList text), left)

def endItems (input : List Symbol) : Except (Stop × List Symbol) (List Symbol) :=
  match skipSpace input with
  | [] => .error (.next .endInList [], [])
  | .char ']' :: rest => .ok rest
  | .char ',' :: rest =>
    let left := skipSpace rest
    match left with
    | .char ']' :: _ => .error (.next .trailingComma left, left)
    | _ => .error (.next .trailingCharacters left, left)
  | rest => .error (.next .trailingCharacters rest, rest)

def endMembers (input : List Symbol) : Except (Stop × List Symbol) (List Symbol) :=
  match skipSpace input with
  | [] => .error (.next .endInObject [], [])
  | .char '\x7d' :: rest => .ok rest
  | .char ',' :: rest => .error (.next .trailingComma (.char ',' :: rest), .char ',' :: rest)
  | rest => .error (.next .trailingCharacters rest, rest)

/-- A value that was read has to be followed by its end. A fault that has still
no place gets the place after that end. -/
def closed {α : Type} (ending : List Symbol → Except (Stop × List Symbol) (List Symbol))
    (inner : Except Stop (Taken α)) : Except Stop (Taken α) :=
  match inner with
  | .ok (a, left) =>
    match ending left with
    | .ok rest => .ok (a, rest)
    | .error (stop, _) => .error stop
  | .error ⟨cause, .pending left⟩ =>
    match ending left with
    | .ok rest => .error (.here cause rest)
    | .error (_, rest) => .error (.here cause rest)
  | .error stop => .error stop

/-- The fault of finding another value than the one expected. Words, numbers and
strings are read first; arrays and objects are left. -/
def mismatch (expected : String) (input : List Symbol) : Stop :=
  let told (found : Found) (left : List Symbol) : Stop := .here (.mismatch found expected) left
  let word (found : Found) (rest : Except Stop (List Symbol)) : Stop :=
    match rest with
    | .ok left => told found left
    | .error stop => stop
  match input with
  | [] => .next .expectedValue []
  | .char 'n' :: rest => word .null (readWord ['u', 'l', 'l'] rest)
  | .char 't' :: rest => word (.bool true) (readWord ['r', 'u', 'e'] rest)
  | .char 'f' :: rest => word (.bool false) (readWord ['a', 'l', 's', 'e'] rest)
  | .char '"' :: rest =>
    match readString rest with
    | .ok (text, left) => told (.string (String.ofList text)) left
    | .error stop => stop
  | .char '[' :: _ => told .sequence input
  | .char '\x7b' :: _ => told .map input
  | symbol :: _ =>
    if startsNumber symbol then
      match readNumber input with
      | .ok (text, left) => told (foundNumber text) left
      | .error stop => stop
    else .next .expectedValue input

def markedNumber (input : List Symbol) : Except Stop (Taken String) :=
  match skipSpace input with
  | [] => .error (.next .endInValue [])
  | .char '"' :: rest =>
    match readString rest with
    | .error stop => .error stop
    | .ok (text, left) =>
      match wholeNumber text with
      | .ok number => .ok (number, left)
      | .error fault => .error ⟨fault.cause, .known fault.line fault.column⟩
  | input => .error (mismatch "string containing a number" input)

mutual
/-- One value. `depth` is how many levels are left and `fuel` bounds the steps. When
`marks` is off, objects keep all their members as read and a number mark is a key
like any other. -/
def readValue (marks : Bool) (fuel depth : Nat) (input : List Symbol) :
    Except Stop (Taken Value) :=
  match fuel with
  | 0 => .error (.next .endInValue input)
  | fuel + 1 =>
    match skipSpace input with
    | [] => .error (.next .endInValue [])
    | .char 'n' :: rest => do .ok (.null, ← readWord ['u', 'l', 'l'] rest)
    | .char 't' :: rest => do .ok (.bool true, ← readWord ['r', 'u', 'e'] rest)
    | .char 'f' :: rest => do .ok (.bool false, ← readWord ['a', 'l', 's', 'e'] rest)
    | .char '"' :: rest => do
      let (text, left) ← readString rest
      .ok (.string (String.ofList text), left)
    | .char '[' :: rest =>
      if depth ≤ 1 then .error (.next .tooDeep (.char '[' :: rest))
      else closed endItems do
        let (items, left) ← readItems marks fuel (depth - 1) true rest
        .ok (.array items, left)
    | .char '\x7b' :: rest =>
      if depth ≤ 1 then .error (.next .tooDeep (.char '\x7b' :: rest))
      else closed endMembers do
        match ← nextKey true rest with
        | (none, left) => .ok (.object [], left)
        | (some key, left) =>
          let left ← readColon left
          if marks ∧ key = numberMark then
            let (number, left) ← markedNumber left
            .ok (.number number, left)
          else
            let (value, left) ← readValue marks fuel (depth - 1) left
            let (members, left) ← readMembers marks fuel (depth - 1) false left
            let members := (key, value) :: members
            .ok (.object (if marks then Members.ofList members else members), left)
    | symbol :: rest =>
      if startsNumber symbol then do
        let (number, left) ← readNumber (symbol :: rest)
        .ok (.number number, left)
      else .error (.next .expectedValue (symbol :: rest))

def readItems (marks : Bool) (fuel depth : Nat) (first : Bool) (input : List Symbol) :
    Except Stop (Taken (List Value)) :=
  match fuel with
  | 0 => .error (.next .endInList input)
  | fuel + 1 => do
    match ← nextItem first input with
    | (false, left) => .ok ([], left)
    | (true, left) =>
      let (item, left) ← readValue marks fuel depth left
      let (items, left) ← readItems marks fuel depth false left
      .ok (item :: items, left)

def readMembers (marks : Bool) (fuel depth : Nat) (first : Bool) (input : List Symbol) :
    Except Stop (Taken (List (String × Value))) :=
  match fuel with
  | 0 => .error (.next .endInObject input)
  | fuel + 1 => do
    match ← nextKey first input with
    | (none, left) => .ok ([], left)
    | (some key, left) =>
      let left ← readColon left
      let (value, left) ← readValue marks fuel depth left
      let (members, left) ← readMembers marks fuel depth false left
      .ok ((key, value) :: members, left)
end

/-- Enough steps for any text: each symbol is reached by at most two. -/
def steps (input : List Symbol) : Nat :=
  2 * input.length + 2

def value (depth : Nat) (input : List Symbol) : Except Stop (Taken Value) :=
  readValue true (steps input) depth input

def objectMembers (depth : Nat) (input : List Symbol) : Except Stop (Taken (List (String × Value))) :=
  match skipSpace input with
  | [] => .error (.next .endInValue [])
  | .char '\x7b' :: rest =>
    if depth ≤ 1 then .error (.next .tooDeep (.char '\x7b' :: rest))
    else closed endMembers do
      let (members, left) ← readMembers true (steps rest) (depth - 1) true rest
      .ok (Members.ofList members, left)
  | rest => .error (mismatch "a map" rest)

def document {α : Type} (read : Nat → List Symbol → Except Stop (Taken α)) (text : List Symbol) :
    Except Fault α :=
  match read depthLimit text with
  | .error stop => .error (Fault.ofStop text stop)
  | .ok (a, left) =>
    match skipSpace left with
    | [] => .ok a
    | rest => .error (Fault.ofStop text (.next .trailingCharacters rest))

def parseValue (text : List Symbol) : Except Fault Value :=
  document value text

end RuntimeHandover.Json
