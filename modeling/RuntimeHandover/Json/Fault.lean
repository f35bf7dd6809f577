import RuntimeHandover.Text.Quoted

/-! What can be wrong with a JSON text, and where. Lines count from one; a column
is the number of bytes of its line that were read. -/
namespace RuntimeHandover.Json
open Text

inductive Found where
  | null
  | bool (b : Bool)
  | integer (text : String)
  | floating (text : String)
  | number
  | string (text : String)
  | sequence
  | map
  deriving DecidableEq, Repr

def Found.message : Found → String
  | .null => "null"
  | .bool b => s!"boolean `{b}`"
  | .integer text => s!"integer `{text}`"
  | .floating text => s!"floating point `{text}`"
  | .number => "number"
  | .string text => s!"string {quoted text}"
  | .sequence => "sequence"
  | .map => "map"

inductive Cause where
  | endInList
  | endInObject
  | endInString
  | endInValue
  | expectedColon
  | expectedListCommaOrEnd
  | expectedObjectCommaOrEnd
  | expectedIdent
  | expectedValue
  | invalidEscape
  | invalidNumber
  | numberOutOfRange
  | invalidCodePoint
  | controlCharacter
  | keyMustBeString
  | loneSurrogate
  | trailingComma
  | trailingCharacters
  | endOfHexEscape
  | tooDeep
  | mismatch (found : Found) (expected : String)
  | unfit (found : Found) (expected : String)
  | repeatedField (name : String)
  | stated (text : String)
  deriving DecidableEq, Repr

def Cause.message : Cause → String
  | .endInList => "EOF while parsing a list"
  | .endInObject => "EOF while parsing an object"
  | .endInString => "EOF while parsing a string"
  | .endInValue => "EOF while parsing a value"
  | .expectedColon => "expected `:`"
  | .expectedListCommaOrEnd => "expected `,` or `]`"
  | .expectedObjectCommaOrEnd => "expected `,` or `\x7d`"
  | .expectedIdent => "expected ident"
  | .expectedValue => "expected value"
  | .invalidEscape => "invalid escape"
  | .invalidNumber => "invalid number"
  | .numberOutOfRange => "number out of range"
  | .invalidCodePoint => "invalid unicode code point"
  | .controlCharacter => "control character (\\u0000-\\u001F) found while parsing a string"
  | .keyMustBeString => "key must be a string"
  | .loneSurrogate => "lone leading surrogate in hex escape"
  | .trailingComma => "trailing comma"
  | .trailingCharacters => "trailing characters"
  | .endOfHexEscape => "unexpected end of hex escape"
  | .tooDeep => "recursion limit exceeded"
  | .mismatch found expected => s!"invalid type: {found.message}, expected {expected}"
  | .unfit found expected => s!"invalid value: {found.message}, expected {expected}"
  | .repeatedField name => s!"duplicate field `{name}`"
  | .stated text => text

/-- Where reading stopped: `within` so many bytes into the rest of the text,
`ahead` of its next byte, at a `known` line and column, or `pending`, when the
value being read has still to say where it ends. -/
inductive Place where
  | within (rest : List Symbol) (bytes : Nat)
  | ahead (rest : List Symbol)
  | known (line column : Nat)
  | pending (rest : List Symbol)
  deriving DecidableEq, Repr

structure Stop where
  cause : Cause
  place : Place
  deriving DecidableEq, Repr

namespace Stop

def here (cause : Cause) (rest : List Symbol) : Stop :=
  ⟨cause, .within rest 0⟩

def taken (cause : Cause) (rest : List Symbol) : Stop :=
  ⟨cause, .within rest 1⟩

def next (cause : Cause) (rest : List Symbol) : Stop :=
  ⟨cause, .ahead rest⟩

end Stop

def position : List Symbol → Nat → Nat × Nat → Nat × Nat
  | [], _, place => place
  | _, 0, place => place
  | .char '\n' :: rest, bytes + 1, (line, _) => position rest bytes (line + 1, 0)
  | symbol :: rest, bytes + 1, (line, column) =>
    let taken := min symbol.width (bytes + 1)
    position rest (bytes + 1 - taken) (line, column + taken)

structure Fault where
  cause : Cause
  line : Nat
  column : Nat
  deriving DecidableEq, Repr

namespace Fault

def message (fault : Fault) : String :=
  if fault.line = 0 then fault.cause.message
  else s!"{fault.cause.message} at line {fault.line} column {fault.column}"

def ofStop (text : List Symbol) (stop : Stop) : Fault :=
  let after (rest : List Symbol) (bytes : Nat) : Fault :=
    let (line, column) := position text (width text - width rest + bytes) (1, 0)
    ⟨stop.cause, line, column⟩
  match stop.place with
  | .within rest bytes => after rest bytes
  | .ahead rest => after rest 1
  | .pending rest => after rest 0
  | .known line column => ⟨stop.cause, line, column⟩

end Fault

def wordLimit : Nat := 0x10000000000000000

def signedLimit : Nat := 0x8000000000000000

/-- A text that ends in a line and a column, taken apart; the last mention counts. -/
def splitPosition (text : List Char) : Option (List Char × Nat × Nat) :=
  let number (digits : List Char) : Option Nat :=
    if digits.isEmpty then none
    else
      let n := Nat.ofDigitChars 10 digits 0
      if n < wordLimit then some n else none
  let rec search (before : List Char) : List Char → Option (List Char × Nat × Nat)
    | [] => none
    | c :: rest =>
      match search (c :: before) rest with
      | some found => some found
      | none =>
        if " at line ".toList.isPrefixOf (c :: rest) then
          let tail := (c :: rest).drop " at line ".length
          let line := tail.takeWhile Char.isDigit
          let tail := tail.dropWhile Char.isDigit
          if " column ".toList.isPrefixOf tail then
            let tail := tail.drop " column ".length
            let column := tail.takeWhile Char.isDigit
            if (tail.dropWhile Char.isDigit).isEmpty then
              match number line, number column with
              | some line, some column => some (before.reverse, line, column)
              | _, _ => none
            else none
          else none
        else none
  search [] text

/-- A fault stated in words. Words that end in a line and a column name their own
place, unless the line is zero. -/
def Stop.stated (text : String) (rest : List Symbol) : Stop :=
  match splitPosition text.toList with
  | none => ⟨.stated text, .pending rest⟩
  | some (words, 0, _) => ⟨.stated (String.ofList words), .pending rest⟩
  | some (words, line, column) => ⟨.stated (String.ofList words), .known line column⟩

end RuntimeHandover.Json
