import RuntimeHandover.Json.Value
import RuntimeHandover.Text.Quoted

/-! JSON text of a value: the compact form, and the form with one item a line
and two spaces for each level. -/
namespace RuntimeHandover.Json
open Text

/-- Control characters below the space, the quote and the backslash are escaped,
and nothing else. -/
def escapedChar (c : Char) : List Char :=
  match c with
  | '"' => ['\\', '"']
  | '\\' => ['\\', '\\']
  | '\x08' => ['\\', 'b']
  | '\x0c' => ['\\', 'f']
  | '\n' => ['\\', 'n']
  | '\r' => ['\\', 'r']
  | '\t' => ['\\', 't']
  | c =>
    if c.toNat < 32 then
      ['\\', 'u', '0', '0', hexDigit (c.toNat / 16), hexDigit (c.toNat % 16)]
    else [c]

def printString (text : String) : List Char :=
  '"' :: text.toList.flatMap escapedChar ++ ['"']

mutual
def printValue : Value → List Char
  | .null => ['n', 'u', 'l', 'l']
  | .bool true => ['t', 'r', 'u', 'e']
  | .bool false => ['f', 'a', 'l', 's', 'e']
  | .number text => text.toList
  | .string text => printString text
  | .array [] => ['[', ']']
  | .array (item :: rest) => '[' :: printValue item ++ printItems rest
  | .object [] => ['\x7b', '\x7d']
  | .object ((key, value) :: rest) =>
    '\x7b' :: printString key ++ ':' :: printValue value ++ printMembers rest

def printItems : List Value → List Char
  | [] => [']']
  | item :: rest => ',' :: printValue item ++ printItems rest

def printMembers : List (String × Value) → List Char
  | [] => ['\x7d']
  | (key, value) :: rest =>
    ',' :: printString key ++ ':' :: printValue value ++ printMembers rest
end

def newLine (level : Nat) : List Char :=
  '\n' :: List.replicate (2 * level) ' '

mutual
def prettyValue (level : Nat) : Value → List Char
  | .null => ['n', 'u', 'l', 'l']
  | .bool true => ['t', 'r', 'u', 'e']
  | .bool false => ['f', 'a', 'l', 's', 'e']
  | .number text => text.toList
  | .string text => printString text
  | .array [] => ['[', ']']
  | .array (item :: rest) =>
    '[' :: newLine (level + 1) ++ prettyValue (level + 1) item ++ prettyItems level rest
  | .object [] => ['\x7b', '\x7d']
  | .object ((key, value) :: rest) =>
    '\x7b' :: newLine (level + 1) ++ printString key ++ ':' :: ' ' ::
      prettyValue (level + 1) value ++ prettyMembers level rest

def prettyItems (level : Nat) : List Value → List Char
  | [] => newLine level ++ [']']
  | item :: rest =>
    ',' :: newLine (level + 1) ++ prettyValue (level + 1) item ++ prettyItems level rest

def prettyMembers (level : Nat) : List (String × Value) → List Char
  | [] => newLine level ++ ['\x7d']
  | (key, value) :: rest =>
    ',' :: newLine (level + 1) ++ printString key ++ ':' :: ' ' ::
      prettyValue (level + 1) value ++ prettyMembers level rest
end

def Value.compact (value : Value) : String :=
  String.ofList (printValue value)

def Value.pretty (value : Value) : String :=
  String.ofList (prettyValue 0 value)

end RuntimeHandover.Json
