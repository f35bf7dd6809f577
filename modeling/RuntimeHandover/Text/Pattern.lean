import RuntimeHandover.Text.Alphanumeric
import RuntimeHandover.Text.Hex

/-! Regular expressions: whether a text is one. Classes of characters by their Unicode
properties, word boundaries and matching without regard to case are not known, and
counts of repetitions neither. -/
namespace RuntimeHandover.Text.Pattern

def hexChar? (count : Nat) (text : List Char) : Option (Char × List Char) := do
  let digits ← (text.take count).mapM hexValue?
  let n := digits.foldl (fun n digit => 16 * n + digit) 0
  if digits.length < count ∨ 0x10FFFF < n ∨ (0xD800 ≤ n ∧ n ≤ 0xDFFF) then none
  some (Char.ofNat n, text.drop count)

def escaped? : List Char → Option (Char × List Char)
  | [] => none
  | c :: rest =>
    match c with
    | 'x' => hexChar? 2 rest
    | 'u' => hexChar? 4 rest
    | 'U' => hexChar? 8 rest
    | 'a' => some ('\x07', rest)
    | 'f' => some ('\x0c', rest)
    | 't' => some ('\t', rest)
    | 'n' => some ('\n', rest)
    | 'r' => some ('\r', rest)
    | 'v' => some ('\x0b', rest)
    | c => if c.toNat < 0x80 && !c.isAlphanum && c ≠ '<' && c ≠ '>' then some (c, rest) else none

def member? : List Char → Option (Char × List Char)
  | [] => none
  | '\\' :: rest => escaped? rest
  | c :: rest => some (c, rest)

def asciiClasses : List String :=
  ["alnum", "alpha", "ascii", "blank", "cntrl", "digit", "graph", "lower", "print", "punct",
    "space", "upper", "word", "xdigit"]

def afterNamedClass? (text : List Char) : Option (List Char) :=
  match text with
  | '[' :: ':' :: rest =>
    let rest := if rest.head? = some '^' then rest.drop 1 else rest
    let name := rest.takeWhile (· ≠ ':')
    match rest.drop name.length with
    | ':' :: ']' :: rest => if asciiClasses.contains (String.ofList name) then some rest else none
    | _ => none
  | _ => none

/-- The inside of a class after its bracket: a sign that turns it round, dashes, and a
closing bracket that is meant as it stands. -/
def openClass (text : List Char) : List Char :=
  let text := if text.head? = some '^' then text.drop 1 else text
  if text.head? = some '-' then text.dropWhile (· = '-')
  else if text.head? = some ']' then text.drop 1
  else text

def afterClass? : Nat → Nat → List Char → Option (List Char)
  | 0, _, _ => none
  | _, 0, text => some text
  | fuel + 1, depth + 1, text =>
    match text with
    | [] => none
    | ']' :: rest => afterClass? fuel depth rest
    | '&' :: '&' :: rest | '-' :: '-' :: rest | '~' :: '~' :: rest => afterClass? fuel (depth + 1) rest
    | '[' :: rest =>
      match afterNamedClass? text with
      | some rest => afterClass? fuel (depth + 1) rest
      | none => afterClass? fuel (depth + 2) (openClass rest)
    | text => do
      let (low, rest) ← member? text
      match rest with
      | '-' :: c :: more =>
        if c = ']' ∨ c = '-' then afterClass? fuel (depth + 1) rest
        else
          let (high, rest) ← member? (c :: more)
          if high < low then none else afterClass? fuel (depth + 1) rest
      | rest => afterClass? fuel (depth + 1) rest

/-- What may be switched in a group; that case does not count cannot be. -/
def switches : List Char := ['m', 's', 'U', 'u', 'x', 'R']

def afterSwitches? (text : List Char) : Option (List Char) :=
  let said := text.takeWhile fun c => c ≠ ':' && c ≠ ')'
  let known := said.all fun c => c = '-' || switches.contains c
  if known ∧ said.Nodup ∧ said.getLast? ≠ some '-' then some (text.drop said.length) else none

def isNameStart (c : Char) : Bool := isAlphabetic c || c = '_'

def isNamePart (c : Char) : Bool := isAlphanumeric c || ['_', '.', '[', ']'].contains c

structure State where
  depth : Nat := 0
  names : List (List Char) := []
  operand : Bool := false

def openGroup? (state : State) (text : List Char) : Option (State × List Char) :=
  let inside := {state with depth := state.depth + 1, operand := false}
  let named (rest : List Char) : Option (State × List Char) :=
    let name := rest.takeWhile isNamePart
    match rest.drop name.length with
    | '>' :: rest =>
      if (name.head?.map isNameStart).getD false && !state.names.contains name then
        some ({inside with names := name :: state.names}, rest)
      else none
    | _ => none
  match text with
  | '?' :: 'P' :: '<' :: rest | '?' :: '<' :: rest => named rest
  | '?' :: rest => do
    let left ← afterSwitches? rest
    match left with
    | ':' :: left => some (inside, left)
    | ')' :: after => if left.length = rest.length then none else some ({state with operand := false}, after)
    | _ => none
  | rest => some (inside, rest)

def isPatternFrom : Nat → State → List Char → Bool
  | 0, _, _ => false
  | fuel + 1, state, text =>
    let one (rest : List Char) : Bool := isPatternFrom fuel {state with operand := true} rest
    match text with
    | [] => state.depth == 0
    | '(' :: rest =>
      match openGroup? state rest with
      | some (state, rest) => isPatternFrom fuel state rest
      | none => false
    | ')' :: rest =>
      state.depth != 0 && isPatternFrom fuel {state with depth := state.depth - 1, operand := true} rest
    | '|' :: rest => isPatternFrom fuel {state with operand := false} rest
    | '*' :: rest | '+' :: rest | '?' :: rest =>
      state.operand && one (if rest.head? = some '?' then rest.drop 1 else rest)
    | '\x7b' :: _ => false
    | '[' :: rest =>
      match afterClass? (2 * rest.length + 2) 1 (openClass rest) with
      | some rest => one rest
      | none => false
    | '\\' :: 'A' :: rest | '\\' :: 'z' :: rest => one rest
    | '\\' :: rest =>
      match escaped? rest with
      | some (_, rest) => one rest
      | none => false
    | _ :: rest => one rest

def isPattern (text : List Char) : Bool :=
  isPatternFrom (text.length + 1) {} text

end RuntimeHandover.Text.Pattern
