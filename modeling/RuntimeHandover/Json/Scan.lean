import RuntimeHandover.Json.Fault

/-! The tokens of JSON text: white space, words, strings and numbers. Each reader
takes the symbols from where reading stands and gives those that are left. -/
namespace RuntimeHandover.Json
open Text

abbrev Taken (α : Type) := α × List Symbol

def isSpace : Symbol → Bool
  | .char c => c = ' ' || c = '\n' || c = '\t' || c = '\r'
  | .stray _ _ => false

def skipSpace (input : List Symbol) : List Symbol :=
  input.dropWhile isSpace

def readWord : List Char → List Symbol → Except Stop (List Symbol)
  | [], input => .ok input
  | _ :: _, [] => .error (.here .endInValue [])
  | expected :: more, .char c :: rest =>
    if c = expected then readWord more rest else .error (.taken .expectedIdent (.char c :: rest))
  | _ :: _, symbol :: rest => .error (.taken .expectedIdent (symbol :: rest))

def hexFour (input : List Symbol) : Except Stop Nat :=
  if width (input.take 4) < 4 then .error (.here .endInString [])
  else match (input.take 4).mapM fun symbol => symbol.char?.bind hexValue? with
    | some digits => .ok (digits.foldl (fun n digit => 16 * n + digit) 0)
    | none => .error ⟨.invalidEscape, .within input 4⟩

def isLeading (n : Nat) : Bool := 0xD800 ≤ n && n ≤ 0xDBFF

def isTrailing (n : Nat) : Bool := 0xDC00 ≤ n && n ≤ 0xDFFF

def simpleEscape? (c : Char) : Option Char :=
  match c with
  | '"' => some '"'
  | '\\' => some '\\'
  | '/' => some '/'
  | 'b' => some '\x08'
  | 'f' => some '\x0c'
  | 'n' => some '\n'
  | 'r' => some '\r'
  | 't' => some '\t'
  | _ => none

def trailingSurrogate : List Symbol → Except Stop Nat
  | [] => .error (.here .endInString [])
  | .char '\\' :: [] => .error (.here .endInString [])
  | .char '\\' :: .char 'u' :: rest => do
    let n ← hexFour rest
    if isTrailing n then .ok n else .error (.here .loneSurrogate (rest.drop 4))
  | .char '\\' :: rest => .error (.taken .endOfHexEscape rest)
  | input => .error (.taken .endOfHexEscape input)

def readEscape : List Symbol → Except Stop (Char × Nat)
  | [] => .error (.here .endInString [])
  | .char 'u' :: rest => do
    let n ← hexFour rest
    if isTrailing n then .error (.here .loneSurrogate (rest.drop 4))
    else if isLeading n then do
      let low ← trailingSurrogate (rest.drop 4)
      .ok (Char.ofNat (0x10000 + (n - 0xD800) * 0x400 + (low - 0xDC00)), 11)
    else .ok (Char.ofNat n, 5)
  | .char c :: rest =>
    match simpleEscape? c with
    | some meant => .ok (meant, 1)
    | none => .error (.taken .invalidEscape (.char c :: rest))
  | input => .error (.taken .invalidEscape input)

def readPieces : List Symbol → Except Stop (Taken (List Symbol))
  | [] => .error (.here .endInString [])
  | .stray bytes cut :: rest =>
    match readPieces rest with
    | .error stop => .error stop
    | .ok (pieces, left) => .ok (.stray bytes cut :: pieces, left)
  | .char c :: rest =>
    if c = '"' then .ok ([], rest)
    else if c = '\\' then
      match readEscape rest with
      | .error stop => .error stop
      | .ok (meant, taken) =>
        match readPieces (rest.drop taken) with
        | .error stop => .error stop
        | .ok (pieces, left) => .ok (.char meant :: pieces, left)
    else if c.toNat < 32 then .error (.here .controlCharacter rest)
    else match readPieces rest with
      | .error stop => .error stop
      | .ok (pieces, left) => .ok (.char c :: pieces, left)
termination_by input => input.length
decreasing_by all_goals simp only [List.length_drop, List.length_cons]; omega

def unreadable (pieces : List Symbol) : Nat :=
  width (pieces.dropWhile fun piece => piece.char?.isSome)

/-- The rest of a string whose opening quote was read. Only at its end is it seen
whether it is text; the place of the fault is as far before the end as the first
stray byte is from the end of what the string stands for. -/
def readString (input : List Symbol) : Except Stop (Taken (List Char)) :=
  match readPieces input with
  | .error stop => .error stop
  | .ok (pieces, left) =>
    match pieces.mapM Symbol.char? with
    | some text => .ok (text, left)
    | none =>
      .error ⟨.invalidCodePoint, .within input (width input - width left - unreadable pieces)⟩

def digit? : Symbol → Option Char
  | .char c => if c.isDigit then some c else none
  | .stray _ _ => none

def readDigits : List Symbol → List Char × List Symbol
  | [] => ([], [])
  | symbol :: rest =>
    match digit? symbol with
    | none => ([], symbol :: rest)
    | some c =>
      let (digits, left) := readDigits rest
      (c :: digits, left)

def readExponent : List Symbol → Except Stop (Taken (List Char))
  | .char c :: rest =>
    if c = 'e' ∨ c = 'E' then
      let (sign, rest) := match rest with
        | .char '+' :: rest => ('+', rest)
        | .char '-' :: rest => ('-', rest)
        | rest => ('+', rest)
      match rest with
      | [] => .error (.here .endInValue [])
      | symbol :: _ =>
        if (digit? symbol).isSome then
          let (digits, left) := readDigits rest
          .ok ('e' :: sign :: digits, left)
        else .error (.taken .invalidNumber rest)
    else .ok ([], .char c :: rest)
  | input => .ok ([], input)

def readFraction : List Symbol → Except Stop (Taken (List Char))
  | .char '.' :: rest =>
    match readDigits rest with
    | ([], []) => .error (.next .endInValue [])
    | ([], left) => .error (.next .invalidNumber left)
    | (digits, left) => do
      let (exponent, left) ← readExponent left
      .ok ('.' :: digits ++ exponent, left)
  | input => readExponent input

def readMagnitude : List Symbol → Except Stop (Taken (List Char))
  | [] => .error (.here .endInValue [])
  | symbol :: rest =>
    match digit? symbol with
    | none => .error (.taken .invalidNumber (symbol :: rest))
    | some first =>
      let (digits, left) := readDigits rest
      if first = '0' ∧ digits ≠ [] then .error (.next .invalidNumber rest)
      else do
        let (fraction, left) ← readFraction left
        .ok (first :: digits ++ fraction, left)

/-- The text kept of a number: as written, and an exponent always has its sign. -/
def numberText (negative : Bool) (magnitude : List Char) : String :=
  String.ofList (if negative then '-' :: magnitude else magnitude)

def readNumber : List Symbol → Except Stop (Taken String)
  | .char '-' :: rest => do
    let (magnitude, left) ← readMagnitude rest
    .ok (numberText true magnitude, left)
  | input => do
    let (magnitude, left) ← readMagnitude input
    .ok (numberText false magnitude, left)

def startsNumber : Symbol → Bool
  | .char c => c = '-' || c.isDigit
  | .stray _ _ => false

def wholeNumber (text : List Char) : Except Fault String :=
  let input := text.map Symbol.char
  let fail (stop : Stop) : Except Fault String := .error (Fault.ofStop input stop)
  match input with
  | [] => fail (.next .endInValue [])
  | symbol :: rest =>
    if startsNumber symbol then
      match readNumber (symbol :: rest) with
      | .ok (number, []) => .ok number
      | .ok (_, left) => fail (.next .invalidNumber left)
      | .error ⟨cause, .ahead left⟩ =>
        fail (.next (if left.isEmpty then cause else .invalidNumber) left)
      | .error ⟨cause, .within left bytes⟩ =>
        if bytes < width left then fail ⟨.invalidNumber, .within left (bytes + 1)⟩
        else fail ⟨cause, .within left bytes⟩
      | .error stop => fail stop
    else fail (.next .invalidNumber (symbol :: rest))

end RuntimeHandover.Json
