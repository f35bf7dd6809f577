import RuntimeHandover.Http.Message
import RuntimeHandover.Text.Blank

/-! What a client makes of an answer as it comes over the wire: its header fields line
by line, and its body, which may come in chunks. -/
namespace RuntimeHandover.Http
open Text

def isNameChar (c : Char) : Bool :=
  c.isAlphanum || "!#$%&'*+-.^_|~".toList.contains c || c = '\x60'

def isValueChar (c : Char) : Bool :=
  c = '\t' || (c.toNat ≥ 0x20 && c.toNat ≠ 0x7F)

def isPad (c : Char) : Bool := c = ' ' || c = '\t'

def afterLine? : List Char → Option (List Char)
  | '\r' :: '\n' :: rest => some rest
  | '\n' :: rest => some rest
  | _ => none

def writeFields (fields : List (String × String)) : List Char :=
  fields.flatMap (fun field => (field.1 ++ ": " ++ field.2 ++ "\r\n").toList) ++ ['\r', '\n']

def fieldsUpTo : Nat → List Char → Option (List (String × String) × List Char)
  | 0, _ => none
  | most + 1, text =>
    match afterLine? text with
    | some rest => some ([], rest)
    | none =>
      let name := text.takeWhile isNameChar
      match text.dropWhile isNameChar with
      | ':' :: rest => do
        if name.isEmpty then none
        let rest := rest.dropWhile isPad
        let value := ((rest.takeWhile isValueChar).reverse.dropWhile isPad).reverse
        let rest ← afterLine? (rest.dropWhile isValueChar)
        let (fields, body) ← fieldsUpTo most rest
        some ((String.ofList name, String.ofList value) :: fields, body)
      | _ => none

def readFields (text : List Char) : Option (List (String × String) × List Char) :=
  fieldsUpTo (text.length + 1) text

def valuesOf (name : String) (fields : List (String × String)) : List String :=
  (fields.filter fun field => field.1.toLower == name).map (·.2)

def lengths? (value : String) : Option (List Nat) :=
  (pieces (· == ',') value.toList).mapM fun piece =>
    let digits := trim piece
    if digits.isEmpty || !digits.all Char.isDigit then none
    else some (Nat.ofDigitChars 10 digits 0)

def carriageReturn : UInt8 := 13
def lineFeed : UInt8 := 10

def afterByteLine? : List UInt8 → Option (List UInt8)
  | [] => none
  | b :: rest =>
    if b = carriageReturn then
      match rest with
      | c :: rest => if c = lineFeed then some rest else none
      | [] => none
    else if b = lineFeed then none
    else afterByteLine? rest

def chunkSize? (bytes : List UInt8) : Option (Nat × List UInt8) := do
  let digits := bytes.takeWhile fun b => (Url.hexOf? b).isSome
  let rest := bytes.drop digits.length
  let pad (b : UInt8) : Bool := b = 32 || b = 9
  let next ← (rest.dropWhile pad).head?
  if digits.isEmpty ∨ !(next = carriageReturn ∨ next = 59) then none
  some (digits.foldl (fun n b => n * 16 + (Url.hexOf? b).getD 0) 0, ← afterByteLine? rest)

def endsChunks : Nat → List UInt8 → Bool
  | 0, _ => false
  | most + 1, bytes =>
    match bytes with
    | 13 :: 10 :: _ => true
    | bytes => ((afterByteLine? bytes).map (endsChunks most)).getD false

def chunksUpTo : Nat → List UInt8 → Option (List UInt8)
  | 0, _ => none
  | most + 1, bytes => do
    let (size, rest) ← chunkSize? bytes
    if size = 0 then
      if endsChunks (rest.length + 1) rest then some [] else none
    else if rest.length < size then none
    else match rest.drop size with
      | 13 :: 10 :: more => do some (rest.take size ++ (← chunksUpTo most more))
      | _ => none

def unchunk? (bytes : List UInt8) : Option (List UInt8) :=
  chunksUpTo (bytes.length + 1) bytes

/-- An answer as it counts: one that only announces another is none, nor is one whose
head cannot be read or that states two lengths. A body counts only where the status
allows one. -/
def received (answer : Answer) : Option Answer := do
  if answer.status < 100 ∨ answer.status > 999 ∨ isInterim answer.status then none
  let (headers, early) ← readFields (writeFields answer.headers)
  if isBodiless answer.status then some {answer with headers, body := some []}
  else
    let sent := answer.body.map (bytesOf (String.ofList early) ++ ·)
    match (valuesOf "transfer-encoding" headers).getLast? with
    | some coding =>
      let last := ((pieces (· == ',') coding.toList).getLast?.map trim).getD []
      let chunked := last.map Char.toLower = "chunked".toList
      some {answer with headers, body := if chunked then sent.bind unchunk? else sent}
    | none =>
      let stated ← (valuesOf "content-length" headers).mapM lengths?
      let length := (answer.body.map List.length).getD 0
      if stated.flatten.all (· = length) then
        some {answer with headers, body := sent.map (·.take length)}
      else none

end RuntimeHandover.Http
