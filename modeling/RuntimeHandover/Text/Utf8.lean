/-! Text as bytes. Every byte string reads as a list of symbols: characters, and
the longest starts of a character that no byte string of text could go on from. -/
namespace RuntimeHandover.Text

inductive Symbol where
  | char (c : Char)
  /-- One to three bytes that begin a character and are not continued by what
  follows; `cut` when nothing follows. -/
  | stray (bytes : List UInt8) (cut : Bool)
  deriving DecidableEq, Repr

namespace Symbol

def width : Symbol → Nat
  | .char c => c.utf8Size
  | .stray bytes _ => bytes.length

def shown : Symbol → Char
  | .char c => c
  | .stray _ _ => '\uFFFD'

def char? : Symbol → Option Char
  | .char c => some c
  | .stray _ _ => none

end Symbol

namespace Utf8

/-- What a character's first byte asks for: the payload bits it holds, how many
bytes follow, and the range of the next one. -/
structure Lead where
  payload : Nat
  following : Nat
  low : UInt8
  high : UInt8

def lead? (b : UInt8) : Option Lead :=
  if b < 0xC2 then none
  else if b < 0xE0 then some ⟨b.toNat - 0xC0, 1, 0x80, 0xBF⟩
  else if b = 0xE0 then some ⟨0, 2, 0xA0, 0xBF⟩
  else if b = 0xED then some ⟨0xD, 2, 0x80, 0x9F⟩
  else if b < 0xF0 then some ⟨b.toNat - 0xE0, 2, 0x80, 0xBF⟩
  else if b = 0xF0 then some ⟨0, 3, 0x90, 0xBF⟩
  else if b < 0xF4 then some ⟨b.toNat - 0xF0, 3, 0x80, 0xBF⟩
  else if b = 0xF4 then some ⟨4, 3, 0x80, 0x8F⟩
  else none

/-- Continues the character that `seen` begins: its value so far, how many bytes
are still to come and the range of the next. Gives the symbol and how many of
the bytes it takes. -/
def continued (seen : List UInt8) (value : Nat) : Nat → UInt8 → UInt8 → List UInt8 → Symbol × Nat
  | 0, _, _, _ => (.char (Char.ofNat value), 0)
  | _ + 1, _, _, [] => (.stray seen true, 0)
  | following + 1, low, high, b :: rest =>
    if low ≤ b ∧ b ≤ high then
      let (symbol, taken) :=
        continued (seen ++ [b]) (value * 64 + (b.toNat - 0x80)) following 0x80 0xBF rest
      (symbol, taken + 1)
    else (.stray seen false, 0)

def firstSymbol (b : UInt8) (rest : List UInt8) : Symbol × Nat :=
  if b < 0x80 then (.char (Char.ofNat b.toNat), 0)
  else match lead? b with
    | none => (.stray [b] false, 0)
    | some lead => continued [b] lead.payload lead.following lead.low lead.high rest

def symbols : List UInt8 → List Symbol
  | [] => []
  | b :: rest =>
    let first := firstSymbol b rest
    first.1 :: symbols (rest.drop first.2)
termination_by bytes => bytes.length
decreasing_by simp only [List.length_drop, List.length_cons]; omega

def decode? (bytes : List UInt8) : Option (List Char) :=
  (symbols bytes).mapM Symbol.char?

def lossy (bytes : List UInt8) : List Char :=
  (symbols bytes).map Symbol.shown

def encode (text : List Char) : List UInt8 :=
  text.flatMap String.utf8EncodeChar

structure Flaw where
  index : Nat
  length : Nat
  cut : Bool
  deriving DecidableEq, Repr

def flawAfter (index : Nat) : List Symbol → Option Flaw
  | [] => none
  | .char c :: rest => flawAfter (index + c.utf8Size) rest
  | .stray bytes cut :: _ => some ⟨index, bytes.length, cut⟩

def flaw? (bytes : List UInt8) : Option Flaw :=
  flawAfter 0 (symbols bytes)

def Flaw.message (flaw : Flaw) : String :=
  if flaw.cut then s!"incomplete utf-8 byte sequence from index {flaw.index}"
  else s!"invalid utf-8 sequence of {flaw.length} bytes from index {flaw.index}"

end Utf8

def width : List Symbol → Nat
  | [] => 0
  | symbol :: rest => symbol.width + width rest

def symbolsOf (text : String) : List Symbol :=
  text.toList.map .char

def bytesOf (text : String) : List UInt8 :=
  Utf8.encode text.toList

def lossyText (bytes : List UInt8) : String :=
  String.ofList (Utf8.lossy bytes)

def decodeText? (bytes : List UInt8) : Option String :=
  (Utf8.decode? bytes).map String.ofList

end RuntimeHandover.Text
