import RuntimeHandover.Text.Utf8

/-! Base 64: three bytes as four letters, the last ones filled up with `=`. Reading
accepts the filled form only, and only if the bits that are left over are zero. -/
namespace RuntimeHandover.Text.Base64

inductive Flaw where
  | letter (byte : UInt8) (offset : Nat)
  | lastLetter (byte : UInt8) (offset : Nat)
  | length (n : Nat)
  | filling
  deriving DecidableEq, Repr

def Flaw.message : Flaw → String
  | .letter byte offset => s!"Invalid symbol {byte}, offset {offset}."
  | .lastLetter byte offset => s!"Invalid last symbol {byte}, offset {offset}."
  | .length n => s!"Invalid input length: {n}"
  | .filling => "Invalid padding"

def alphabet : List UInt8 :=
  bytesOf "ABCDEFGHIJKLMNOPQRSTUVWXYZabcdefghijklmnopqrstuvwxyz0123456789+/"

def filler : UInt8 := 0x3D

def letter (n : Nat) : UInt8 := alphabet.getD (n % 64) filler

def encode : List UInt8 → List UInt8
  | [] => []
  | [a] =>
    let n := a.toNat * 16
    [letter (n / 64), letter n, filler, filler]
  | [a, b] =>
    let n := (a.toNat * 256 + b.toNat) * 4
    [letter (n / 4096), letter (n / 64), letter n, filler]
  | a :: b :: c :: rest =>
    let n := (a.toNat * 256 + b.toNat) * 256 + c.toNat
    letter (n / 262144) :: letter (n / 4096) :: letter (n / 64) :: letter n :: encode rest

def value? (byte : UInt8) : Option Nat := alphabet.idxOf? byte

def values (offset : Nat) : List UInt8 → Except Flaw (List Nat)
  | [] => .ok []
  | byte :: rest =>
    match value? byte with
    | none => .error (.letter byte offset)
    | some n => do .ok (n :: (← values (offset + 1) rest))

def decodeLast (offset : Nat) (group : List UInt8) : Except Flaw (List UInt8) := do
  let letters := group.takeWhile (· ≠ filler)
  let filling := group.drop letters.length
  let ns ← values offset letters
  if !filling.isEmpty ∧ (letters.length < 2 ∨ !filling.all (· = filler)) then
    .error (.letter filler (offset + letters.length))
  else match ns with
    | [a, b, c, d] =>
      let n := ((a * 64 + b) * 64 + c) * 64 + d
      .ok [UInt8.ofNat (n / 65536), UInt8.ofNat (n / 256), UInt8.ofNat n]
    | [a, b, c] =>
      let n := (a * 64 + b) * 64 + c
      if filling.length ≠ 1 then .error .filling
      else if n % 4 ≠ 0 then .error (.lastLetter (letters.getLast?.getD filler) (offset + 2))
      else .ok [UInt8.ofNat (n / 1024), UInt8.ofNat (n / 4)]
    | [a, b] =>
      let n := a * 64 + b
      if filling.length ≠ 2 then .error .filling
      else if n % 16 ≠ 0 then .error (.lastLetter (letters.getLast?.getD filler) (offset + 1))
      else .ok [UInt8.ofNat (n / 16)]
    | ns => .error (.length (offset + ns.length))

def decodeFrom (offset : Nat) : List UInt8 → Except Flaw (List UInt8)
  | a :: b :: c :: d :: e :: rest =>
    match values offset [a, b, c, d] with
    | .error flaw => .error flaw
    | .ok _ => do
      let first ← decodeLast offset [a, b, c, d]
      .ok (first ++ (← decodeFrom (offset + 4) (e :: rest)))
  | group => decodeLast offset group

def decode (text : List UInt8) : Except Flaw (List UInt8) :=
  match text.getLast? with
  | none => .ok []
  | some last =>
    if text.length % 4 = 1 ∧ last ≠ filler ∧ (value? last).isNone then
      .error (.letter last (text.length - 1))
    else decodeFrom 0 text

end RuntimeHandover.Text.Base64
