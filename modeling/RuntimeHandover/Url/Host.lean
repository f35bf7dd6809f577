import RuntimeHandover.Text.Blank
import RuntimeHandover.Url.Basic
import RuntimeHandover.Url.Domain
import RuntimeHandover.Url.Percent

/-! The host of a URL: an address of version 4 in any of its spellings, one of
version 6 in brackets, or a domain. -/
namespace RuntimeHandover.Url
open Text

def digitsValue? (base : Nat) (digits : List Char) : Option Nat :=
  let value? (c : Char) : Option Nat := (hexValue? c).filter (· < base)
  if digits.all fun c => (value? c).isSome then
    some (digits.foldl (fun n c => n * base + (value? c).getD 0) 0)
  else none

/-- A number as it may stand between the dots of an address: decimal, octal after a
zero, hexadecimal after `0x`. A bare mark is zero. -/
def ipv4Number? (part : List Char) : Option Nat :=
  match part with
  | [] => none
  | '0' :: 'x' :: rest | '0' :: 'X' :: rest => digitsValue? 16 rest
  | '0' :: c :: rest => digitsValue? 8 (c :: rest)
  | digits => digitsValue? 10 digits

def endsInNumber (domain : List Char) : Bool :=
  let parts := (pieces (· == '.') domain).reverse
  let last? := match parts with
    | [] :: last :: _ => some last
    | [] :: _ => none
    | last :: _ => some last
    | [] => none
  match last? with
  | none => false
  | some last => (!last.isEmpty && last.all Char.isDigit) || (ipv4Number? last).isSome

/-- The last number fills all the bytes that the others leave. -/
def ipv4? (domain : List Char) : Option Nat := do
  let parts := pieces (· == '.') domain
  let parts := if parts.getLast? == some [] then parts.dropLast else parts
  if parts.length > 4 then none
  let numbers ← parts.mapM ipv4Number?
  let last ← numbers.getLast?
  let others := numbers.dropLast
  if last ≥ Nat.pow 256 (4 - others.length) ∨ others.any (· > 255) then none
  some (others.zipIdx.foldl (fun total (n, i) => total + n * Nat.pow 256 (3 - i)) last)

structure Ipv6State where
  pieces : List Nat
  gap : Option Nat

def Ipv6State.finish? (state : Ipv6State) : Option (List Nat) :=
  match state.gap with
  | none => if state.pieces.length = 8 then some state.pieces else none
  | some gap =>
    let zeros := 8 - state.pieces.length
    some (state.pieces.take gap ++ List.replicate zeros 0 ++ state.pieces.drop gap)

def decimalByte? (digits : List Char) : Option Nat :=
  match digits with
  | [] => none
  | ['0'] => some 0
  | '0' :: _ => none
  | digits => if digits.all Char.isDigit then (digitsValue? 10 digits).filter (· ≤ 255) else none

def ipv4Tail? (text : List Char) : Option (List Nat) := do
  match ← (pieces (· == '.') text).mapM decimalByte? with
  | [a, b, c, d] => some [a * 256 + b, c * 256 + d]
  | _ => none

/-- A double colon stands for at least one piece. -/
def ipv6Pieces? (fuel : Nat) (state : Ipv6State) (text : List Char) : Option (List Nat) :=
  match fuel with
  | 0 => none
  | fuel + 1 =>
    let used := state.pieces.length + (if state.gap.isSome then 1 else 0)
    match text with
    | [] => state.finish?
    | ':' :: rest =>
      if used ≥ 8 ∨ state.gap.isSome then none
      else ipv6Pieces? fuel {state with gap := some state.pieces.length} rest
    | text =>
      if used ≥ 8 then none
      else
        let digits := (text.take 4).takeWhile fun c => (hexValue? c).isSome
        let rest := text.drop digits.length
        let pieces := state.pieces ++ [(digitsValue? 16 digits).getD 0]
        match rest with
        | [] => Ipv6State.finish? {state with pieces}
        | '.' :: _ =>
          if digits.isEmpty ∨ used > 6 then none
          else do Ipv6State.finish? {state with pieces := state.pieces ++ (← ipv4Tail? text)}
        | ':' :: rest => if rest.isEmpty then none else ipv6Pieces? fuel {state with pieces} rest
        | _ => none

def ipv6? (text : List Char) : Option (List Nat) :=
  match text with
  | ':' :: ':' :: rest => ipv6Pieces? (rest.length + 1) ⟨[], some 0⟩ rest
  | ':' :: _ => none
  | text => if text.length < 2 then none else ipv6Pieces? (text.length + 1) ⟨[], none⟩ text

def specialHost (text : List Char) : Except Fault Host :=
  match text with
  | '[' :: rest =>
    if rest.getLast? = some ']' then
      match ipv6? rest.dropLast with
      | some pieces => .ok (.ipv6 pieces)
      | none => .error .invalidIpv6
    else .error .invalidIpv6
  | text =>
    match asciiDomain? (percentDecode (Utf8.encode text)) with
    | none => .error .invalidDomain
    | some domain =>
      if domain.isEmpty then .error .emptyHost
      else if endsInNumber domain then
        match ipv4? domain with
        | some address => .ok (.ipv4 address)
        | none => .error .invalidIpv4
      else .ok (.domain (String.ofList domain))

def plainHost (text : List Char) : Except Fault Host :=
  match text with
  | '[' :: _ => specialHost text
  | text =>
    let forbidden := ['\x00', ' ', '#', '/', ':', '<', '>', '?', '@', '[', '\\', ']', '^', '|']
    if text.any forbidden.contains then .error .invalidDomainCharacter
    else .ok (.domain (String.ofList (percentEncode inControlSet text)))

end RuntimeHandover.Url
