import RuntimeHandover.Json.Parser
import RuntimeHandover.Text.Shortest

/-! Numbers for a field of 64 bits. Other numbers than natural ones are read only
to say what was found. -/
namespace RuntimeHandover.Json
open Text

inductive MachineNumber where
  | natural (n : Nat)
  | negative (n : Nat)
  | floating (x : Float)

def largestExponent : Nat := 0x7FFFFFFF

/-- Adds digits to a significand as long as it fits 64 bits: the significand, how
many digits were added, and what is left. -/
def addDigits (significand : Nat) : List Symbol → Nat × Nat × List Symbol
  | [] => (significand, 0, [])
  | symbol :: rest =>
    match digit? symbol with
    | none => (significand, 0, symbol :: rest)
    | some c =>
      let more := significand * 10 + (c.toNat - 48)
      if more ≥ wordLimit then (significand, 0, symbol :: rest)
      else
        let (total, count, left) := addDigits more rest
        (total, count + 1, left)

def scaled (fuel : Nat) (x : Float) (exponent : Int) : Option Float :=
  match fuel with
  | 0 => some x
  | fuel + 1 =>
    if exponent.natAbs ≤ 308 then
      let power := Float.ofScientific 1 false exponent.natAbs
      if exponent ≥ 0 then
        let product := x * power
        if product.isInf then none else some product
      else some (x / power)
    else if x == 0.0 then some x
    else if exponent ≥ 0 then none
    else scaled fuel (x / Float.ofScientific 1 false 308) (exponent + 308)

def floatOf (negative : Bool) (significand : Nat) (exponent : Int) (left : List Symbol) :
    Except Stop (Taken MachineNumber) :=
  match scaled (exponent.natAbs + 1) (UInt64.ofNat significand).toFloat exponent with
  | none => .error (.here .numberOutOfRange left)
  | some x => .ok (.floating (if negative then -x else x), left)

/-- Adds digits to an exponent as long as it fits 32 bits; `none` when it does not,
with what is left after the digit that was too much. -/
def exponentDigits (exponent : Nat) : List Symbol → Option Nat × List Symbol
  | [] => (some exponent, [])
  | symbol :: rest =>
    match digit? symbol with
    | none => (some exponent, symbol :: rest)
    | some c =>
      let more := exponent * 10 + (c.toNat - 48)
      if more > largestExponent then (none, rest) else exponentDigits more rest

def machineExponent (negative : Bool) (significand : Nat) (exponent : Int)
    (input : List Symbol) : Except Stop (Taken MachineNumber) :=
  let (down, input) := match input with
    | .char '+' :: rest => (false, rest)
    | .char '-' :: rest => (true, rest)
    | rest => (false, rest)
  match input with
  | [] => .error (.here .endInValue [])
  | symbol :: _ =>
    if (digit? symbol).isNone then .error (.taken .invalidNumber input)
    else match exponentDigits 0 input with
      | (some n, left) =>
        floatOf negative significand (if down then exponent - n else exponent + n) left
      | (none, left) =>
        if significand ≠ 0 ∧ ¬ down then .error (.here .numberOutOfRange left)
        else .ok (.floating (if negative then -0.0 else 0.0), (readDigits left).2)

def isExponentMark : Symbol → Bool
  | .char c => c = 'e' || c = 'E'
  | .stray _ _ => false

def machineDecimals (negative : Bool) (significand : Nat) (exponent : Int)
    (input : List Symbol) : Except Stop (Taken MachineNumber) :=
  let (total, count, left) := addDigits significand input
  let dropped := (readDigits left).2
  if count = 0 ∧ dropped.length = left.length then
    .error (.next (if left.isEmpty then .endInValue else .invalidNumber) left)
  else
    let exponent := exponent - count
    match dropped with
    | symbol :: rest =>
      if isExponentMark symbol then machineExponent negative total exponent rest
      else floatOf negative total exponent dropped
    | [] => floatOf negative total exponent []

def machineRest (negative : Bool) (significand : Nat) (dropped : Nat) (left : List Symbol) :
    Except Stop (Taken MachineNumber) :=
  let plain : Except Stop (Taken MachineNumber) :=
    if dropped ≠ 0 then floatOf negative significand dropped left
    else if ¬ negative then .ok (.natural significand, left)
    else if significand = 0 ∨ significand > signedLimit then
      .ok (.floating (-(UInt64.ofNat significand).toFloat), left)
    else .ok (.negative significand, left)
  match left with
  | .char '.' :: rest => machineDecimals negative significand dropped rest
  | symbol :: rest =>
    if isExponentMark symbol then machineExponent negative significand dropped rest else plain
  | [] => plain

def machineMagnitude (negative : Bool) : List Symbol → Except Stop (Taken MachineNumber)
  | [] => .error (.here .endInValue [])
  | symbol :: rest =>
    match digit? symbol with
    | none => .error (.taken .invalidNumber (symbol :: rest))
    | some '0' =>
      if (rest.head?.bind digit?).isSome then .error (.next .invalidNumber rest)
      else machineRest negative 0 0 rest
    | some _ =>
      let (significand, _, left) := addDigits 0 (symbol :: rest)
      let (dropped, left) := readDigits left
      machineRest negative significand dropped.length left

def machineNumber : List Symbol → Except Stop (Taken MachineNumber)
  | .char '-' :: rest => machineMagnitude true rest
  | input => machineMagnitude false input

end RuntimeHandover.Json
