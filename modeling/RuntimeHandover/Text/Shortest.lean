/-! Floating-point numbers as text: the fewest decimal digits that read back as
the number, and of those the nearest. -/
namespace RuntimeHandover.Text

/-- A positive number `mantissa * 2 ^ exponent`; `closeBelow` when its lower
neighbour is half as far away as its upper one. -/
structure Binary where
  mantissa : Nat
  exponent : Int
  closeBelow : Bool

structure Decimal where
  digits : Nat
  exponent : Int
  deriving DecidableEq, Repr

namespace Binary

def hiddenBit : Nat := 0x10000000000000

def ofBits (bits : UInt64) : Binary :=
  let fraction : Nat := bits.toNat % hiddenBit
  let power : Nat := bits.toNat / hiddenBit % 2048
  if power = 0 then ⟨fraction, -1074, false⟩
  else ⟨hiddenBit + fraction, (power : Int) - 1075, fraction == 0 && power != 1⟩

def quarters (x : Binary) : Nat × Nat :=
  (4 * x.mantissa * Nat.pow 2 x.exponent.toNat, 4 * Nat.pow 2 (-x.exponent).toNat)

def magnitude (x : Binary) : Int :=
  let (above, below) := x.quarters
  if above ≥ below then ((Nat.toDigits 10 (above / below)).length : Int) - 1
  else
    let length := (Nat.toDigits 10 (below / above)).length
    if above * Nat.pow 10 (length - 1) ≥ below then 1 - (length : Int) else -(length : Int)

def onGrid (x : Binary) (exponent : Int) : Option Decimal :=
  let (above, below) := x.quarters
  let numerator := above * Nat.pow 10 (-exponent).toNat
  let denominator := below * Nat.pow 10 exponent.toNat
  let unit := Nat.pow 2 x.exponent.toNat * Nat.pow 10 (-exponent).toNat
  let even := x.mantissa % 2 = 0
  let within (distance gap : Nat) : Bool := distance < gap || (even && distance = gap)
  let floor := numerator / denominator
  let down := numerator - floor * denominator
  let up := (floor + 1) * denominator - numerator
  let downFits := within down (if x.closeBelow then unit else 2 * unit)
  let upFits := within up (2 * unit)
  if downFits && (!upFits || down < up || (down = up && floor % 2 = 0)) then
    some ⟨floor, exponent⟩
  else if upFits then some ⟨floor + 1, exponent⟩
  else none

/-- Seventeen digits always read back. -/
def shortest (x : Binary) : Decimal :=
  let magnitude := x.magnitude
  let grids := (List.range 17).map fun (digits : Nat) => magnitude - (digits : Int)
  (grids.findSome? x.onGrid).getD ⟨0, 0⟩

end Binary

/-- Positional from 10 ^ -5 to below 10 ^ 16, else with an exponent that has its
sign. -/
def Decimal.render (x : Decimal) : String :=
  let written := ((Nat.toDigits 10 x.digits).reverse.dropWhile (· == '0')).reverse
  let length := (Nat.toDigits 10 x.digits).length
  let power : Int := x.exponent + (length : Int) - 1
  if power < -5 || power > 15 then
    let mark := (if power < 0 then "-" else "+") ++ toString power.natAbs
    let mantissa := match written with
      | [] => ['0']
      | [d] => [d]
      | d :: rest => d :: '.' :: rest
    String.ofList mantissa ++ "e" ++ mark
  else if power < 0 then
    "0." ++ String.ofList (List.replicate (power.natAbs - 1) '0' ++ written)
  else
    let before := power.toNat + 1
    let whole := written.take before ++ List.replicate (before - written.length) '0'
    let part := written.drop before
    String.ofList whole ++ "." ++ (if part.isEmpty then "0" else String.ofList part)

def signBit : Nat := 0x8000000000000000

def floating (x : Float) : String :=
  let bits := x.toBits
  let sign := if bits.toNat / signBit = 1 then "-" else ""
  if bits.toNat % signBit = 0 then sign ++ "0.0"
  else sign ++ (Binary.ofBits bits).shortest.render

end RuntimeHandover.Text
