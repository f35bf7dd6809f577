/-! Punycode: a label of any characters as letters and digits. -/
namespace RuntimeHandover.Url.Punycode

def adapt (delta count : Nat) (first : Bool) : Nat :=
  let delta := if first then delta / 700 else delta / 2
  let delta := delta + delta / count
  let rec shrink (fuel delta k : Nat) : Nat :=
    match fuel with
    | 0 => k
    | fuel + 1 =>
      if delta > 455 then shrink fuel (delta / 35) (k + 36) else k + 36 * delta / (delta + 38)
  shrink delta.log2.succ delta 0

def threshold (k bias : Nat) : Nat :=
  if k ≤ bias then 1 else if k ≥ bias + 26 then 26 else k - bias

def digit (n : Nat) : Char :=
  if n < 26 then Char.ofNat (97 + n) else Char.ofNat (22 + n)

def digit? (c : Char) : Option Nat :=
  if 'a' ≤ c ∧ c ≤ 'z' then some (c.toNat - 97)
  else if 'A' ≤ c ∧ c ≤ 'Z' then some (c.toNat - 65)
  else if '0' ≤ c ∧ c ≤ '9' then some (c.toNat - 22)
  else none

def writeNumber (fuel n k bias : Nat) : List Char :=
  match fuel with
  | 0 => []
  | fuel + 1 =>
    let t := threshold k bias
    if n < t then [digit n]
    else digit (t + (n - t) % (36 - t)) :: writeNumber fuel ((n - t) / (36 - t)) (k + 36) bias

structure Encoder where
  delta : Nat
  bias : Nat
  written : Nat
  output : List Char

def Encoder.round (basic least : Nat) (label : List Nat) (encoder : Encoder) : Encoder :=
  label.foldl (fun e c =>
    if c < least then {e with delta := e.delta + 1}
    else if c = least then
      { delta := 0
        bias := adapt e.delta (e.written + 1) (e.written = basic)
        written := e.written + 1
        output := e.output ++ writeNumber (e.delta.log2 + 2) e.delta 36 e.bias }
    else e) encoder

def encode (label : List Char) : List Char :=
  let codes := label.map Char.toNat
  let basic := label.filter fun c => c.toNat < 0x80
  let rounds := ((codes.filter (· ≥ 0x80)).mergeSort).eraseDups
  let start : Encoder := ⟨0, 72, basic.length, if basic.isEmpty then [] else basic ++ ['-']⟩
  (rounds.foldl (fun (pair : Nat × Encoder) least =>
    let (reached, e) := pair
    let e := {e with delta := e.delta + (least - reached) * (e.written + 1)}
    let e := e.round basic.length least codes
    (least + 1, {e with delta := e.delta + 1})) (0x80, start)).2.output

def fits (n : Nat) : Bool := n < 0x100000000

def readNumber (k bias weight value : Nat) : List Char → Option (Nat × List Char)
  | [] => none
  | c :: rest => do
    let d ← digit? c
    let value := value + d * weight
    let t := threshold k bias
    if !fits value then none
    else if d < t then some (value, rest)
    else if !fits (weight * (36 - t)) then none
    else readNumber (k + 36) bias (weight * (36 - t)) value rest

def decodeFrom (fuel code index bias : Nat) (output : List Char) (input : List Char) :
    Option (List Char) :=
  match fuel with
  | 0 => some output
  | fuel + 1 =>
    if input.isEmpty then some output
    else do
      let (place, rest) ← readNumber 36 bias 1 index input
      let count := output.length + 1
      let code := code + place / count
      if code > 0x10FFFF ∨ (0xD800 ≤ code ∧ code ≤ 0xDFFF) then none
      let slot := place % count
      let output := output.take slot ++ Char.ofNat code :: output.drop slot
      decodeFrom fuel code (slot + 1) (adapt (place - index) count (index = 0)) output rest

def decode? (label : List Char) : Option (List Char) :=
  let backward := label.reverse
  let tail := (backward.takeWhile (· ≠ '-')).reverse
  let basic := ((backward.dropWhile (· ≠ '-')).drop 1).reverse
  if basic.any fun c => c.toNat ≥ 0x80 then none
  else decodeFrom (tail.length + 1) 0x80 0 72 basic tail

end RuntimeHandover.Url.Punycode
