/-! Spans of time in nanoseconds, shown in the largest unit that is not below one
and with as many decimals as they need. -/
namespace RuntimeHandover.Text

def milliseconds (n : Nat) : Nat := n * 1000000

def seconds (n : Nat) : Nat := n * 1000000000

def decimals (part places : Nat) : List Char :=
  let digits := Nat.toDigits 10 part
  let padded := List.replicate (places - digits.length) '0' ++ digits
  (padded.reverse.dropWhile (· == '0')).reverse

def inUnit (nanos unit places : Nat) (name : String) : String :=
  let whole := toString (nanos / unit)
  let part := nanos % unit
  if part = 0 then whole ++ name
  else whole ++ "." ++ String.ofList (decimals part places) ++ name

def duration (nanos : Nat) : String :=
  if nanos ≥ 1000000000 then inUnit nanos 1000000000 9 "s"
  else if nanos ≥ 1000000 then inUnit nanos 1000000 6 "ms"
  else if nanos ≥ 1000 then inUnit nanos 1000 3 "µs"
  else inUnit nanos 1 0 "ns"

end RuntimeHandover.Text
