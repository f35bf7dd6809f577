import RuntimeHandover.Text.Blank

/-! Points in time as text: a date, a time of day and an offset, such as
`2024-02-29T12:00:00.5+01:00`. Blanks may stand before each part, one blank may
stand for the `T`, and a point in time has to lie within the years that can be told. -/
namespace RuntimeHandover.Text.Timestamp

inductive Fault where
  | outOfRange
  | impossible
  | invalid
  | tooShort
  | tooLong
  deriving DecidableEq, Repr

def Fault.message : Fault → String
  | .outOfRange => "input is out of range"
  | .impossible => "no possible date and time matching input"
  | .invalid => "input contains invalid characters"
  | .tooShort => "premature end of input"
  | .tooLong => "trailing input"

abbrev Part (α : Type) := α × List Char

structure Date where
  year : Int
  month : Nat
  day : Nat
  deriving DecidableEq, Repr

structure Time where
  hour : Nat
  minute : Nat
  second : Nat
  deriving DecidableEq, Repr

def lowestYear : Int := -262143
def highestYear : Int := 262142

def numberLimit : Nat := 0x8000000000000000

def yearLimit : Nat := 0x80000000

def number (most : Nat) (text : List Char) : Except Fault (Part Nat) :=
  match text with
  | [] => .error .tooShort
  | c :: _ =>
    if !c.isDigit then .error .invalid
    else
      let digits := (text.take most).takeWhile Char.isDigit
      let n := Nat.ofDigitChars 10 digits 0
      if n < numberLimit then .ok (n, text.drop digits.length) else .error .outOfRange

def within (low high : Nat) (text : List Char) : Except Fault (Part Nat) := do
  let (n, rest) ← number 2 (trimStart text)
  if low ≤ n ∧ n ≤ high then .ok (n, rest) else .error .outOfRange

def literal (c : Char) (text : List Char) : Except Fault (List Char) :=
  match trimStart text with
  | [] => .error .tooShort
  | d :: rest => if d = c then .ok rest else .error .invalid

def year (text : List Char) : Except Fault (Part Int) := do
  let text := trimStart text
  let (n, rest) ← match text with
    | '-' :: rest => signed (-1) rest.length rest
    | '+' :: rest => signed 1 rest.length rest
    | _ => signed 1 4 text
  if -(yearLimit : Int) ≤ n ∧ n < yearLimit then .ok (n, rest) else .error .outOfRange
where
  signed (sign : Int) (most : Nat) (text : List Char) : Except Fault (Part Int) := do
    let (n, rest) ← number most text
    .ok (sign * n, rest)

def date (text : List Char) : Except Fault (Part Date) := do
  let (year, text) ← year text
  let (month, text) ← within 1 12 (← literal '-' text)
  let (day, text) ← within 1 31 (← literal '-' text)
  .ok (⟨year, month, day⟩, text)

def fraction (text : List Char) : Except Fault (List Char) :=
  match text with
  | '.' :: rest =>
    match rest with
    | [] => .error .tooShort
    | c :: _ => if c.isDigit then .ok (rest.dropWhile Char.isDigit) else .error .invalid
  | text => .ok text

def time (text : List Char) : Except Fault (Part Time) := do
  let (hour, text) ← within 0 23 text
  let (minute, text) ← within 0 59 (← literal ':' text)
  let (second, text) ← within 0 60 (← literal ':' text)
  .ok (⟨hour, minute, second⟩, ← fraction text)

def twoDigits (text : List Char) : Except Fault (Part (Nat × Nat)) :=
  match text with
  | [] => .error .tooShort
  | [c] => .error (if c.utf8Size < 2 then .tooShort else .invalid)
  | a :: b :: rest =>
    if a.isDigit && b.isDigit then .ok ((a.toNat - 48, b.toNat - 48), rest) else .error .invalid

def offset (text : List Char) : Except Fault (Part Int) := do
  let zulu := (text.head?.map fun c => c = 'Z' || c = 'z').getD false
  if zulu then .ok (0, text.drop 1)
  else if (text.take 3).map Char.toUpper = ['U', 'T', 'C'] then .ok (0, text.drop 3)
  else
    let (sign, rest) ← match text with
      | [] => .error .tooShort
      | '+' :: rest => .ok ((1 : Int), rest)
      | '-' :: rest => .ok (-1, rest)
      | '−' :: rest => .ok (-1, rest)
      | _ => .error .invalid
    let ((h, h'), rest) ← twoDigits rest
    let rest := rest.dropWhile fun c => c = ':' || isBlank c
    let ((m, m'), rest) ← twoDigits rest
    if m > 5 then .error .outOfRange
    else .ok (sign * ((10 * h + h') * 3600 + (10 * m + m') * 60 : Nat), rest)

def daysIn (year : Int) (month : Nat) : Nat :=
  if month = 2 then
    if year % 4 = 0 ∧ (year % 100 ≠ 0 ∨ year % 400 = 0) then 29 else 28
  else if month = 4 ∨ month = 6 ∨ month = 9 ∨ month = 11 then 30
  else 31

def dayLength : Int := 86400

def check (date : Date) (time : Time) (offset : Int) : Except Fault Unit := do
  if date.year < lowestYear ∨ highestYear < date.year ∨ daysIn date.year date.month < date.day then
    .error .outOfRange
  if offset.natAbs ≥ dayLength.natAbs then .error .outOfRange
  let second : Int := (time.hour * 3600 + time.minute * 60 + min time.second 59 : Nat)
  let second := second - offset
  if second < 0 ∧ date = ⟨lowestYear, 1, 1⟩ then .error .impossible
  if second ≥ dayLength ∧ date = ⟨highestYear, 12, 31⟩ then .error .impossible

def read (text : List Char) : Except Fault Unit := do
  let (date, text) ← date text
  let text ← match text with
    | [] => .error .tooShort
    | c :: rest => if c = 'T' ∨ c = 't' ∨ c = ' ' then .ok rest else .error .invalid
  let (time, text) ← time text
  let (offset, text) ← offset (trimStart text)
  if !(trimStart text).isEmpty then .error .tooLong
  check date time offset

end RuntimeHandover.Text.Timestamp
