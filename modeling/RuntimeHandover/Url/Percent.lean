import RuntimeHandover.Text.Quoted
import RuntimeHandover.Text.Utf8

/-! Percent coding: which characters of a part of a URL stand for themselves. -/
namespace RuntimeHandover.Url
open Text

def inControlSet (c : Char) : Bool := c.toNat < 0x20 || c.toNat > 0x7E

def inFragmentSet (c : Char) : Bool :=
  inControlSet c || [' ', '"', '<', '>', '\x60'].contains c

def inQuerySet (c : Char) : Bool :=
  inControlSet c || [' ', '"', '#', '<', '>'].contains c

def inSpecialQuerySet (c : Char) : Bool := inQuerySet c || c = '\''

def inPathSet (c : Char) : Bool :=
  inFragmentSet c || ['#', '?', '\x7b', '\x7d'].contains c

def inUserSet (c : Char) : Bool :=
  inPathSet c || ['/', ':', ';', '=', '@', '[', '\\', ']', '^', '|'].contains c

def percentByte (b : UInt8) : List Char :=
  '%' :: [hexDigit (b.toNat / 16), hexDigit (b.toNat % 16)].map Char.toUpper

def percentChar (coded : Char → Bool) (c : Char) : List Char :=
  if coded c then (String.utf8EncodeChar c).flatMap percentByte else [c]

def percentEncode (coded : Char → Bool) (text : List Char) : List Char :=
  text.flatMap (percentChar coded)

def hexOf? (b : UInt8) : Option Nat := hexValue? (Char.ofNat b.toNat)

def percentDecode : List UInt8 → List UInt8
  | 0x25 :: a :: b :: rest =>
    match hexOf? a, hexOf? b with
    | some high, some low => UInt8.ofNat (16 * high + low) :: percentDecode rest
    | _, _ => 0x25 :: percentDecode (a :: b :: rest)
  | b :: rest => b :: percentDecode rest
  | [] => []

end RuntimeHandover.Url
