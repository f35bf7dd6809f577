import RuntimeHandover.Text.Composed
import RuntimeHandover.Text.Direction
import RuntimeHandover.Text.Joining
import RuntimeHandover.Text.Printable
import RuntimeHandover.Text.Utf8
import RuntimeHandover.Url.Mapped
import RuntimeHandover.Url.Punycode

/-! Domains of any script, and their spelling in ASCII. A text in ASCII is its own, in
small letters; a label with other characters is coded after the mark `xn--`. -/
namespace RuntimeHandover.Url
open Text

def isAscii (c : Char) : Bool := c.toNat < 0x80

def isForbidden (c : Char) : Bool :=
  c.toNat ≤ 0x20 || c.toNat == 0x7F ||
    ['#', '%', '/', ':', '<', '>', '?', '@', '[', '\\', ']', '^', '|'].contains c

def excludedTable : List Stretch := stretches
  "2024-2026 2488-249b 2ff0-2fff 31ef 33c2 33c7 33d8 fe12 fe19 fe30 fe52 fffc-fffd 1f100"

def isJoiner (c : Char) : Bool := c == '\u200c' || c == '\u200d'

def mayStand (c : Char) : Bool :=
  if isAscii c then !isForbidden c
  else isJoiner c || (isPrintable c && !inTable excludedTable c)

def comparable (text : List Char) : List Char :=
  if text.all isAscii then text.map Char.toLower else composed (text.flatMap mapped)

/-- Text in ASCII is compared in small letters. -/
theorem comparable_of_isAscii (text : List Char) (ascii : text.all isAscii = true) :
    comparable text = text.map Char.toLower := by
  simp [comparable, ascii]

/-- No label begins with a mark, and joiners stand only where they have a meaning. -/
def isLabel (label : List Char) : Bool :=
  label.all mayStand && !(label.head?.any isMark) && joinersFit [] label &&
    (label.all isAscii || label.length ≤ 1000)

structure Label where
  written : List Char
  meant : List Char
  deriving DecidableEq, Repr

namespace Label

def codeMark : List Char := ['x', 'n', '-', '-']

/-- A label that says it is coded has to hold one that needs to be, in the form in which
it is compared. -/
def ofCode? (code : List Char) : Option Label := do
  if code.isEmpty ∨ code.getLast? = some '-' ∨ code.length > 2000 then none
  let meant ← Punycode.decode? code
  if isLabel meant ∧ comparable meant = meant ∧ !meant.all isAscii then
    some ⟨codeMark ++ code, meant⟩
  else none

def ofText? (text : List Char) : Option Label :=
  if codeMark.isPrefixOf text then ofCode? (text.drop 4)
  else if !isLabel text then none
  else if text.all isAscii then some ⟨text, text⟩
  else some ⟨codeMark ++ Punycode.encode text, text⟩

end Label

def asciiDomain? (bytes : List UInt8) : Option (List Char) := do
  let text ← Utf8.decode? bytes
  let labels ← (pieces (· == '.') (comparable text)).mapM Label.ofText?
  let turned := labels.any fun label => label.meant.any turns
  if turned ∧ !labels.all fun label => keepsDirection label.meant then none
  some (['.'].intercalate (labels.map Label.written))

end RuntimeHandover.Url
