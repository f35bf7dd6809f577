import RuntimeHandover.Text.Blank
import RuntimeHandover.Text.Hex

/-! Sets of code points, written as words of hexadecimal digits between blanks: `41` is
one code point, `41-5a` are all from the first to the last. -/
namespace RuntimeHandover.Text

structure Stretch where
  first : Nat
  last : Nat
  deriving DecidableEq, Repr

namespace Stretch

def holds (stretch : Stretch) (n : Nat) : Bool :=
  stretch.first ≤ n && n ≤ stretch.last

end Stretch

def Stretch.ofWord (word : List Char) : Stretch :=
  match pieces (· == '-') word with
  | [first, last] => ⟨hexNumber first, hexNumber last⟩
  | _ => ⟨hexNumber word, hexNumber word⟩

def stretches (table : String) : List Stretch :=
  (words table.toList).map Stretch.ofWord

def sides (word : List Char) : List Char × List Char :=
  (word.takeWhile (· ≠ '='), (word.dropWhile (· ≠ '=')).drop 1)

def inTable (table : List Stretch) (c : Char) : Bool :=
  table.any fun stretch => stretch.holds c.toNat

theorem inTable_eq_true_iff (table : List Stretch) (c : Char) :
    inTable table c = true ↔ ∃ s ∈ table, s.first ≤ c.toNat ∧ c.toNat ≤ s.last := by
  simp [inTable, Stretch.holds]

end RuntimeHandover.Text
