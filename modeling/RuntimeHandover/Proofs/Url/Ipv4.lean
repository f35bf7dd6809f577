import Mathlib
import RuntimeHandover.Proofs.Text.Utf8
import RuntimeHandover.Proofs.Text.Words
import RuntimeHandover.Url.Host

/-! An address of version 4 in dotted decimal, as the host of a URL. It is read as the number
that its four bytes make up, and written as it was. -/
namespace RuntimeHandover.Url
open Text

structure Octets where
  (a b c d : Fin 256)

namespace Octets

def address (octets : Octets) : Nat :=
  ((octets.a.val * 256 + octets.b.val) * 256 + octets.c.val) * 256 + octets.d.val

def text (octets : Octets) : String :=
  toString octets.a.val ++ "." ++ toString octets.b.val ++ "." ++ toString octets.c.val ++ "." ++
    toString octets.d.val

/-- The address is written with the same bytes. -/
theorem text_address (octets : Octets) : (Host.ipv4 octets.address).text = octets.text := by
  obtain ⟨⟨a, small_a⟩, ⟨b, small_b⟩, ⟨c, small_c⟩, ⟨d, small_d⟩⟩ := octets
  have first : (((a * 256 + b) * 256 + c) * 256 + d) / Nat.pow 2 24 % 256 = a := by
    change (((a * 256 + b) * 256 + c) * 256 + d) / 16777216 % 256 = a
    omega
  have second : (((a * 256 + b) * 256 + c) * 256 + d) / Nat.pow 2 16 % 256 = b := by
    change (((a * 256 + b) * 256 + c) * 256 + d) / 65536 % 256 = b
    omega
  have third : (((a * 256 + b) * 256 + c) * 256 + d) / Nat.pow 2 8 % 256 = c := by
    change (((a * 256 + b) * 256 + c) * 256 + d) / 256 % 256 = c
    omega
  have fourth : (((a * 256 + b) * 256 + c) * 256 + d) / Nat.pow 2 0 % 256 = d := by
    change (((a * 256 + b) * 256 + c) * 256 + d) / 1 % 256 = d
    omega
  simp only [Host.text, ipv4Text, address, List.map_cons, List.map_nil, first, second, third,
    fourth]
  rfl

end Octets

def octetText (n : Fin 256) : List Char := Nat.toDigits 10 n.val

private theorem octetText_digits (n : Fin 256) : ∀ c ∈ octetText n, c.isDigit = true :=
  fun _ inside => Nat.isDigit_of_mem_toDigits (by decide) (by decide) inside

private theorem ipv4Number?_octetText : ∀ n : Fin 256, ipv4Number? (octetText n) = some n.val := by
  decide +kernel

theorem Octets.toList_text (octets : Octets) : octets.text.toList =
    octetText octets.a ++ '.' :: (octetText octets.b ++ '.' :: (octetText octets.c ++ '.' ::
      octetText octets.d)) := by
  simp [text, octetText, String.toList_append, toString, Nat.toList_repr]

section digits

variable {c : Char} {digits : List Char}

theorem digit_range (digit : c.isDigit = true) : 0x30 ≤ c.toNat ∧ c.toNat ≤ 0x39 := by
  simpa [Char.isDigit, UInt32.le_iff_toNat_le] using digit

/-- A digit is none of the characters with a code of their own. -/
theorem ne_of_digit (digit : c.isDigit = true) {other : Char}
    (apart : other.toNat < 0x30 ∨ 0x39 < other.toNat) : c ≠ other := by
  rintro rfl
  have range := digit_range digit
  omega

private theorem isAscii_of_digit (digit : c.isDigit = true) : isAscii c = true := by
  have range := digit_range digit
  simp [isAscii]
  omega

private theorem isForbidden_of_digit (digit : c.isDigit = true) : isForbidden c = false := by
  have range := digit_range digit
  have away {other : Char} (apart : other.toNat < 0x30 ∨ 0x39 < other.toNat) :=
    ne_of_digit digit apart
  simp [isForbidden, away]
  omega

private theorem joinersFit_digits (all : ∀ c ∈ digits, c.isDigit = true) (before : List Char) :
    joinersFit before digits = true := by
  induction digits generalizing before with
  | nil => rfl
  | cons c digits ih =>
    obtain ⟨first, rest⟩ := List.forall_mem_cons.mp all
    have narrow : c ≠ '\u200c' := ne_of_digit first (by decide)
    have wide : c ≠ '\u200d' := ne_of_digit first (by decide)
    simp [joinersFit, narrow, wide, ih rest]

/-- Digits are a label that means itself. -/
private theorem ofText?_digits (all : ∀ c ∈ digits, c.isDigit = true) :
    Label.ofText? digits = some ⟨digits, digits⟩ := by
  have uncoded : Label.codeMark.isPrefixOf digits = false := by
    cases digits with
    | nil => rfl
    | cons c digits =>
      have other : c ≠ 'x' := ne_of_digit (all c List.mem_cons_self) (by decide)
      simp [Label.codeMark, List.isPrefixOf, Ne.symm other]
  have ascii : digits.all isAscii = true :=
    List.all_eq_true.mpr fun c inside => isAscii_of_digit (all c inside)
  have unmarked : digits.head?.any isMark = false := by
    cases digits with
    | nil => rfl
    | cons c digits =>
      have range := digit_range (all c List.mem_cons_self)
      exact isMark_of_lt c (by omega)
  have stand : digits.all mayStand = true := by
    refine List.all_eq_true.mpr fun c inside => ?_
    simp [mayStand, isAscii_of_digit (all c inside), isForbidden_of_digit (all c inside)]
  simp [Label.ofText?, uncoded, isLabel, stand, unmarked, joinersFit_digits all, ascii]

end digits

/-- Bytes without a percent sign stand for themselves. -/
private theorem percentDecode_plain {bytes : List UInt8} (plain : (0x25 : UInt8) ∉ bytes) :
    percentDecode bytes = bytes := by
  fun_induction percentDecode bytes with
  | case1 => simp at plain
  | case2 => simp at plain
  | case3 b rest _ ih => rw [ih fun inside => plain (List.mem_cons_of_mem b inside)]
  | case4 => rfl

section dotted

variable (octets : Octets)

def Octets.parts : List (List Char) :=
  [octetText octets.a, octetText octets.b, octetText octets.c, octetText octets.d]

private theorem Octets.digits_of_part {part : List Char} (inside : part ∈ octets.parts) :
    ∀ c ∈ part, c.isDigit = true := by
  simp only [parts, List.mem_cons, List.not_mem_nil, or_false] at inside
  rcases inside with rfl | rfl | rfl | rfl
  all_goals exact octetText_digits _

theorem Octets.mem_text {c : Char} (inside : c ∈ octets.text.toList) :
    c.isDigit = true ∨ c = '.' := by
  rw [toList_text] at inside
  simp only [List.mem_append, List.mem_cons] at inside
  have digit := octetText_digits
  grind

private theorem Octets.pieces_text : pieces (· == '.') octets.text.toList = octets.parts := by
  have whole (n : Fin 256) : pieces (· == '.') (octetText n) = [octetText n] := by
    apply pieces_single
    intro c inside
    exact beq_eq_false_iff_ne.mpr (ne_of_digit (octetText_digits n c inside) (by decide))
  have cut (first second : List Char) : pieces (· == '.') (first ++ '.' :: second) =
      pieces (· == '.') first ++ pieces (· == '.') second := pieces_append rfl first second
  rw [toList_text, cut, cut, cut]
  simp only [whole]
  rfl

private theorem Octets.low_text {c : Char} (inside : c ∈ octets.text.toList) : c.toNat ≤ 0x39 := by
  rcases octets.mem_text inside with digit | rfl
  · exact (digit_range digit).2
  · decide

private theorem toLower_of_low {c : Char} (low : c.toNat ≤ 0x39) : c.toLower = c := by
  apply Char.toLower_eq_of_not_isUpper
  simp only [Char.isUpper, decide_eq_true_eq, not_and, UInt32.le_iff_toNat_le, ge_iff_le]
  intro upper
  change 0x41 ≤ c.toNat at upper
  omega

private theorem intercalate_parts : ['.'].intercalate octets.parts = octets.text.toList := by
  rw [octets.toList_text]
  simp [Octets.parts, List.intercalate, List.intersperse]

private theorem asciiDomain?_text :
    asciiDomain? (percentDecode (Utf8.encode octets.text.toList)) = some octets.text.toList := by
  have unpercented : (0x25 : UInt8) ∉ Utf8.encode octets.text.toList := by
    intro inside
    obtain ⟨c, letter, among⟩ := List.mem_flatMap.mp inside
    have percent : c = '%' := Utf8.eq_of_mem_encodeChar rfl (by decide) among
    rcases octets.mem_text letter with digit | rfl
    · exact ne_of_digit digit (by decide) percent
    · cases percent
  have ascii : octets.text.toList.all isAscii = true := by
    refine List.all_eq_true.mpr fun c inside => ?_
    have low := octets.low_text inside
    simp [isAscii]
    omega
  have small : octets.text.toList.map Char.toLower = octets.text.toList := by
    refine (List.map_congr_left fun c inside => ?_).trans (List.map_id _)
    exact toLower_of_low (octets.low_text inside)
  have labels : octets.parts.mapM Label.ofText? =
      some (octets.parts.map fun part => ⟨part, part⟩) := by
    have label (n : Fin 256) := ofText?_digits (octetText_digits n)
    simp [Octets.parts, List.mapM_cons, label]
  have straight : (octets.parts.map fun part => (⟨part, part⟩ : Label)).any
      (fun label => label.meant.any turns) = false := by
    rw [List.any_map, List.any_eq_false]
    intro part inside turned
    obtain ⟨c, letter, turning⟩ := List.any_eq_true.mp turned
    have range := digit_range (octets.digits_of_part inside c letter)
    simp only [turns, Bool.and_eq_true, decide_eq_true_eq] at turning
    omega
  rw [percentDecode_plain unpercented]
  unfold asciiDomain?
  simp only [Utf8.decode?_eq_some_iff.mpr rfl, bind, Option.bind, comparable_of_isAscii _ ascii,
    small, octets.pieces_text, labels, straight]
  simp [List.map_map, Function.comp_def, intercalate_parts]

private theorem endsInNumber_text : endsInNumber octets.text.toList = true := by
  have digits : (octetText octets.d).all Char.isDigit = true :=
    List.all_eq_true.mpr (octetText_digits octets.d)
  have some_ : octetText octets.d ≠ [] := Nat.toDigits_ne_nil
  unfold endsInNumber
  dsimp only
  rw [octets.pieces_text]
  cases last : octetText octets.d with
  | nil => exact absurd last some_
  | cons c rest =>
    rw [last] at digits
    simp only [Octets.parts, last, List.reverse_cons, List.reverse_nil, List.nil_append,
      List.cons_append, digits]
    rfl

private theorem ipv4?_text : ipv4? octets.text.toList = some octets.address := by
  have numbers : octets.parts.mapM ipv4Number? =
      some [octets.a.val, octets.b.val, octets.c.val, octets.d.val] := by
    simp [Octets.parts, List.mapM_cons, ipv4Number?_octetText]
  have whole : (octets.parts.getLast? == some []) = false := by
    have some_ : octetText octets.d ≠ [] := Nat.toDigits_ne_nil
    simp [Octets.parts, some_]
  have fits : ¬ (octets.d.val ≥ Nat.pow 256 (4 - 3) ∨
      [octets.a.val, octets.b.val, octets.c.val].any (· > 255) = true) := by
    obtain ⟨⟨a, small_a⟩, ⟨b, small_b⟩, ⟨c, small_c⟩, ⟨d, small_d⟩⟩ := octets
    simp
    omega
  unfold ipv4?
  dsimp only
  rw [octets.pieces_text, whole]
  have four : ¬ octets.parts.length > 4 := by simp [Octets.parts]
  simp only [Bool.false_eq_true, if_false, numbers, bind, Option.bind, four]
  refine (if_neg fits).trans (congrArg some ?_)
  simp [Octets.address]
  omega

theorem specialHost_text : specialHost octets.text.toList = .ok (.ipv4 octets.address) := by
  have open_ : ∀ rest, octets.text.toList ≠ '[' :: rest := by
    intro rest same
    have low := octets.low_text (same ▸ List.mem_cons_self)
    revert low
    decide
  have some_ : octets.text.toList.isEmpty = false := by
    simp [Octets.toList_text]
  unfold specialHost
  split
  next rest bracket => exact absurd bracket (open_ rest)
  next =>
    simp [asciiDomain?_text, some_, endsInNumber_text, ipv4?_text]

end dotted

end RuntimeHandover.Url
