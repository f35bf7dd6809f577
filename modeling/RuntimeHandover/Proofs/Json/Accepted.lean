import Mathlib.Data.List.Forall2
import RuntimeHandover.Json.Typed
import RuntimeHandover.Proofs.Json.Typed

/-! What the readers of values of known shape accept: texts, truth values, numbers, lists of
what a reader accepts, and null where it may stand for it. -/
namespace RuntimeHandover.Json
open Text

/-- The reader takes the text for a value, after any blanks and before what cannot go on with
it. -/
def AcceptsAs {α : Type} (read : Reader α) (depth : Nat) (text : List Char) (a : α) : Prop :=
  ∀ before rest, Blank before → Ends rest →
    read depth (chars before ++ (chars text ++ rest)) = .ok (a, rest)

variable {α : Type} {depth : Nat} {text : List Char} {rest : List Symbol}

theorem accepts_text {expected : String} {spelled text : List Char} (quotes : Quotes spelled text) :
    AcceptsAs (readText expected) depth ('"' :: (spelled ++ ['"'])) (String.ofList text) := by
  intro before rest leading _
  have read := readString_quotes quotes rest
  unfold readText
  simp only [chars, List.map_cons, List.map_append, List.map_nil, List.cons_append,
    List.append_assoc, List.nil_append] at read ⊢
  rw [skip_to leading rfl]
  simp only [read, bind, Except.bind]

theorem accepts_true : AcceptsAs readBool depth ['t', 'r', 'u', 'e'] true := by
  intro before rest leading _
  unfold readBool
  rw [skipSpace_of_blank leading]
  rfl

theorem accepts_false : AcceptsAs readBool depth ['f', 'a', 'l', 's', 'e'] false := by
  intro before rest leading _
  unfold readBool
  rw [skipSpace_of_blank leading]
  rfl

theorem accepts_null {read : Reader α} :
    AcceptsAs (readOption read) depth ['n', 'u', 'l', 'l'] none := by
  intro before rest leading _
  exact readOption_null (skipSpace_of_blank leading _)

theorem accepts_some {read : Reader α} {c : Char} {more : List Char} {a : α}
    (accepts : AcceptsAs read depth (c :: more) a) (solid : isSpace (.char c) = false)
    (other : c ≠ 'n') : AcceptsAs (readOption read) depth (c :: more) (some a) := by
  intro before rest leading ends
  have inner := accepts [] rest .nil ends
  have skipped : skipSpace (chars before ++ (chars (c :: more) ++ rest)) =
      .char c :: (chars more ++ rest) := skip_to leading solid _
  refine ok_of_toOption ((readOption_some skipped other).trans ?_)
  change ((read depth (chars [] ++ (chars (c :: more) ++ rest))).toOption.map _) = _
  rw [inner]
  rfl

section numbers

private theorem le_ofDigitChars (digits : List Char) (start : Nat) :
    start ≤ Nat.ofDigitChars 10 digits start := by
  induction digits generalizing start with
  | nil => exact Nat.le_refl start
  | cons c digits ih =>
    rw [Nat.ofDigitChars_cons]
    have later := ih (10 * start + (c.toNat - '0'.toNat))
    omega

/-- Digits are added as long as their number fits. -/
private theorem addDigits_all {digits : List Char} (all : AllDigits digits) (ended : Undigited rest)
    {start : Nat} (fits : Nat.ofDigitChars 10 digits start < wordLimit) :
    addDigits start (chars digits ++ rest) =
      (Nat.ofDigitChars 10 digits start, digits.length, rest) := by
  induction digits generalizing start with
  | nil =>
    cases rest with
    | nil => rfl
    | cons symbol more =>
      simp only [chars, List.map_nil, List.nil_append, addDigits, ended symbol more rfl]
      rfl
  | cons c digits ih =>
    obtain ⟨digit, all⟩ := List.forall_mem_cons.mp all
    have place : 10 * start + (c.toNat - '0'.toNat) = start * 10 + (c.toNat - 48) := by
      rw [Nat.mul_comm]
      rfl
    rw [Nat.ofDigitChars_cons, place] at fits ⊢
    have small : ¬ start * 10 + (c.toNat - 48) ≥ wordLimit := by
      have above := le_ofDigitChars digits (start * 10 + (c.toNat - 48))
      omega
    simp only [chars, List.map_cons, List.cons_append, addDigits, digit?_char digit, if_neg small]
    rw [ih all fits]
    rfl

/-- Only zero is written with a zero first. -/
private theorem toDigits_head {n : Nat} (some : 0 < n) :
    ∃ c more, Nat.toDigits 10 n = c :: more ∧ c ≠ '0' := by
  induction n using Nat.strongRecOn with
  | ind n ih =>
    by_cases small : n < 10
    · rw [Nat.toDigits_of_lt_base small]
      have digits : ∀ m < 10, 0 < m → m.digitChar ≠ '0' := by decide
      exact ⟨n.digitChar, [], rfl, digits n small some⟩
    · obtain ⟨c, more, same, other⟩ := ih (n / 10) (by omega) (by omega)
      rw [Nat.toDigits_of_base_le (by decide) (by omega), same]
      exact ⟨c, more ++ [(n % 10).digitChar], rfl, other⟩

private theorem toDigits_all (n : Nat) : AllDigits (Nat.toDigits 10 n) := fun _ inside =>
  Nat.isDigit_of_mem_toDigits (by decide) (by decide) inside

private theorem machineRest_ends (n : Nat) (ends : Ends rest) :
    machineRest false n 0 rest = .ok (.natural n, rest) := by
  unfold machineRest
  cases rest with
  | nil => rfl
  | cons symbol more =>
    cases symbol with
    | stray bytes cut => rfl
    | char c =>
      obtain ⟨-, point, small, large⟩ := ends c more rfl
      have unmarked : isExponentMark (.char c) = false := by simp [isExponentMark, small, large]
      dsimp only
      split
      next same =>
        cases same
        exact absurd rfl point
      next same =>
        cases same
        rw [unmarked]
        rfl
      next same => cases same

private theorem machineNumber_digits {n : Nat} (fits : n < wordLimit) (ends : Ends rest) :
    machineNumber (chars (Nat.toDigits 10 n) ++ rest) = .ok (.natural n, rest) := by
  have all := toDigits_all n
  have value : Nat.ofDigitChars 10 (Nat.toDigits 10 n) 0 = n := Nat.ofDigitChars_ten_toDigits
  have added := addDigits_all all ends.undigited (value.symm ▸ fits)
  rw [value] at added
  rcases Nat.eq_zero_or_pos n with rfl | some
  · have undigited : rest.head?.bind digit? = none := by
      cases rest with
      | nil => rfl
      | cons symbol more => exact ends.undigited symbol more rfl
    change machineMagnitude false (.char '0' :: rest) = _
    have digit : digit? (.char '0') = Option.some '0' := rfl
    simp only [machineMagnitude, digit, undigited]
    exact machineRest_ends 0 ends
  · obtain ⟨c, more, same, other⟩ := toDigits_head some
    rw [same] at all added ⊢
    have digit := all c List.mem_cons_self
    have unsigned : c ≠ '-' := by
      rintro rfl
      cases digit
    have none : readDigits rest = ([], rest) := by
      have read : readDigits (chars [] ++ rest) = ([], rest) :=
        readDigits_all (fun _ inside => absurd inside List.not_mem_nil) ends.undigited
      exact read
    simp only [chars, List.map_cons, List.cons_append] at added ⊢
    unfold machineNumber
    split
    next minus =>
      cases minus
      exact absurd rfl unsigned
    next =>
      unfold machineMagnitude
      dsimp only
      rw [digit?_char digit]
      split
      next absent => cases absent
      next zero =>
        cases zero
        exact absurd rfl other
      next =>
        rw [added]
        dsimp only
        rw [none]
        exact machineRest_ends n ends

theorem accepts_nat64 {n : Nat} (fits : n < wordLimit) :
    AcceptsAs readNat64 depth (toString n).toList n := by
  intro before rest leading ends
  have read := machineNumber_digits fits ends
  have spelled : (toString n).toList = Nat.toDigits 10 n := by
    rw [Nat.toString_eq_repr, Nat.toList_repr]
  have nonempty : Nat.toDigits 10 n ≠ [] := Nat.toDigits_ne_nil
  obtain ⟨c, more, same⟩ := List.exists_cons_of_ne_nil nonempty
  have digit : c.isDigit = true := toDigits_all n c (by simp [same])
  have starts : startsNumber (.char c) = true := by simp [startsNumber, digit]
  rw [spelled]
  rw [same] at read ⊢
  unfold readNat64
  simp only [chars, List.map_cons, List.cons_append] at read ⊢
  rw [skip_to leading (digit_starts digit).1]
  dsimp only
  rw [if_pos starts, read]
  rfl

end numbers

section lists

variable {read : Reader α} {ending : List Char}

private theorem readEach_accepted {items : List Item} {as : List α} {fuel : Nat} {blank : List Char}
    (padded : ∀ item ∈ items, item.Padded) (starts : ∀ item ∈ items, Starts item.text)
    (accepted : List.Forall₂ (fun (item : Item) a => AcceptsAs read depth item.text a) items as)
    (closing : Blank ending) (allBlank : Blank blank) (first : Bool) (enough : items.length < fuel)
    (rest : List Symbol) :
    readEach read depth fuel first (chars blank ++
        (chars (commaed first (items.map Item.spelled)) ++ (chars ending ++ .char ']' :: rest))) =
      .ok (as, .char ']' :: rest) := by
  obtain ⟨less, rfl⟩ : ∃ less, fuel = less + 1 := Nat.exists_eq_add_one.mpr (by omega)
  induction accepted generalizing first less blank with
  | nil =>
    rw [readEach, nextItem_blank allBlank]
    exact congrArg (· >>= _) (nextItem_end closing first)
  | @cons item a items as accepts accepted ih =>
    obtain ⟨headPadded, padded⟩ := List.forall_mem_cons.mp padded
    obtain ⟨headStarts, starts⟩ := List.forall_mem_cons.mp starts
    let onward := chars (commaed false (items.map Item.spelled)) ++
      (chars ending ++ .char ']' :: rest)
    have ends : Ends (chars item.after ++ onward) :=
      ends_blank headPadded.after (ends_commaed _ (ends_blank closing (ends_cons (by decide) _)))
    have read := accepts [] (chars item.after ++ onward) .nil ends
    rw [List.length_cons] at enough
    obtain ⟨fewer, rfl⟩ : ∃ fewer, less = fewer + 1 := Nat.exists_eq_add_one.mpr (by omega)
    have tail := ih padded starts headPadded.after false fewer (by omega)
    have split : chars (commaed first ((item :: items).map Item.spelled)) ++
          (chars ending ++ .char ']' :: rest) =
        chars ((if first then [] else [',']) ++ item.spelled) ++ onward := by
      simp only [List.map_cons, commaed, chars, List.map_append, List.append_assoc, onward]
    rw [split, readEach, nextItem_blank allBlank, nextItem_commaed headPadded headStarts first
      onward]
    simp only [chars, List.map_nil, List.nil_append, bind, Except.bind] at read ⊢
    rw [read]
    dsimp only
    rw [tail]

private theorem length_le_items {items : List Item} (starts : ∀ item ∈ items, Starts item.text)
    (first : Bool) : items.length ≤ (commaed first (items.map Item.spelled)).length := by
  induction items generalizing first with
  | nil => exact Nat.zero_le _
  | cons item items ih =>
    obtain ⟨headStarts, starts⟩ := List.forall_mem_cons.mp starts
    have some := starts_pos headStarts
    have later := ih starts false
    simp only [List.map_cons, commaed, Item.spelled, List.length_append, List.length_cons]
    omega

/-- A list is accepted when its items are. -/
theorem accepts_list {items : List Item} {as : List α} (padded : ∀ item ∈ items, item.Padded)
    (starts : ∀ item ∈ items, Starts item.text)
    (accepted :
      List.Forall₂ (fun (item : Item) a => AcceptsAs read (depth + 1) item.text a) items as)
    (closing : Blank ending) :
    AcceptsAs (readList read) (depth + 2)
      ('[' :: (commaed true (items.map Item.spelled) ++ (ending ++ [']']))) as := by
  intro before rest leading _
  let body := chars (commaed true (items.map Item.spelled)) ++ (chars ending ++ .char ']' :: rest)
  have size := length_le_items starts true
  have each := readEach_accepted padded starts accepted closing .nil true
    (by simp [steps, body]; omega : items.length < steps body) rest
  have shown : chars ('[' :: (commaed true (items.map Item.spelled) ++ (ending ++ [']']))) ++ rest =
      .char '[' :: body := by
    simp [body]
  unfold readList
  rw [shown, skip_to leading rfl]
  change (if depth + 2 ≤ 1 then _ else _) = _
  rw [if_neg (by omega)]
  change closed endItems (readEach read (depth + 1) (steps body) true (chars [] ++ body)) = _
  rw [each]
  rfl

end lists

end RuntimeHandover.Json
