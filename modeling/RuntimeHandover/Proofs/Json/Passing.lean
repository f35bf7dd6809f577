import RuntimeHandover.Json.Skip
import RuntimeHandover.Proofs.Json.Written

/-! Which texts are passed over where nobody asked for a value. Any depth is, strings need only
have the shape of strings, and no key is looked at. -/
namespace RuntimeHandover.Json
open Text

inductive Quotable : List Char → Prop
  | nil : Quotable []
  | plain {c : Char} (quiet : c ≠ '"' ∧ c ≠ '\\' ∧ 32 ≤ c.toNat) {spelled : List Char}
      (later : Quotable spelled) : Quotable (c :: spelled)
  | short {e : Char} (named : (simpleEscape? e).isSome) {spelled : List Char}
      (later : Quotable spelled) : Quotable ('\\' :: e :: spelled)
  | unicode {digits : List Char} {n : Nat} (four : FourHex digits n) {spelled : List Char}
      (later : Quotable spelled) : Quotable ('\\' :: 'u' :: (digits ++ spelled))

structure Member.Keyable (member : Member) : Prop where
  lead : Blank member.lead
  quotable : Quotable member.quoted
  gap : Blank member.gap
  padded : member.item.Padded

/-- The texts that have the shape of a value. What items and members stand for does not count. -/
inductive Loose : List Char → Prop
  | null : Loose ['n', 'u', 'l', 'l']
  | yes : Loose ['t', 'r', 'u', 'e']
  | no : Loose ['f', 'a', 'l', 's', 'e']
  | number {spelled kept : List Char} (spells : SpellsNumber spelled kept) : Loose spelled
  | string {spelled : List Char} (quotable : Quotable spelled) : Loose ('"' :: (spelled ++ ['"']))
  | array {items : List Item} (padded : ∀ item ∈ items, item.Padded)
      (inner : ∀ item ∈ items, Loose item.text) {ending : List Char} (blank : Blank ending) :
      Loose ('[' :: (commaed true (items.map Item.spelled) ++ (ending ++ [']'])))
  | object {members : List Member} (keyable : ∀ member ∈ members, member.Keyable)
      (inner : ∀ member ∈ members, Loose member.item.text) {ending : List Char}
      (blank : Blank ending) :
      Loose ('\x7b' :: (commaed true (members.map Member.spelled) ++ (ending ++ ['\x7d'])))

private theorem Loose.starts {text : List Char} (loose : Loose text) : Starts text := by
  cases loose with
  | null => exact ⟨'n', _, rfl, by decide, by decide⟩
  | yes => exact ⟨'t', _, rfl, by decide, by decide⟩
  | no => exact ⟨'f', _, rfl, by decide, by decide⟩
  | number spells =>
    obtain ⟨c, more, same, starts⟩ := spells_startsNumber spells
    exact ⟨c, more, same, startsNumber_solid starts⟩
  | string quotable => exact ⟨'"', _, rfl, by decide, by decide⟩
  | array padded inner blank => exact ⟨'[', _, rfl, by decide, by decide⟩
  | object keyable inner blank => exact ⟨'\x7b', _, rfl, by decide, by decide⟩

section tokens

variable {rest : List Symbol}

private theorem skipString_plain {c : Char} (quiet : c ≠ '"' ∧ c ≠ '\\' ∧ 32 ≤ c.toNat)
    (rest : List Symbol) : skipString (.char c :: rest) = skipString rest := by
  rw [skipString.eq_def]
  dsimp only
  rw [if_neg quiet.1, if_neg quiet.2.1, if_neg (Nat.not_lt.mpr quiet.2.2)]

private theorem skipString_short {e : Char} (named : (simpleEscape? e).isSome)
    (rest : List Symbol) :
    skipString (.char '\\' :: .char e :: rest) = skipString rest := by
  have notHex : e ≠ 'u' := by
    rintro rfl
    exact absurd named (by decide)
  rw [skipString.eq_def]
  dsimp only
  rw [if_neg (by decide), if_pos rfl]
  split
  next same => cases same
  next same =>
    cases same
    exact absurd rfl notHex
  next same =>
    cases same
    rw [if_pos named]
  next other => exact absurd rfl (other e rest)

private theorem skipString_unicode {digits : List Char} {n : Nat} (four : FourHex digits n)
    (rest : List Symbol) :
    skipString (.char '\\' :: .char 'u' :: (chars digits ++ rest)) = skipString rest := by
  rw [skipString.eq_def]
  dsimp only
  rw [if_neg (by decide), if_pos rfl]
  simp only [hexFour_four four, drop_chars four.1]

private theorem skipString_quotable {spelled : List Char} (quotable : Quotable spelled)
    (rest : List Symbol) : skipString (chars spelled ++ .char '"' :: rest) = .ok rest := by
  induction quotable with
  | nil =>
    rw [skipString.eq_def]
    rfl
  | plain quiet later ih => exact (skipString_plain quiet _).trans ih
  | short named later ih => exact (skipString_short named _).trans ih
  | unicode four later ih =>
    simp only [chars, List.map_cons, List.map_append, List.cons_append, List.append_assoc] at ih ⊢
    exact (skipString_unicode four _).trans ih

private theorem skipExponent_spelled {spelled exponent : List Char}
    (scaled : SpellsExponent spelled exponent) (ends : Ends rest) :
    skipExponent (chars spelled ++ rest) = .ok rest := by
  cases scaled with
  | none =>
    change skipExponent rest = _
    unfold skipExponent
    split
    next c more =>
      obtain ⟨-, -, small, large⟩ := ends c more rfl
      rw [if_neg]
      exact fun either => either.elim small large
    next => rfl
  | @some mark marked written sign signed digits nonempty all =>
    have read := readDigits_all all ends.undigited
    cases digits with
    | nil => exact absurd rfl nonempty
    | cons d digits =>
      have first := all d List.mem_cons_self
      have digit := digit?_char first
      have unsigned : d ≠ '+' ∧ d ≠ '-' := by
        constructor
        all_goals
          rintro rfl
          cases first
      simp only [List.mem_cons, Prod.mk.injEq, List.not_mem_nil, or_false] at signed
      simp only [chars, List.map_cons, List.map_append, List.cons_append] at read ⊢
      obtain ⟨rfl, rfl⟩ | ⟨rfl, rfl⟩ | ⟨rfl, rfl⟩ := signed
      · simp [skipExponent, skipDigits, marked, unsigned, digit, read]
      · simp [skipExponent, skipDigits, marked, digit, read]
      · simp [skipExponent, skipDigits, marked, digit, read]

private theorem skipMagnitude_spelled {spelled magnitude : List Char}
    (sized : SpellsMagnitude spelled magnitude) (ends : Ends rest) :
    skipMagnitude (chars spelled ++ rest) = .ok rest := by
  cases sized with
  | @mk first digit digits all plain spelled fraction fractional =>
    have read := readDigits_all all (fraction_undigited fractional ends)
    have allowed : ¬ (first = '0' ∧ digits ≠ []) := fun both => both.2 (plain both.1)
    simp only [chars, List.map_cons, List.map_append, List.cons_append, List.append_assoc] at read ⊢
    rw [skipMagnitude, digit?_char digit]
    simp only [read, if_neg allowed]
    cases fractional with
    | none scaled =>
      have later := skipExponent_spelled scaled ends
      split
      next more same =>
        cases scaled with
        | none => exact absurd rfl (ends '.' more same).2.1
        | some marked =>
          cases same
          simp at marked
      next => exact later
    | @some digits nonempty all spelled exponent scaled =>
      have read := readDigits_all all (exponent_undigited scaled ends)
      have later := skipExponent_spelled scaled ends
      cases digits with
      | nil => exact absurd rfl nonempty
      | cons d digits =>
        simp only [chars, List.map_cons, List.map_append, List.cons_append, List.append_assoc]
          at read later ⊢
        simp [read, later]

end tokens

section steps

namespace Frame

def close : Frame → Char
  | .items => ']'
  | .members => '\x7d'

def enter (frame : Frame) (fuel : Nat) (outer : List Frame) (input : List Symbol) :
    Except Stop (List Symbol) :=
  match frame with
  | .items => skipSteps fuel .value (frame :: outer) input
  | .members => do skipSteps fuel .value (frame :: outer) (← skipKey input)

end Frame

variable {fuel : Nat} {frame : Frame} {outer : List Frame} {input rest : List Symbol}

private theorem skipSteps_comma (skipped : skipSpace input = .char ',' :: rest) :
    skipSteps (fuel + 1) (.inside true) (frame :: outer) input = frame.enter fuel outer rest := by
  rw [skipSteps]
  simp only [skipped, and_self, if_true]
  cases frame <;> rfl

private theorem skipSteps_close {comma : Bool}
    (skipped : skipSpace input = .char frame.close :: rest) :
    skipSteps (fuel + 1) (.inside comma) (frame :: outer) input =
      skipSteps fuel (.inside true) outer rest := by
  rw [skipSteps]
  cases frame <;> simp [skipped, Frame.close]

private theorem skipSteps_first {c : Char} (skipped : skipSpace input = .char c :: rest)
    (other : c ≠ frame.close) :
    skipSteps (fuel + 1) (.inside false) (frame :: outer) input =
      frame.enter fuel outer (.char c :: rest) := by
  rw [skipSteps]
  cases frame <;> simp_all [Frame.close, Frame.enter]

private theorem skipSteps_inside_blank {comma : Bool} {blank : List Char} (allBlank : Blank blank)
    (input : List Symbol) :
    skipSteps (fuel + 1) (.inside comma) (frame :: outer) (chars blank ++ input) =
      skipSteps (fuel + 1) (.inside comma) (frame :: outer) input := by
  rw [skipSteps, skipSteps, skipSpace_of_blank allBlank]

private theorem skipSteps_value_congr {other : List Symbol}
    (same : skipSpace input = skipSpace other) :
    skipSteps (fuel + 1) .value outer input = skipSteps (fuel + 1) .value outer other := by
  rw [skipSteps, skipSteps, same]

private theorem Frame.enter_congr {other : List Symbol} (same : skipSpace input = skipSpace other) :
    frame.enter (fuel + 1) outer input = frame.enter (fuel + 1) outer other := by
  cases frame with
  | items => exact skipSteps_value_congr same
  | members =>
    have keys : skipKey input = skipKey other := by
      rw [skipKey, skipKey, same]
    rw [Frame.enter, Frame.enter, keys]

end steps

section values

def Passed (text : List Char) : Prop :=
  ∀ outer rest, Ends rest → ∃ taken < 2 * text.length, ∀ fuel,
    skipSteps (fuel + taken) .value outer (chars text ++ rest) =
      skipSteps fuel (.inside true) outer rest

/-- A part of a container between its commas: where it is entered, and that it is passed over. -/
structure Entry (frame : Frame) (part : List Char) : Prop where
  opens : ∀ rest, ∃ c more, skipSpace (chars part ++ rest) = .char c :: more ∧
    isSpace (.char c) = false ∧ c ≠ frame.close
  passes : ∀ outer rest, Ends rest → ∃ taken < 2 * part.length, ∀ fuel,
    frame.enter (fuel + 1 + taken) outer (chars part ++ rest) =
      skipSteps (fuel + 1) (.inside true) (frame :: outer) rest

variable {frame : Frame} {outer : List Frame} {rest : List Symbol} {ending : List Char}

/-- One step for each part and one for the end, besides the steps in the parts. -/
private theorem skipSteps_parts {parts : List (List Char)}
    (entries : ∀ part ∈ parts, Entry frame part)
    (closing : Blank ending) (first : Bool) (outer : List Frame) (rest : List Symbol) :
    ∃ taken ≤ 2 * (commaed first parts).length, ∀ fuel,
      skipSteps (fuel + taken + 1) (.inside !first) (frame :: outer)
          (chars (commaed first parts) ++ (chars ending ++ .char frame.close :: rest)) =
        skipSteps fuel (.inside true) outer rest := by
  have solid : isSpace (.char frame.close) = false := by
    cases frame <;> rfl
  have unending : frame.close.isDigit = false ∧ frame.close ≠ '.' ∧ frame.close ≠ 'e' ∧
      frame.close ≠ 'E' := by
    cases frame <;> decide
  induction parts generalizing first with
  | nil =>
    refine ⟨0, Nat.zero_le _, ?_⟩
    intro fuel
    exact skipSteps_close (skip_to closing solid rest)
  | cons part parts ih =>
    obtain ⟨entry, entries⟩ := List.forall_mem_cons.mp entries
    obtain ⟨later, fewLater, passedLater⟩ := ih entries false
    let onward := chars (commaed false parts) ++ (chars ending ++ .char frame.close :: rest)
    have ends : Ends onward :=
      ends_commaed parts (ends_blank closing (ends_cons unending rest))
    obtain ⟨taken, few, passed⟩ := entry.passes outer onward ends
    obtain ⟨c, more, opens, cSolid, other⟩ := entry.opens onward
    refine ⟨later + 1 + taken, ?_, ?_⟩
    · simp only [commaed, List.length_append]
      omega
    intro fuel
    have entered : skipSteps (fuel + (later + 1 + taken) + 1) (.inside !first) (frame :: outer)
        (chars (commaed first (part :: parts)) ++ (chars ending ++ .char frame.close :: rest)) =
          frame.enter (fuel + later + 1 + taken) outer (chars part ++ onward) := by
      have split : chars (commaed first (part :: parts)) ++
            (chars ending ++ .char frame.close :: rest) =
          chars (if first then [] else [',']) ++ (chars part ++ onward) := by
        simp only [commaed, chars, List.map_append, List.append_assoc, onward]
      have sum : fuel + (later + 1 + taken) = fuel + later + taken + 1 := by omega
      have same : fuel + later + 1 + taken = fuel + later + taken + 1 := by omega
      rw [split, sum, same]
      cases first with
      | true =>
        refine (skipSteps_first opens other).trans ?_
        exact Frame.enter_congr ((skipSpace_of_not cSolid more).trans opens.symm)
      | false => exact skipSteps_comma (skipSpace_of_not rfl _)
    rw [entered, passed, ← passedLater fuel]
    rfl

private theorem passes_item {item : Item} (padded : item.Padded) (passed : Passed item.text)
    (frame : Frame) (outer : List Frame) (rest : List Symbol) (ends : Ends rest) :
    ∃ taken < 2 * item.spelled.length, ∀ fuel,
      skipSteps (fuel + 1 + taken) .value (frame :: outer) (chars item.spelled ++ rest) =
        skipSteps (fuel + 1) (.inside true) (frame :: outer) rest := by
  obtain ⟨taken, few, passes⟩ := passed (frame :: outer) (chars item.after ++ rest)
    (ends_blank padded.after ends)
  refine ⟨taken, ?_, ?_⟩
  · simp only [Item.spelled, List.length_append]
    omega
  intro fuel
  have led : skipSpace (chars item.spelled ++ rest) =
      skipSpace (chars item.text ++ (chars item.after ++ rest)) := by
    simp only [Item.spelled, chars, List.map_append, List.append_assoc]
    exact skipSpace_of_blank padded.before _
  have sum : fuel + 1 + taken = fuel + taken + 1 := by omega
  calc skipSteps (fuel + 1 + taken) .value (frame :: outer) (chars item.spelled ++ rest)
      = skipSteps (fuel + 1 + taken) .value (frame :: outer)
          (chars item.text ++ (chars item.after ++ rest)) := by
        rw [sum]
        exact skipSteps_value_congr led
    _ = skipSteps (fuel + 1) (.inside true) (frame :: outer) (chars item.after ++ rest) :=
        passes (fuel + 1)
    _ = skipSteps (fuel + 1) (.inside true) (frame :: outer) rest :=
        skipSteps_inside_blank padded.after rest

private theorem entry_item {item : Item} (padded : item.Padded) (starts : Starts item.text)
    (passed : Passed item.text) : Entry .items item.spelled := by
  constructor
  · obtain ⟨c, more, same, solid, other⟩ := starts
    intro rest
    have opens : skipSpace (chars item.spelled ++ rest) =
        .char c :: (chars more ++ (chars item.after ++ rest)) := by
      simp only [Item.spelled, same, chars, List.map_append, List.map_cons, List.append_assoc,
        List.cons_append]
      exact skip_to padded.before solid _
    exact ⟨c, _, opens, solid, other⟩
  · exact passes_item padded passed .items

private theorem entry_member {member : Member} (keyable : member.Keyable)
    (passed : Passed member.item.text) : Entry .members member.spelled := by
  have split (rest : List Symbol) : skipSpace (chars member.spelled ++ rest) =
      .char '"' :: (chars member.quoted ++ .char '"' ::
        (chars member.gap ++ .char ':' :: (chars member.item.spelled ++ rest))) := by
    simp only [Member.spelled, chars, List.map_append, List.map_cons, List.append_assoc,
      List.cons_append]
    exact skip_to keyable.lead rfl _
  constructor
  · intro rest
    exact ⟨'"', _, split rest, rfl, by decide⟩
  · intro outer rest ends
    obtain ⟨taken, few, passes⟩ := passes_item keyable.padded passed .members outer rest ends
    refine ⟨taken, ?_, ?_⟩
    · simp only [Member.spelled, List.length_append, List.length_cons]
      omega
    intro fuel
    have key : skipKey (chars member.spelled ++ rest) =
        .ok (chars member.item.spelled ++ rest) := by
      simp only [skipKey, split, skipString_quotable keyable.quotable, bind, Except.bind,
        readColon_gap keyable.gap]
    rw [Frame.enter, key]
    exact passes fuel

/-- A value without parts is passed over in one step. -/
private theorem passed_of_step {text : List Char} (nonempty : 0 < text.length)
    (step : ∀ outer rest, Ends rest → ∀ fuel,
      skipSteps (fuel + 1) .value outer (chars text ++ rest) =
        skipSteps fuel (.inside true) outer rest) : Passed text := by
  intro outer rest ends
  exact ⟨1, by omega, step outer rest ends⟩

private theorem passed_number {spelled kept : List Char} (spells : SpellsNumber spelled kept) :
    Passed spelled := by
  cases spells with
  | negative sized =>
    refine passed_of_step (Nat.succ_pos _) ?_
    intro outer rest ends fuel
    have read := skipMagnitude_spelled sized ends
    simp only [chars, List.map_cons, List.cons_append] at read ⊢
    rw [skipSteps, skipSpace_of_not rfl]
    simp only [read, bind, Except.bind]
  | positive sized =>
    obtain ⟨first, more, rfl, digit⟩ : ∃ c more, spelled = c :: more ∧ c.isDigit = true := by
      cases sized with
      | mk digit => exact ⟨_, _, rfl, digit⟩
    refine passed_of_step (Nat.succ_pos _) ?_
    intro outer rest ends fuel
    have read := skipMagnitude_spelled sized ends
    have starts : startsNumber (.char first) = true := by simp [startsNumber, digit]
    simp only [chars, List.map_cons, List.cons_append] at read ⊢
    rw [skipSteps, skipSpace_of_not (digit_starts digit).1]
    split
    next empty => cases empty
    iterate 7
      next letter =>
        cases letter
        cases digit
    next whole =>
      cases whole
      rw [if_pos starts, read]
      rfl

/-- A container is passed over in a step for each bracket and the steps for its parts. -/
private theorem passed_parts {frame : Frame} {parts : List (List Char)}
    (entries : ∀ part ∈ parts, Entry frame part) (closing : Blank ending) {opening : Char}
    (opens : ∀ fuel outer input, skipSteps (fuel + 1) .value outer (.char opening :: input) =
      skipSteps fuel (.inside false) (frame :: outer) input) :
    Passed (opening :: (commaed true parts ++ (ending ++ [frame.close]))) := by
  intro outer rest ends
  obtain ⟨taken, few, passes⟩ := skipSteps_parts entries closing true outer rest
  refine ⟨taken + 2, ?_, ?_⟩
  · simp only [List.length_cons, List.length_append, List.length_nil]
    omega
  intro fuel
  simp only [chars, List.map_cons, List.map_append, List.map_nil, List.cons_append,
    List.append_assoc, List.nil_append] at passes ⊢
  exact (opens _ _ _).trans (passes fuel)

private theorem Loose.passed {text : List Char} (loose : Loose text) : Passed text := by
  induction loose with
  | null => exact passed_of_step (Nat.succ_pos _) fun _ _ _ _ => rfl
  | yes => exact passed_of_step (Nat.succ_pos _) fun _ _ _ _ => rfl
  | no => exact passed_of_step (Nat.succ_pos _) fun _ _ _ _ => rfl
  | number spells => exact passed_number spells
  | @string spelled quotable =>
    refine passed_of_step (Nat.succ_pos _) ?_
    intro outer rest ends fuel
    have skipped := skipString_quotable quotable rest
    simp only [chars, List.map_cons, List.map_append, List.map_nil, List.append_assoc,
      List.cons_append, List.nil_append] at skipped ⊢
    rw [skipSteps, skipSpace_of_not rfl]
    simp only [skipped, bind, Except.bind]
  | array padded inner blank passed =>
    have opens (fuel : Nat) (outer : List Frame) (input : List Symbol) :
        skipSteps (fuel + 1) .value outer (.char '[' :: input) =
          skipSteps fuel (.inside false) (.items :: outer) input := rfl
    refine passed_parts (List.forall_mem_map.mpr ?_) blank opens
    intro item inside
    exact entry_item (padded item inside) (inner item inside).starts (passed item inside)
  | object keyable inner blank passed =>
    have opens (fuel : Nat) (outer : List Frame) (input : List Symbol) :
        skipSteps (fuel + 1) .value outer (.char '\x7b' :: input) =
          skipSteps fuel (.inside false) (.members :: outer) input := rfl
    refine passed_parts (List.forall_mem_map.mpr ?_) blank opens
    intro member inside
    exact entry_member (keyable member inside) (passed member inside)

/-- Whatever has the shape of a value is passed over up to its end. -/
theorem skipValue_loose {text before : List Char} (loose : Loose text) (leading : Blank before)
    (ends : Ends rest) : skipValue (chars before ++ (chars text ++ rest)) = .ok rest := by
  obtain ⟨taken, few, passes⟩ := loose.passed [] rest ends
  have size : text.length ≤ (chars before ++ (chars text ++ rest)).length := by
    simp only [List.length_append, chars, List.length_map]
    omega
  obtain ⟨fuel, enough⟩ := Nat.exists_eq_add_of_le' (by omega :
    taken + 1 ≤ 3 * (chars before ++ (chars text ++ rest)).length + 3)
  have sum : fuel + (taken + 1) = fuel + taken + 1 := rfl
  have same : fuel + taken + 1 = fuel + 1 + taken := by omega
  rw [skipValue, enough, sum, skipSteps_value_congr (skipSpace_of_blank leading _), same, passes]
  rfl

end values

end RuntimeHandover.Json
