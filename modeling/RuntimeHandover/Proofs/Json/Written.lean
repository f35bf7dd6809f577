import RuntimeHandover.Json.Parser
import RuntimeHandover.Proofs.Json.Members
import RuntimeHandover.Proofs.Json.Tokens

/-! The texts that may be written for a value: with any blanks between tokens, any spelling of
strings and numbers, repeated keys, and as many levels as reading allows. Reading gives the value
from every one of them, whatever follows. -/
namespace RuntimeHandover.Json
open Text

def Blank (text : List Char) : Prop := ∀ c ∈ text, isSpace (.char c) = true

theorem Blank.nil : Blank [] := by
  intro c inside
  cases inside

theorem Blank.append {blank more : List Char} (allBlank : Blank blank) (alsoBlank : Blank more) :
    Blank (blank ++ more) := by
  intro c inside
  exact (List.mem_append.mp inside).elim (allBlank c) (alsoBlank c)

structure Item where
  before : List Char
  text : List Char
  after : List Char
  value : Value

namespace Item

structure Padded (item : Item) : Prop where
  before : Blank item.before
  after : Blank item.after

def spelled (item : Item) : List Char := item.before ++ item.text ++ item.after

end Item

structure Member where
  lead : List Char
  quoted : List Char
  key : String
  gap : List Char
  item : Item

namespace Member

structure Keyed (member : Member) : Prop where
  lead : Blank member.lead
  quotes : Quotes member.quoted member.key.toList
  gap : Blank member.gap
  padded : member.item.Padded

def spelled (member : Member) : List Char :=
  member.lead ++ '"' :: (member.quoted ++ '"' :: (member.gap ++ ':' :: member.item.spelled))

def pair (member : Member) : String × Value := (member.key, member.item.value)

end Member

/-- Texts with a comma between every two of them, and before the first unless it is `first`. -/
def commaed (first : Bool) : List (List Char) → List Char
  | [] => []
  | text :: rest => (if first then [] else [',']) ++ text ++ commaed false rest

theorem length_le_commaed (first : Bool) (members : List Member) :
    members.length ≤ (commaed first (members.map Member.spelled)).length := by
  induction members generalizing first with
  | nil => exact Nat.zero_le _
  | cons member members ih =>
    have later := ih false
    simp only [List.map_cons, commaed, Member.spelled, List.length_append, List.length_cons]
    omega

inductive Written : Nat → List Char → Value → Prop
  | null {depth : Nat} : Written depth ['n', 'u', 'l', 'l'] .null
  | yes {depth : Nat} : Written depth ['t', 'r', 'u', 'e'] (.bool true)
  | no {depth : Nat} : Written depth ['f', 'a', 'l', 's', 'e'] (.bool false)
  | number {depth : Nat} {spelled kept : List Char} (spells : SpellsNumber spelled kept) :
      Written depth spelled (.number (String.ofList kept))
  | string {depth : Nat} {spelled text : List Char} (quotes : Quotes spelled text) :
      Written depth ('"' :: (spelled ++ ['"'])) (.string (String.ofList text))
  | array {depth : Nat} {items : List Item} (padded : ∀ item ∈ items, item.Padded)
      (inner : ∀ item ∈ items, Written (depth + 1) item.text item.value)
      {ending : List Char} (blank : Blank ending) :
      Written (depth + 2) ('[' :: (commaed true (items.map Item.spelled) ++ (ending ++ [']'])))
        (.array (items.map Item.value))
  | object {depth : Nat} {members : List Member} (keyed : ∀ member ∈ members, member.Keyed)
      (unmarked : (members.map Member.key).head? ≠ some numberMark)
      (inner : ∀ member ∈ members, Written (depth + 1) member.item.text member.item.value)
      {ending : List Char} (blank : Blank ending) :
      Written (depth + 2)
        ('\x7b' :: (commaed true (members.map Member.spelled) ++ (ending ++ ['\x7d'])))
        (.object (Members.ofList (members.map Member.pair)))
  | marked {depth : Nat} {member : Member} (keyed : member.Keyed) (mark : member.key = numberMark)
      {spelled text kept : List Char} (quotes : Quotes spelled text)
      (carried : member.item.text = '"' :: (spelled ++ ['"'])) (spells : SpellsNumber text kept) :
      Written (depth + 2) ('\x7b' :: (member.spelled ++ ['\x7d'])) (.number (String.ofList kept))

variable {rest : List Symbol}

section ends

theorem ends_cons {c : Char} (ended : c.isDigit = false ∧ c ≠ '.' ∧ c ≠ 'e' ∧ c ≠ 'E')
    (more : List Symbol) : Ends (.char c :: more) := by
  intro d left same
  cases same
  exact ended

theorem ends_nil : Ends [] := by
  intro c more same
  cases same

private theorem space_ends {c : Char} (space : isSpace (.char c) = true) :
    c.isDigit = false ∧ c ≠ '.' ∧ c ≠ 'e' ∧ c ≠ 'E' := by
  simp only [isSpace, Bool.or_eq_true, decide_eq_true_eq] at space
  obtain ((rfl | rfl) | rfl) | rfl := space
  all_goals decide

theorem ends_blank {blank : List Char} (allBlank : Blank blank) (ends : Ends rest) :
    Ends (chars blank ++ rest) := by
  cases blank with
  | nil => exact ends
  | cons c blank => exact ends_cons (space_ends (allBlank c List.mem_cons_self)) _

/-- What comes after an item begins with a comma, a blank or the end. -/
theorem ends_commaed (texts : List (List Char)) (ends : Ends rest) :
    Ends (chars (commaed false texts) ++ rest) := by
  cases texts with
  | nil => exact ends
  | cons text texts => exact ends_cons (by decide) _

end ends

section starts

def Starts (text : List Char) : Prop :=
  ∃ c more, text = c :: more ∧ isSpace (.char c) = false ∧ c ≠ ']'

theorem starts_pos {text : List Char} (starts : Starts text) : 0 < text.length := by
  obtain ⟨c, more, rfl, -⟩ := starts
  exact Nat.succ_pos _

theorem digit_starts {c : Char} (digit : c.isDigit = true) :
    isSpace (.char c) = false ∧ c ≠ ']' := by
  constructor
  · cases space : isSpace (.char c) with
    | false => rfl
    | true =>
      rw [(space_ends space).1] at digit
      cases digit
  · intro same
    rw [same] at digit
    cases digit

theorem spells_startsNumber {spelled kept : List Char} (number : SpellsNumber spelled kept) :
    ∃ c more, spelled = c :: more ∧ startsNumber (.char c) = true := by
  cases number with
  | positive sized =>
    cases sized with
    | mk digit all plain fractional => exact ⟨_, _, rfl, by simp [startsNumber, digit]⟩
  | negative sized => exact ⟨'-', _, rfl, rfl⟩

theorem startsNumber_solid {c : Char} (starts : startsNumber (.char c) = true) :
    isSpace (.char c) = false ∧ c ≠ ']' := by
  rcases Bool.or_eq_true_iff.mp starts with minus | digit
  · rw [of_decide_eq_true minus]
    exact ⟨rfl, by decide⟩
  · exact digit_starts digit

theorem Written.starts {depth : Nat} {text : List Char} {value : Value}
    (written : Written depth text value) : Starts text := by
  cases written with
  | null => exact ⟨'n', _, rfl, by decide, by decide⟩
  | yes => exact ⟨'t', _, rfl, by decide, by decide⟩
  | no => exact ⟨'f', _, rfl, by decide, by decide⟩
  | number spells =>
    obtain ⟨c, more, same, starts⟩ := spells_startsNumber spells
    exact ⟨c, more, same, startsNumber_solid starts⟩
  | string quotes => exact ⟨'"', _, rfl, by decide, by decide⟩
  | array padded inner blank => exact ⟨'[', _, rfl, by decide, by decide⟩
  | object keyed unmarked inner blank => exact ⟨'\x7b', _, rfl, by decide, by decide⟩
  | marked keyed mark quotes carried spells => exact ⟨'\x7b', _, rfl, by decide, by decide⟩

end starts

section next

variable {input more : List Symbol} {c : Char} {blank : List Char}

/-- Whatever stands before blanks, they are passed over up to the next character. -/
theorem skip_to (allBlank : Blank blank) (solid : isSpace (.char c) = false)
    (more : List Symbol) : skipSpace (chars blank ++ .char c :: more) = .char c :: more := by
  rw [skipSpace_of_blank allBlank]
  exact skipSpace_of_not solid more

theorem nextItem_first (skipped : skipSpace input = .char c :: more) (other : c ≠ ']') :
    nextItem true input = .ok (true, .char c :: more) := by
  unfold nextItem
  rw [skipped]
  split
  next same => cases same
  next same =>
    cases same
    exact absurd rfl other
  next same =>
    cases same
    rfl

private theorem nextItem_later (comma : skipSpace input = .char ',' :: rest)
    (skipped : skipSpace rest = .char c :: more) (other : c ≠ ']') :
    nextItem false input = .ok (true, .char c :: more) := by
  unfold nextItem
  rw [comma]
  split
  next same => cases same
  next same => cases same
  next same =>
    cases same
    rw [if_neg (by decide), if_pos rfl, skipped]
    split
    next same => cases same
    next same =>
      cases same
      exact absurd rfl other
    next => rfl

theorem nextItem_blank (allBlank : Blank blank) (first : Bool) (input : List Symbol) :
    nextItem first (chars blank ++ input) = nextItem first input := by
  unfold nextItem
  rw [skipSpace_of_blank allBlank]

theorem nextItem_end (allBlank : Blank blank) (first : Bool) :
    nextItem first (chars blank ++ .char ']' :: rest) = .ok (false, .char ']' :: rest) := by
  unfold nextItem
  rw [skip_to allBlank rfl]
  rfl

private theorem nextKey_first (skipped : skipSpace input = .char '"' :: more) :
    nextKey true input = nextKey.key more := by
  simp only [nextKey, skipped]
  rfl

private theorem nextKey_later (comma : skipSpace input = .char ',' :: rest)
    (skipped : skipSpace rest = .char '"' :: more) : nextKey false input = nextKey.key more := by
  unfold nextKey
  rw [comma]
  split
  next same => cases same
  next same => cases same
  next same =>
    cases same
    rw [if_neg (by decide), if_pos rfl, skipped]
    rfl

theorem nextKey_blank (allBlank : Blank blank) (first : Bool) (input : List Symbol) :
    nextKey first (chars blank ++ input) = nextKey first input := by
  unfold nextKey
  rw [skipSpace_of_blank allBlank]

theorem nextKey_end (allBlank : Blank blank) (first : Bool) :
    nextKey first (chars blank ++ .char '\x7d' :: rest) = .ok (none, .char '\x7d' :: rest) := by
  unfold nextKey
  rw [skip_to allBlank rfl]
  rfl

/-- An item stands behind a comma unless it is the first. -/
theorem nextItem_commaed {item : Item} (padded : item.Padded) (starts : Starts item.text)
    (first : Bool) (rest : List Symbol) :
    nextItem first (chars ((if first then [] else [',']) ++ item.spelled) ++ rest) =
      .ok (true, chars item.text ++ (chars item.after ++ rest)) := by
  obtain ⟨c, more, same, solid, other⟩ := starts
  have skipped : skipSpace (chars item.spelled ++ rest) =
      .char c :: (chars more ++ (chars item.after ++ rest)) := by
    simp only [Item.spelled, same, chars, List.map_append, List.map_cons, List.append_assoc,
      List.cons_append]
    exact skip_to padded.before solid _
  rw [same]
  cases first with
  | true => exact nextItem_first skipped other
  | false => exact nextItem_later (skipSpace_of_not rfl _) skipped other

theorem nextKey_commaed {member : Member} (keyed : member.Keyed) (first : Bool)
    (rest : List Symbol) :
    nextKey first (chars ((if first then [] else [',']) ++ member.spelled) ++ rest) =
      .ok (some member.key,
        chars member.gap ++ .char ':' :: (chars member.item.spelled ++ rest)) := by
  have skipped : skipSpace (chars member.spelled ++ rest) =
      .char '"' :: (chars member.quoted ++ .char '"' ::
        (chars member.gap ++ .char ':' :: (chars member.item.spelled ++ rest))) := by
    simp only [Member.spelled, chars, List.map_append, List.map_cons, List.append_assoc,
      List.cons_append]
    exact skip_to keyed.lead rfl _
  have read : nextKey.key (chars member.quoted ++ .char '"' ::
      (chars member.gap ++ .char ':' :: (chars member.item.spelled ++ rest))) =
        .ok (some member.key,
          chars member.gap ++ .char ':' :: (chars member.item.spelled ++ rest)) := by
    rw [nextKey.key, readString_quotes keyed.quotes]
    simp [bind, Except.bind]
  cases first with
  | true => exact (nextKey_first skipped).trans read
  | false => exact (nextKey_later (skipSpace_of_not rfl _) skipped).trans read

theorem readColon_gap (allBlank : Blank blank) (rest : List Symbol) :
    readColon (chars blank ++ .char ':' :: rest) = .ok rest := by
  unfold readColon
  rw [skip_to allBlank rfl]
  rfl

private theorem endMembers_blank (allBlank : Blank blank) (rest : List Symbol) :
    endMembers (chars blank ++ .char '\x7d' :: rest) = .ok rest := by
  unfold endMembers
  rw [skip_to allBlank rfl]
  rfl

end next

section heads

variable {marks : Bool} {fuel depth : Nat} {input left : List Symbol}

theorem readValue_blank {blank : List Char} (allBlank : Blank blank) (fuel depth : Nat)
    (input : List Symbol) :
    readValue marks (fuel + 1) depth (chars blank ++ input) =
      readValue marks (fuel + 1) depth input := by
  rw [readValue, readValue, skipSpace_of_blank allBlank]

private theorem readValue_number {c : Char} {more : List Symbol} {text : String}
    (starts : startsNumber (.char c) = true) (same : input = .char c :: more)
    (read : readNumber input = .ok (text, left)) :
    readValue marks (fuel + 1) depth input = .ok (.number text, left) := by
  rw [readValue, same, skipSpace_of_not (startsNumber_solid starts).1]
  split
  next empty => cases empty
  iterate 6
    next letter =>
      cases letter
      cases starts
  next symbol rest _ _ _ _ _ _ whole =>
    cases whole
    rw [if_pos starts, ← same, read]
    rfl

theorem readValue_array :
    readValue marks (fuel + 1) (depth + 2) (.char '[' :: input) = closed endItems (do
      let (items, left) ← readItems marks fuel (depth + 1) true input
      .ok (.array items, left)) := by
  rw [readValue, skipSpace_of_not rfl]
  rfl

theorem readValue_object
    (unmarked : ∀ left, nextKey true input ≠ .ok (some numberMark, left)) :
    readValue true (fuel + 1) (depth + 2) (.char '\x7b' :: input) = closed endMembers (do
      let (members, left) ← readMembers true (fuel + 1) (depth + 1) true input
      .ok (.object (Members.ofList members), left)) := by
  rw [readValue, skipSpace_of_not rfl, readMembers]
  change closed endMembers _ = closed endMembers _
  congr 1
  cases found : nextKey true input with
  | error stop => rfl
  | ok taken =>
    obtain ⟨key?, left⟩ := taken
    cases key? with
    | none => rfl
    | some key =>
      have other : key ≠ numberMark := by
        intro same
        rw [same] at found
        exact unmarked left found
      simp only [bind, Except.bind]
      cases readColon left with
      | error stop => rfl
      | ok left =>
        have level : depth + 2 - 1 = depth + 1 := rfl
        simp only [other, and_false, if_false, if_true, level]
        cases readValue true fuel (depth + 1) left with
        | error stop => rfl
        | ok taken =>
          obtain ⟨value, left⟩ := taken
          simp only
          cases readMembers true fuel (depth + 1) false left with
          | error stop => rfl
          | ok taken => rfl

private theorem readValue_marked {colon number : List Symbol} {text : String}
    (key : nextKey true input = .ok (some numberMark, colon))
    (coloned : readColon colon = .ok number) (read : markedNumber number = .ok (text, left)) :
    readValue true (fuel + 1) (depth + 2) (.char '\x7b' :: input) =
      closed endMembers (.ok (.number text, left)) := by
  rw [readValue, skipSpace_of_not rfl]
  simp only [key, coloned, read, bind, Except.bind]
  rfl

private theorem markedNumber_quotes {blank spelled text kept : List Char} (allBlank : Blank blank)
    (quotes : Quotes spelled text) (spells : SpellsNumber text kept) (rest : List Symbol) :
    markedNumber (chars blank ++ .char '"' :: (chars spelled ++ .char '"' :: rest)) =
      .ok (String.ofList kept, rest) := by
  have read := readNumber_spelled spells ends_nil
  rw [List.append_nil] at read
  have whole : wholeNumber text = .ok (String.ofList kept) := by
    obtain ⟨c, more, rfl, starts⟩ := spells_startsNumber spells
    simp only [chars, List.map_cons] at read
    simp only [wholeNumber, List.map_cons, starts, if_true, read]
  unfold markedNumber
  rw [skip_to allBlank rfl]
  simp only [readString_quotes quotes, whole]

end heads

section values

def Reads (marks : Bool) (depth : Nat) (text : List Char) (value : Value) : Prop :=
  ∀ fuel rest, text.length ≤ fuel → Ends rest →
    readValue marks fuel depth (chars text ++ rest) = .ok (value, rest)

variable {marks : Bool} {depth fuel : Nat} {blank ending : List Char}

theorem reads_of_step {text : List Char} {value : Value} (nonempty : text ≠ [])
    (read : ∀ fuel rest, text.length ≤ fuel + 1 → Ends rest →
      readValue marks (fuel + 1) depth (chars text ++ rest) = .ok (value, rest)) :
    Reads marks depth text value := by
  intro fuel rest enough ends
  cases fuel with
  | zero => exact absurd (List.length_eq_zero_iff.mp (Nat.le_zero.mp enough)) nonempty
  | succ fuel => exact read fuel rest enough ends

private theorem readItems_written {items : List Item} (padded : ∀ item ∈ items, item.Padded)
    (starts : ∀ item ∈ items, Starts item.text)
    (reads : ∀ item ∈ items, Reads marks depth item.text item.value) (closing : Blank ending)
    (allBlank : Blank blank) (first : Bool)
    (enough : (commaed first (items.map Item.spelled)).length < fuel) (rest : List Symbol) :
    readItems marks fuel depth first (chars blank ++
        (chars (commaed first (items.map Item.spelled)) ++ (chars ending ++ .char ']' :: rest))) =
      .ok (items.map Item.value, .char ']' :: rest) := by
  obtain ⟨less, rfl⟩ : ∃ less, fuel = less + 1 := Nat.exists_eq_add_one.mpr (by omega)
  induction items generalizing first less blank with
  | nil =>
    rw [readItems, nextItem_blank allBlank]
    exact congrArg (· >>= _) (nextItem_end closing first)
  | cons item items ih =>
    obtain ⟨headPadded, padded⟩ := List.forall_mem_cons.mp padded
    obtain ⟨headStarts, starts⟩ := List.forall_mem_cons.mp starts
    obtain ⟨headReads, reads⟩ := List.forall_mem_cons.mp reads
    have size := starts_pos headStarts
    simp only [List.map_cons, commaed, Item.spelled, List.length_append] at enough
    let onward := chars (commaed false (items.map Item.spelled)) ++
      (chars ending ++ .char ']' :: rest)
    have ends : Ends (chars item.after ++ onward) :=
      ends_blank headPadded.after (ends_commaed _ (ends_blank closing (ends_cons (by decide) _)))
    have head := headReads less (chars item.after ++ onward) (by omega) ends
    obtain ⟨fewer, rfl⟩ : ∃ fewer, less = fewer + 1 := Nat.exists_eq_add_one.mpr (by omega)
    have tail := ih padded starts reads headPadded.after false fewer (by omega)
    have split : chars (commaed first ((item :: items).map Item.spelled)) ++
          (chars ending ++ .char ']' :: rest) =
        chars ((if first then [] else [',']) ++ item.spelled) ++ onward := by
      simp only [List.map_cons, commaed, chars, List.map_append, List.append_assoc, onward]
    rw [split, readItems, nextItem_blank allBlank,
      nextItem_commaed headPadded headStarts first onward]
    simp only [bind, Except.bind, head]
    rw [tail]
    rfl

theorem readMembers_written {members : List Member} (keyed : ∀ member ∈ members, member.Keyed)
    (starts : ∀ member ∈ members, Starts member.item.text)
    (reads : ∀ member ∈ members, Reads marks depth member.item.text member.item.value)
    (closing : Blank ending) (allBlank : Blank blank) (first : Bool)
    (enough : (commaed first (members.map Member.spelled)).length < fuel) (rest : List Symbol) :
    readMembers marks fuel depth first (chars blank ++
        (chars (commaed first (members.map Member.spelled)) ++
          (chars ending ++ .char '\x7d' :: rest))) =
      .ok (members.map Member.pair, .char '\x7d' :: rest) := by
  obtain ⟨less, rfl⟩ : ∃ less, fuel = less + 1 := Nat.exists_eq_add_one.mpr (by omega)
  induction members generalizing first less blank with
  | nil =>
    rw [readMembers, nextKey_blank allBlank]
    exact congrArg (· >>= _) (nextKey_end closing first)
  | cons member members ih =>
    obtain ⟨headKeyed, keyed⟩ := List.forall_mem_cons.mp keyed
    obtain ⟨headStarts, starts⟩ := List.forall_mem_cons.mp starts
    obtain ⟨headReads, reads⟩ := List.forall_mem_cons.mp reads
    have size := starts_pos headStarts
    have padded := headKeyed.padded
    simp only [List.map_cons, commaed, Member.spelled, Item.spelled, List.length_append,
      List.length_cons] at enough
    let onward := chars (commaed false (members.map Member.spelled)) ++
      (chars ending ++ .char '\x7d' :: rest)
    have ends : Ends (chars member.item.after ++ onward) :=
      ends_blank padded.after (ends_commaed _ (ends_blank closing (ends_cons (by decide) _)))
    have head := headReads less (chars member.item.after ++ onward) (by omega) ends
    obtain ⟨fewer, rfl⟩ : ∃ fewer, less = fewer + 1 := Nat.exists_eq_add_one.mpr (by omega)
    have value : readValue marks (fewer + 1) depth (chars member.item.spelled ++ onward) =
        .ok (member.item.value, chars member.item.after ++ onward) := by
      rw [Item.spelled, chars, List.map_append, List.map_append, List.append_assoc,
        List.append_assoc, readValue_blank padded.before]
      exact head
    have tail := ih keyed starts reads padded.after false fewer (by omega)
    have split : chars (commaed first ((member :: members).map Member.spelled)) ++
          (chars ending ++ .char '\x7d' :: rest) =
        chars ((if first then [] else [',']) ++ member.spelled) ++ onward := by
      simp only [List.map_cons, commaed, chars, List.map_append, List.append_assoc, onward]
    rw [split, readMembers, nextKey_blank allBlank, nextKey_commaed headKeyed first onward]
    simp only [bind, Except.bind, readColon_gap headKeyed.gap, value]
    rw [tail]
    rfl

private theorem nextKey_written {members : List Member} (keyed : ∀ member ∈ members, member.Keyed)
    (closing : Blank ending) (rest : List Symbol) :
    ∃ left, nextKey true (chars (commaed true (members.map Member.spelled)) ++
        (chars ending ++ .char '\x7d' :: rest)) = .ok ((members.map Member.key).head?, left) := by
  cases members with
  | nil => exact ⟨_, nextKey_end closing true⟩
  | cons member members =>
    simp only [List.map_cons, commaed, if_true, List.nil_append, chars, List.map_append,
      List.append_assoc]
    exact ⟨_, nextKey_commaed (keyed member List.mem_cons_self) true _⟩

theorem reads_null : Reads marks depth ['n', 'u', 'l', 'l'] .null :=
  reads_of_step (by simp) fun _ _ _ _ => rfl

theorem reads_yes : Reads marks depth ['t', 'r', 'u', 'e'] (.bool true) :=
  reads_of_step (by simp) fun _ _ _ _ => rfl

theorem reads_no : Reads marks depth ['f', 'a', 'l', 's', 'e'] (.bool false) :=
  reads_of_step (by simp) fun _ _ _ _ => rfl

theorem reads_number {spelled kept : List Char} (spells : SpellsNumber spelled kept) :
    Reads marks depth spelled (.number (String.ofList kept)) := by
  obtain ⟨c, more, same, starts⟩ := spells_startsNumber spells
  apply reads_of_step (by simp [same])
  intro fuel rest enough ends
  have read := readNumber_spelled spells ends
  rw [same] at read ⊢
  exact readValue_number starts rfl read

theorem reads_string {spelled text : List Char} (quotes : Quotes spelled text) :
    Reads marks depth ('"' :: (spelled ++ ['"'])) (.string (String.ofList text)) := by
  apply reads_of_step (by simp)
  intro fuel rest enough ends
  have read := readString_quotes quotes rest
  simp only [chars, List.map_cons, List.map_append, List.map_nil, List.append_assoc,
    List.cons_append, List.nil_append] at read ⊢
  rw [readValue, skipSpace_of_not rfl]
  simp only [read, bind, Except.bind]

theorem reads_array {items : List Item} (padded : ∀ item ∈ items, item.Padded)
    (starts : ∀ item ∈ items, Starts item.text)
    (reads : ∀ item ∈ items, Reads marks (depth + 1) item.text item.value)
    (closing : Blank ending) :
    Reads marks (depth + 2) ('[' :: (commaed true (items.map Item.spelled) ++ (ending ++ [']'])))
      (.array (items.map Item.value)) := by
  apply reads_of_step (by simp)
  intro fuel rest enough ends
  have read := readItems_written padded starts reads closing Blank.nil true
    (by simp at enough; omega : _ < fuel) rest
  simp only [chars, List.map_cons, List.map_append, List.map_nil, List.append_assoc,
    List.cons_append, List.nil_append] at read ⊢
  rw [readValue_array, read]
  rfl

/-- Each text that may be written for a value is read as that value. -/
private theorem Written.reads {text : List Char} {value : Value}
    (written : Written depth text value) :
    Reads true depth text value := by
  induction written with
  | null => exact reads_null
  | yes => exact reads_yes
  | no => exact reads_no
  | number spells => exact reads_number spells
  | string quotes => exact reads_string quotes
  | array padded inner blank reads =>
    exact reads_array padded (fun item inside => (inner item inside).starts) reads blank
  | @object depth members keyed unmarked inner ending blank reads =>
    apply reads_of_step (by simp)
    intro fuel rest enough ends
    have read := readMembers_written keyed (fun member inside => (inner member inside).starts)
      reads blank Blank.nil true (by simp at enough; omega : _ < fuel + 1) rest
    obtain ⟨left, first⟩ := nextKey_written keyed blank rest
    simp only [chars, List.map_cons, List.map_append, List.map_nil, List.append_assoc,
      List.cons_append, List.nil_append] at read first ⊢
    rw [readValue_object, read]
    · rfl
    -- An object that began with the number mark would be read as a number.
    · intro left marked
      rw [first] at marked
      exact unmarked (congrArg Prod.fst (Except.ok.inj marked))
  | @marked depth member keyed mark spelled text kept quotes carried spells =>
    apply reads_of_step (by simp)
    intro fuel rest enough ends
    have key := nextKey_commaed keyed true (.char '\x7d' :: rest)
    have number : markedNumber (chars member.item.spelled ++ .char '\x7d' :: rest) =
        .ok (String.ofList kept, chars member.item.after ++ .char '\x7d' :: rest) := by
      have read := markedNumber_quotes keyed.padded.before quotes spells
        (chars member.item.after ++ .char '\x7d' :: rest)
      rw [Item.spelled, carried]
      simpa using read
    rw [mark, if_pos rfl, List.nil_append] at key
    rw [chars, List.map_cons, List.map_append, List.cons_append, List.append_assoc]
    refine (readValue_marked key (readColon_gap keyed.gap _) number).trans ?_
    simp only [closed, endMembers_blank keyed.padded.after]

theorem parseValue_written {text : List Char} {value : Value}
    (written : Written depthLimit text value) {before after : List Char} (leading : Blank before)
    (trailing : Blank after) : parseValue (chars (before ++ text ++ after)) = .ok value := by
  have read := written.reads (steps (chars (before ++ text ++ after))) (chars after)
    (by simp [steps]; omega) (by simpa using ends_blank trailing ends_nil)
  have skipped : skipSpace (chars after) = [] := by
    have spaced := skipSpace_of_blank trailing []
    rwa [List.append_nil] at spaced
  have whole : Json.value depthLimit (chars (before ++ text ++ after)) =
      .ok (value, chars after) := by
    obtain ⟨less, same⟩ : ∃ less, steps (chars (before ++ text ++ after)) = less + 1 := ⟨_, rfl⟩
    rw [same] at read
    rw [Json.value, same, chars, List.map_append, List.map_append, List.append_assoc,
      readValue_blank leading, read]
  simp only [parseValue, document, whole, skipped]

/-- The members of an object are read whatever the first key is. -/
theorem objectMembers_written {members : List Member} (keyed : ∀ member ∈ members, member.Keyed)
    (inner : ∀ member ∈ members,
      Written (depthLimit - 1) member.item.text member.item.value) (closing : Blank ending) :
    document objectMembers (chars ('\x7b' ::
        (commaed true (members.map Member.spelled) ++ (ending ++ ['\x7d'])))) =
      .ok (Members.ofList (members.map Member.pair)) := by
  let body := commaed true (members.map Member.spelled) ++ (ending ++ ['\x7d'])
  have laid := readMembers_written keyed (fun member inside => (inner member inside).starts)
    (fun member inside => (inner member inside).reads) closing Blank.nil true
    (by simp [steps, body]; omega : _ < steps (chars body)) []
  have same : chars [] ++ (chars (commaed true (members.map Member.spelled)) ++
      (chars ending ++ [.char '\x7d'])) = chars body := by
    simp [body]
  rw [same] at laid
  have skipped : skipSpace (chars ('\x7b' :: body)) = .char '\x7b' :: chars body := rfl
  have read : objectMembers depthLimit (chars ('\x7b' :: body)) =
      .ok (Members.ofList (members.map Member.pair), []) := by
    simp only [objectMembers, skipped]
    rw [if_neg (by decide), laid]
    rfl
  change document objectMembers (chars ('\x7b' :: body)) = _
  simp only [document, read]
  rfl

end values

section refused

/-- No ending makes a fault good. -/
theorem closed_error {α : Type}
    (ending : List Symbol → Except (Stop × List Symbol) (List Symbol)) (stop : Stop) :
    ∃ other, closed ending (.error stop : Except Stop (Taken α)) = .error other := by
  unfold closed
  split
  next same => cases same
  next =>
    split
    · exact ⟨_, rfl⟩
    · exact ⟨_, rfl⟩
  next => exact ⟨_, rfl⟩

/-- An object that begins with the number mark is refused, whatever follows, unless a text
stands under the mark. -/
theorem parseValue_unmarked {member : Member} (keyed : member.Keyed)
    (mark : member.key = numberMark) {c : Char} {more : List Char}
    (begins : member.item.text = c :: more) (solid : isSpace (.char c) = false)
    (unquoted : c ≠ '"') (tail : List Char) :
    ∃ fault, parseValue (chars ('\x7b' :: (member.spelled ++ tail))) = .error fault := by
  let text := '\x7b' :: (member.spelled ++ tail)
  have key := nextKey_commaed keyed true (chars tail)
  rw [mark, if_pos rfl, List.nil_append] at key
  have number : ∃ stop, markedNumber (chars member.item.spelled ++ chars tail) = .error stop := by
    unfold markedNumber
    rw [Item.spelled, begins, chars, List.map_append, List.map_append, List.append_assoc,
      List.append_assoc, List.map_cons, List.cons_append, skip_to keyed.padded.before solid]
    split
    next same => cases same
    next same =>
      cases same
      exact absurd rfl unquoted
    next => exact ⟨_, rfl⟩
  obtain ⟨stop, number⟩ := number
  obtain ⟨other, closes⟩ :
      ∃ other, closed endMembers (.error stop : Except Stop (Taken Value)) = .error other :=
    closed_error endMembers stop
  have read : Json.value depthLimit (chars text) = .error other := by
    obtain ⟨less, fuel⟩ : ∃ less, steps (chars text) = less + 1 := ⟨_, rfl⟩
    have split : chars text = .char '\x7b' :: (chars member.spelled ++ chars tail) := by
      simp [text]
    rw [Json.value, fuel, split, depthLimit, readValue, skipSpace_of_not rfl]
    simp only [key, readColon_gap keyed.gap, number, bind, Except.bind]
    exact closes
  refine ⟨Fault.ofStop (chars text) other, ?_⟩
  change parseValue (chars text) = _
  simp only [parseValue, document, read]

end refused

end RuntimeHandover.Json
