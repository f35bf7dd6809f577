import RuntimeHandover.Proofs.Json.Begins

/-! What reading accepts is only what may be written for the value that it gives: items and
members, each of which took what stands before what is left, and then a whole text, which is
accepted exactly if it is a value with blanks around it. -/
namespace RuntimeHandover.Json
open Text

section accepted

inductive ItemsTaken (depth : Nat) (first : Bool) :
    List Symbol → List Value → List Symbol → Prop
  | mk {blank ending : List Char} {items : List Item} (allBlank : Blank blank)
      (start : first = true → blank = []) (closing : Blank ending)
      (padded : ∀ item ∈ items, item.Padded)
      (inner : ∀ item ∈ items, Written depth item.text item.value) {input left : List Symbol}
      (begins : Begins input
        (blank ++ (commaed first (items.map Item.spelled) ++ ending)) left) :
      ItemsTaken depth first input (items.map Item.value) left

inductive MembersTaken (depth : Nat) (first : Bool) :
    List Symbol → List (String × Value) → List Symbol → Prop
  | mk {blank ending : List Char} {members : List Member} (allBlank : Blank blank)
      (start : first = true → blank = []) (closing : Blank ending)
      (keyed : ∀ member ∈ members, member.Keyed)
      (inner : ∀ member ∈ members, Written depth member.item.text member.item.value)
      {input left : List Symbol}
      (begins : Begins input
        (blank ++ (commaed first (members.map Member.spelled) ++ ending)) left) :
      MembersTaken depth first input (members.map Member.pair) left

structure Accepts (fuel : Nat) : Prop where
  value {depth : Nat} {input left : List Symbol} {value : Value}
    (read : readValue true fuel depth input = .ok (value, left)) :
    ∃ blank text, Blank blank ∧ Written depth text value ∧ Begins input (blank ++ text) left
  items {depth : Nat} {first : Bool} {input left : List Symbol} {items : List Value}
    (read : readItems true fuel depth first input = .ok (items, left)) :
    ItemsTaken depth first input items left
  members {depth : Nat} {first : Bool} {input left : List Symbol} {members : List (String × Value)}
    (read : readMembers true fuel depth first input = .ok (members, left)) :
    MembersTaken depth first input members left

variable {fuel depth : Nat} {input between left : List Symbol} {first : Bool}
  {start lead blank text : List Char} {value : Value}

private theorem ItemsTaken.cons {values : List Value} (allBlank : Blank start)
    (atStart : first = true → start = []) (leading : Blank lead) (padding : Blank blank)
    (written : Written depth text value)
    (begins : Begins input
      (start ++ ((if first then [] else [',']) ++ lead) ++ (blank ++ text)) between)
    (later : ItemsTaken depth false between values left) :
    ItemsTaken depth first input (value :: values) left := by
  cases later with
  | @mk after ending items trailing _ closing padded inner _ _ onward =>
    let item : Item := ⟨lead ++ blank, text, after, value⟩
    have around : item.Padded := ⟨leading.append padding, trailing⟩
    have whole : Begins input
        (start ++ (commaed first ((item :: items).map Item.spelled) ++ ending)) left := by
      simpa [commaed, Item.spelled, item] using begins.trans onward
    change ItemsTaken depth first input ((item :: items).map Item.value) left
    exact .mk allBlank atStart closing (List.forall_mem_cons.mpr ⟨around, padded⟩)
      (List.forall_mem_cons.mpr ⟨written, inner⟩) whole

private theorem MembersTaken.cons {values : List (String × Value)} {quoted gap : List Char}
    {key : String} (allBlank : Blank start) (atStart : first = true → start = [])
    (leading : Blank lead) (quotes : Quotes quoted key.toList) (apart : Blank gap)
    (padding : Blank blank) (written : Written depth text value)
    (begins : Begins input (start ++ ((if first then [] else [',']) ++
      (lead ++ '"' :: (quoted ++ ['"']))) ++ (gap ++ [':']) ++ (blank ++ text)) between)
    (later : MembersTaken depth false between values left) :
    MembersTaken depth first input ((key, value) :: values) left := by
  cases later with
  | @mk after ending members trailing _ closing keyed inner _ _ onward =>
    let member : Member := ⟨lead, quoted, key, gap, ⟨blank, text, after, value⟩⟩
    have headKeyed : member.Keyed := ⟨leading, quotes, apart, ⟨padding, trailing⟩⟩
    have whole : Begins input
        (start ++ (commaed first ((member :: members).map Member.spelled) ++ ending)) left := by
      simpa [commaed, Member.spelled, Item.spelled, member] using begins.trans onward
    change MembersTaken depth first input ((member :: members).map Member.pair) left
    exact .mk allBlank atStart closing (List.forall_mem_cons.mpr ⟨headKeyed, keyed⟩)
      (List.forall_mem_cons.mpr ⟨written, inner⟩) whole

private theorem readItems_accepts (before : Accepts fuel) {items : List Value}
    (read : readItems true (fuel + 1) depth first input = .ok (items, left)) :
    ItemsTaken depth first input items left := by
  rw [readItems] at read
  obtain ⟨⟨more, after⟩, next, read⟩ := bind_eq_ok_iff.mp read
  cases more with
  | false =>
    cases read
    obtain ⟨ending, closing, begins⟩ := nextItem_last next
    change ItemsTaken depth first input (([] : List Item).map Item.value) left
    exact .mk .nil (fun _ => rfl) closing (by simp) (by simp) begins
  | true =>
    obtain ⟨start, lead, allBlank, leading, atStart, separated⟩ := nextItem_more next
    obtain ⟨⟨item, between⟩, readItem, read⟩ := bind_eq_ok_iff.mp read
    obtain ⟨⟨items, after⟩, readRest, read⟩ := bind_eq_ok_iff.mp read
    cases read
    obtain ⟨blank, text, padding, written, begins⟩ := before.value readItem
    exact .cons allBlank atStart leading padding written (separated.trans begins)
      (before.items readRest)

private theorem readMembers_accepts (before : Accepts fuel) {members : List (String × Value)}
    (read : readMembers true (fuel + 1) depth first input = .ok (members, left)) :
    MembersTaken depth first input members left := by
  rw [readMembers] at read
  obtain ⟨⟨key?, after⟩, next, read⟩ := bind_eq_ok_iff.mp read
  cases key? with
  | none =>
    cases read
    obtain ⟨ending, closing, begins⟩ := nextKey_last next
    change MembersTaken depth first input (([] : List Member).map Member.pair) left
    exact .mk .nil (fun _ => rfl) closing (by simp) (by simp) begins
  | some key =>
    obtain ⟨start, lead, quoted, allBlank, leading, atStart, quotes, separated⟩ :=
      nextKey_more next
    obtain ⟨colon, coloned, read⟩ := bind_eq_ok_iff.mp read
    obtain ⟨⟨value, between⟩, readOne, read⟩ := bind_eq_ok_iff.mp read
    obtain ⟨⟨members, after⟩, readRest, read⟩ := bind_eq_ok_iff.mp read
    cases read
    obtain ⟨gap, apart, passed⟩ := readColon_begins coloned
    obtain ⟨blank, text, padding, written, begins⟩ := before.value readOne
    exact .cons allBlank atStart leading quotes apart padding written
      ((separated.trans passed).trans begins) (before.members readRest)

/-- What was taken of an array, between its brackets. -/
private theorem ItemsTaken.written {values : List Value} {closing : List Char}
    (taken : ItemsTaken (depth + 1) true input values between) (blank : Blank closing)
    (ended : Begins between (closing ++ [']']) left) :
    ∃ text, Written (depth + 2) text (.array values) ∧ Begins (.char '[' :: input) text left := by
  cases taken with
  | @mk start ending items _ atStart alsoBlank padded inner _ _ begins =>
    cases atStart rfl
    refine ⟨_, .array padded inner (alsoBlank.append blank), ?_⟩
    simpa using (begins.trans ended).cons '['

private theorem MembersTaken.written {values : List (String × Value)} {closing : List Char}
    (taken : MembersTaken (depth + 1) true input values between)
    (unmarked : (Members.keys values).head? ≠ some numberMark) (blank : Blank closing)
    (ended : Begins between (closing ++ ['\x7d']) left) :
    ∃ text, Written (depth + 2) text (.object (Members.ofList values)) ∧
      Begins (.char '\x7b' :: input) text left := by
  cases taken with
  | @mk start ending members _ atStart alsoBlank keyed inner _ _ begins =>
    cases atStart rfl
    have unmarked : (members.map Member.key).head? ≠ some numberMark := by
      simpa [Members.keys, Member.pair, Function.comp_def] using unmarked
    refine ⟨_, .object keyed unmarked inner (alsoBlank.append blank), ?_⟩
    simpa using (begins.trans ended).cons '\x7b'

private theorem readMembers_head {members : List (String × Value)}
    (read : readMembers true (fuel + 1) depth true input = .ok (members, left)) :
    ∃ after, nextKey true input = .ok ((Members.keys members).head?, after) := by
  rw [readMembers] at read
  obtain ⟨⟨key?, after⟩, next, read⟩ := bind_eq_ok_iff.mp read
  cases key? with
  | none =>
    cases read
    exact ⟨_, next⟩
  | some key =>
    obtain ⟨_, _, read⟩ := bind_eq_ok_iff.mp read
    obtain ⟨_, _, read⟩ := bind_eq_ok_iff.mp read
    obtain ⟨_, _, read⟩ := bind_eq_ok_iff.mp read
    cases read
    exact ⟨after, next⟩

private theorem object_accepts (before : Accepts fuel)
    (read : readValue true (fuel + 1) (depth + 2) (.char '\x7b' :: input) = .ok (value, left)) :
    ∃ text, Written (depth + 2) text value ∧ Begins (.char '\x7b' :: input) text left := by
  by_cases marked : ∃ after, nextKey true input = .ok (some numberMark, after)
  · obtain ⟨after, key⟩ := marked
    rw [readValue, skipSpace_of_not rfl] at read
    obtain ⟨_, read, ended⟩ := closed_eq_ok read
    obtain ⟨_, next, read⟩ := bind_eq_ok_iff.mp read
    cases key.symm.trans next
    obtain ⟨colon, coloned, read⟩ := bind_eq_ok_iff.mp read
    obtain ⟨⟨number, between⟩, found, read⟩ := bind_eq_ok_iff.mp read
    cases read
    obtain ⟨_, lead, quoted, _, leading, atStart, quotes, separated⟩ := nextKey_more key
    cases atStart rfl
    obtain ⟨gap, apart, passed⟩ := readColon_begins coloned
    obtain ⟨blank, spelled, text, kept, padding, carried, spells, rfl, begins⟩ :=
      markedNumber_begins found
    obtain ⟨closing, alsoBlank, ending⟩ := endMembers_begins ended
    let item : Item := ⟨blank, '"' :: (spelled ++ ['"']), closing, .string (String.ofList text)⟩
    let member : Member := ⟨lead, quoted, numberMark, gap, item⟩
    have keyed : member.Keyed := ⟨leading, quotes, apart, ⟨padding, alsoBlank⟩⟩
    refine ⟨_, .marked keyed rfl carried rfl spells, ?_⟩
    have whole := (((separated.trans passed).trans begins).trans ending).cons '\x7b'
    simpa [Member.spelled, Item.spelled, member, item] using whole
  · rw [readValue_object fun after key => marked ⟨after, key⟩] at read
    obtain ⟨_, read, ended⟩ := closed_eq_ok read
    obtain ⟨⟨members, between⟩, readAll, read⟩ := bind_eq_ok_iff.mp read
    cases read
    obtain ⟨closing, alsoBlank, ending⟩ := endMembers_begins ended
    obtain ⟨after, head⟩ := readMembers_head readAll
    have unmarked : (Members.keys members).head? ≠ some numberMark := by
      intro same
      rw [same] at head
      exact marked ⟨after, head⟩
    exact (readMembers_accepts before readAll).written unmarked alsoBlank ending

private theorem array_accepts (before : Accepts fuel)
    (read : readValue true (fuel + 1) (depth + 2) (.char '[' :: input) = .ok (value, left)) :
    ∃ text, Written (depth + 2) text value ∧ Begins (.char '[' :: input) text left := by
  rw [readValue_array] at read
  obtain ⟨_, read, ended⟩ := closed_eq_ok read
  obtain ⟨⟨items, after⟩, readAll, read⟩ := bind_eq_ok_iff.mp read
  cases read
  obtain ⟨closing, alsoBlank, ending⟩ := endItems_begins ended
  exact (before.items readAll).written alsoBlank ending

/-- What is read where no blank stands. -/
private theorem solid_accepts (before : Accepts fuel) (solid : skipSpace input = input)
    (read : readValue true (fuel + 1) depth input = .ok (value, left)) :
    ∃ text, Written depth text value ∧ Begins input text left := by
  have whole := read
  rw [readValue] at read
  split at read
  next => cases read
  next same =>
    obtain ⟨_, word, read⟩ := bind_eq_ok_iff.mp read
    cases read
    exact ⟨_, .null, solid ▸ same ▸ (readWord_begins word).cons 'n'⟩
  next same =>
    obtain ⟨_, word, read⟩ := bind_eq_ok_iff.mp read
    cases read
    exact ⟨_, .yes, solid ▸ same ▸ (readWord_begins word).cons 't'⟩
  next same =>
    obtain ⟨_, word, read⟩ := bind_eq_ok_iff.mp read
    cases read
    exact ⟨_, .no, solid ▸ same ▸ (readWord_begins word).cons 'f'⟩
  next same =>
    obtain ⟨_, found, read⟩ := bind_eq_ok_iff.mp read
    cases read
    obtain ⟨spelled, quotes, begins⟩ := readString_begins found
    exact ⟨_, .string quotes, solid ▸ same ▸ begins.cons '"'⟩
  next same =>
    split at read
    next => cases read
    next deep =>
      obtain ⟨less, rfl⟩ : ∃ less, depth = less + 2 := ⟨depth - 2, by omega⟩
      rw [← solid, same] at whole
      rw [← solid, same]
      exact array_accepts before whole
  next same =>
    split at read
    next => cases read
    next deep =>
      obtain ⟨less, rfl⟩ : ∃ less, depth = less + 2 := ⟨depth - 2, by omega⟩
      rw [← solid, same] at whole
      rw [← solid, same]
      exact object_accepts before whole
  next symbol rest _ _ _ _ _ _ same =>
    split at read
    next =>
      obtain ⟨⟨number, after⟩, found, read⟩ := bind_eq_ok_iff.mp read
      cases read
      obtain ⟨spelled, kept, spells, rfl, begins⟩ := readNumber_begins found
      exact ⟨spelled, .number spells, solid ▸ same ▸ begins⟩
    next => cases read

private theorem skipSpace_skipSpace (input : List Symbol) :
    skipSpace (skipSpace input) = skipSpace input := by
  induction input with
  | nil => rfl
  | cons symbol rest ih =>
    cases space : isSpace symbol with
    | false => rw [skipSpace_of_not space, skipSpace_of_not space]
    | true =>
      have skipped : skipSpace (symbol :: rest) = skipSpace rest :=
        List.dropWhile_cons_of_pos space
      rw [skipped, ih]

private theorem readValue_accepts (before : Accepts fuel)
    (read : readValue true (fuel + 1) depth input = .ok (value, left)) :
    ∃ blank text, Blank blank ∧ Written depth text value ∧ Begins input (blank ++ text) left := by
  obtain ⟨blank, allBlank, begins⟩ := skipSpace_begins input
  have later : readValue true (fuel + 1) depth (chars blank ++ skipSpace input) = _ :=
    readValue_blank allBlank fuel depth (skipSpace input)
  rw [← (begins : input = _), read] at later
  obtain ⟨text, written, onward⟩ := solid_accepts before (skipSpace_skipSpace input) later.symm
  exact ⟨blank, text, allBlank, written, begins.trans onward⟩

private theorem accepts (fuel : Nat) : Accepts fuel := by
  -- Each of the three readers calls the others with one less.
  induction fuel with
  | zero => exact ⟨nofun, nofun, nofun⟩
  | succ fuel before =>
    exact ⟨readValue_accepts before, readItems_accepts before, readMembers_accepts before⟩

end accepted

inductive TextOf (value : Value) : List Char → Prop
  | mk {before text after : List Char} (leading : Blank before)
      (written : Written depthLimit text value) (trailing : Blank after) :
      TextOf value (before ++ text ++ after)

/-- Reading a whole text gives a value exactly if the text is one of that value. -/
private theorem parseValue_eq_ok_iff {input : List Symbol} {value : Value} :
    parseValue input = .ok value ↔ ∃ text, TextOf value text ∧ input = chars text := by
  constructor
  · intro parsed
    unfold parseValue document at parsed
    split at parsed
    next => cases parsed
    next left read =>
      obtain ⟨blank, text, leading, written, begins⟩ := (accepts _).value read
      obtain ⟨after, trailing, onward⟩ := skipSpace_begins left
      split at parsed
      next ended =>
        cases parsed
        rw [ended] at onward
        have whole := begins.trans onward
        rw [Begins, List.append_nil] at whole
        exact ⟨_, .mk leading written trailing, whole⟩
      next => cases parsed
  · rintro ⟨_, ⟨leading, written, trailing⟩, rfl⟩
    exact parseValue_written written leading trailing

private theorem parseValue_bytes_iff {bytes : List UInt8} {value : Value} :
    parseValue (Utf8.symbols bytes) = .ok value ↔
      ∃ text, TextOf value text ∧ bytes = Utf8.encode text := by
  simp only [parseValue_eq_ok_iff, Utf8.symbols_eq_chars_iff]

section objects

/-- The texts of an object with the members as they stand there, whatever the first key is. -/
inductive ObjectText (pairs : List (String × Value)) : List Char → Prop
  | mk {before ending after : List Char} {members : List Member} (leading : Blank before)
      (keyed : ∀ member ∈ members, member.Keyed)
      (inner : ∀ member ∈ members,
        Written (depthLimit - 1) member.item.text member.item.value)
      (closing : Blank ending) (trailing : Blank after) (same : members.map Member.pair = pairs) :
      ObjectText pairs (before ++
        '\x7b' :: (commaed true (members.map Member.spelled) ++ (ending ++ ['\x7d'])) ++ after)

def ObjectBody (body : List UInt8) (pairs : List (String × Value)) : Prop :=
  (∃ text, ObjectText pairs text ∧ body = Utf8.encode text) ∧
    (Members.keys pairs).head? ≠ some numberMark

private theorem object_of_written {depth : Nat} {text : List Char} {fields : List (String × Value)}
    (written : Written depth text (.object fields)) :
    ∃ (members : List Member) (ending : List Char), (∀ member ∈ members, member.Keyed) ∧
      (members.map Member.key).head? ≠ some numberMark ∧
      (∀ member ∈ members, Written (depth - 1) member.item.text member.item.value) ∧
      Blank ending ∧ fields = Members.ofList (members.map Member.pair) ∧
      text = '\x7b' :: (commaed true (members.map Member.spelled) ++ (ending ++ ['\x7d'])) := by
  cases written with
  | object keyed unmarked inner blank =>
    exact ⟨_, _, keyed, unmarked, inner, blank, rfl, rfl⟩

private theorem keys_pairs (members : List Member) :
    Members.keys (members.map Member.pair) = members.map Member.key := by
  rw [Members.keys, List.map_map]
  rfl

/-- Reading gives an object exactly if the bytes are those of one; of repeated keys the last
counts. -/
theorem parseValue_object_iff {body : List UInt8} {fields : List (String × Value)} :
    parseValue (Utf8.symbols body) = .ok (.object fields) ↔
      ∃ pairs, ObjectBody body pairs ∧ fields = Members.ofList pairs := by
  rw [parseValue_bytes_iff]
  constructor
  · rintro ⟨_, ⟨leading, written, trailing⟩, rfl⟩
    obtain ⟨members, ending, keyed, unmarked, inner, closing, rfl, rfl⟩ :=
      object_of_written written
    rw [← keys_pairs] at unmarked
    exact ⟨_, ⟨⟨_, .mk leading keyed inner closing trailing rfl, rfl⟩, unmarked⟩, rfl⟩
  · rintro ⟨pairs, ⟨⟨_, ⟨leading, keyed, inner, closing, trailing, same⟩, rfl⟩, unmarked⟩, rfl⟩
    subst same
    rw [keys_pairs] at unmarked
    exact ⟨_, .mk leading (.object keyed unmarked inner closing) trailing, rfl⟩

/-- A body is the text of one object only, up to what repeated keys leave of it. -/
theorem ObjectBody.unique {body : List UInt8} {pairs others : List (String × Value)}
    (object : ObjectBody body pairs) (also : ObjectBody body others) :
    Members.ofList pairs = Members.ofList others := by
  have read := parseValue_object_iff.mpr ⟨pairs, object, rfl⟩
  have again := parseValue_object_iff.mpr ⟨others, also, rfl⟩
  exact Value.object.inj (Except.ok.inj (read.symm.trans again))

end objects

end RuntimeHandover.Json
