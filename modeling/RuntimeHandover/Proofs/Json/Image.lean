import RuntimeHandover.Proofs.Json.RoundTrip

/-! What reading gives is readable: no text leads to a value that its own text would not
lead back to. -/
namespace RuntimeHandover.Json
open Text

theorem closed_eq_ok {α : Type} {ending : List Symbol → Except (Stop × List Symbol) (List Symbol)}
    {inner : Except Stop (Taken α)} {a : α} {rest : List Symbol}
    (ok : closed ending inner = .ok (a, rest)) :
    ∃ left, inner = .ok (a, left) ∧ ending left = .ok rest := by
  unfold closed at ok
  split at ok
  next found left =>
    split at ok
    next ended =>
      cases ok
      exact ⟨left, rfl, ended⟩
    next => cases ok
  next =>
    split at ok
    next => cases ok
    next => cases ok
  next => cases ok

private theorem markedNumber_number {input left : List Symbol} {number : String}
    (read : markedNumber input = .ok (number, left)) : IsNumber number.toList := by
  unfold markedNumber at read
  split at read
  next => cases read
  next =>
    split at read
    next => cases read
    next =>
      split at read
      next whole =>
        cases read
        exact wholeNumber_number whole
      next => cases read
  next => cases read

private theorem readable_ofList {depth : Nat} {pairs : List (String × Value)}
    (unmarked : (Members.keys pairs).head? ≠ some numberMark)
    (inner : ∀ member ∈ pairs, Readable (depth + 1) member.2) :
    Readable (depth + 2) (.object (Members.ofList pairs)) := by
  refine .object (Members.nodup_ofList pairs) ?_ ?_
  · rw [Members.head?_keys_ofList]
    exact unmarked
  · intro member inside
    exact inner member (Members.mem_ofList inside)

section image

structure Images (fuel : Nat) : Prop where
  value {depth : Nat} {input left : List Symbol} {value : Value}
    (read : readValue true fuel depth input = .ok (value, left)) : Readable depth value
  items {depth : Nat} {first : Bool} {input left : List Symbol} {items : List Value}
    (read : readItems true fuel depth first input = .ok (items, left)) :
    ∀ item ∈ items, Readable depth item
  members {depth : Nat} {first : Bool} {input left : List Symbol} {members : List (String × Value)}
    (read : readMembers true fuel depth first input = .ok (members, left)) :
    ∀ member ∈ members, Readable depth member.2

variable {fuel depth : Nat} {input left : List Symbol}

private theorem readItems_readable (before : Images fuel) {first : Bool} {items : List Value}
    (read : readItems true (fuel + 1) depth first input = .ok (items, left)) :
    ∀ item ∈ items, Readable depth item := by
  rw [readItems] at read
  obtain ⟨⟨more, after⟩, _, read⟩ := bind_eq_ok_iff.mp read
  cases more with
  | false =>
    cases read
    simp
  | true =>
    obtain ⟨⟨item, after⟩, readItem, read⟩ := bind_eq_ok_iff.mp read
    obtain ⟨⟨items, after⟩, readRest, read⟩ := bind_eq_ok_iff.mp read
    cases read
    exact List.forall_mem_cons.mpr ⟨before.value readItem, before.items readRest⟩

private theorem readMembers_readable (before : Images fuel) {first : Bool}
    {members : List (String × Value)}
    (read : readMembers true (fuel + 1) depth first input = .ok (members, left)) :
    ∀ member ∈ members, Readable depth member.2 := by
  rw [readMembers] at read
  obtain ⟨⟨key?, after⟩, _, read⟩ := bind_eq_ok_iff.mp read
  cases key? with
  | none =>
    cases read
    simp
  | some key =>
    obtain ⟨after, _, read⟩ := bind_eq_ok_iff.mp read
    obtain ⟨⟨value, after⟩, readOne, read⟩ := bind_eq_ok_iff.mp read
    obtain ⟨⟨members, after⟩, readRest, read⟩ := bind_eq_ok_iff.mp read
    cases read
    exact List.forall_mem_cons.mpr ⟨before.value readOne, before.members readRest⟩

private theorem readValue_readable (before : Images fuel) {value : Value}
    (read : readValue true (fuel + 1) depth input = .ok (value, left)) :
    Readable depth value := by
  rw [readValue] at read
  split at read
  next => cases read
  next =>
    obtain ⟨_, _, read⟩ := bind_eq_ok_iff.mp read
    cases read
    exact .null
  next =>
    obtain ⟨_, _, read⟩ := bind_eq_ok_iff.mp read
    cases read
    exact .bool true
  next =>
    obtain ⟨_, _, read⟩ := bind_eq_ok_iff.mp read
    cases read
    exact .bool false
  next =>
    obtain ⟨_, _, read⟩ := bind_eq_ok_iff.mp read
    cases read
    exact .string _
  next =>
    split at read
    next => cases read
    next deep =>
      obtain ⟨less, rfl⟩ : ∃ less, depth = less + 2 := ⟨depth - 2, by omega⟩
      obtain ⟨_, read, _⟩ := closed_eq_ok read
      obtain ⟨⟨items, after⟩, readAll, read⟩ := bind_eq_ok_iff.mp read
      cases read
      exact .array (before.items readAll)
  next =>
    split at read
    next => cases read
    next deep =>
      obtain ⟨less, rfl⟩ : ∃ less, depth = less + 2 := ⟨depth - 2, by omega⟩
      obtain ⟨_, read, _⟩ := closed_eq_ok read
      obtain ⟨⟨key?, after⟩, _, read⟩ := bind_eq_ok_iff.mp read
      cases key? with
      | none =>
        cases read
        exact .object (by simp) (by simp) (by simp)
      | some key =>
        obtain ⟨after, _, read⟩ := bind_eq_ok_iff.mp read
        split at read
        next =>
          obtain ⟨⟨number, after⟩, kept, read⟩ := bind_eq_ok_iff.mp read
          cases read
          exact .number (markedNumber_number kept)
        next other =>
          obtain ⟨⟨value, after⟩, readOne, read⟩ := bind_eq_ok_iff.mp read
          obtain ⟨⟨members, after⟩, readRest, read⟩ := bind_eq_ok_iff.mp read
          cases read
          refine readable_ofList ?_ ?_
          · intro marked
            exact other ⟨rfl, Option.some.inj marked⟩
          · exact List.forall_mem_cons.mpr ⟨before.value readOne, before.members readRest⟩
  next =>
    split at read
    next =>
      obtain ⟨⟨number, after⟩, kept, read⟩ := bind_eq_ok_iff.mp read
      cases read
      exact .number (readNumber_number kept)
    next => cases read

private theorem images (fuel : Nat) : Images fuel := by
  -- Each of the three readers calls the others with one less.
  induction fuel with
  | zero => exact ⟨nofun, nofun, nofun⟩
  | succ fuel before =>
    exact ⟨readValue_readable before, readItems_readable before, readMembers_readable before⟩

end image

theorem parseValue_readable {text : List Symbol} {value : Value}
    (parsed : parseValue text = .ok value) : Readable depthLimit value := by
  unfold parseValue document at parsed
  split at parsed
  next => cases parsed
  next read =>
    split at parsed
    next =>
      cases parsed
      exact (images _).value read
    next => cases parsed

theorem objectMembers_readable {text : List Symbol} {members : List (String × Value)}
    (parsed : document objectMembers text = .ok members) :
    (Members.keys members).Nodup ∧
      ∀ member ∈ members, Readable (depthLimit - 1) member.2 := by
  unfold document at parsed
  split at parsed
  next => cases parsed
  next read =>
    split at parsed
    next =>
      cases parsed
      unfold objectMembers at read
      split at read
      next => cases read
      next =>
        rw [if_neg (by decide)] at read
        obtain ⟨_, read, _⟩ := closed_eq_ok read
        obtain ⟨⟨pairs, after⟩, readAll, read⟩ := bind_eq_ok_iff.mp read
        cases read
        refine ⟨Members.nodup_ofList pairs, ?_⟩
        intro member inside
        exact (images _).members readAll member (Members.mem_ofList inside)
      next => cases read
    next => cases parsed

end RuntimeHandover.Json
