import RuntimeHandover.Json.Value

/-! The members of an object as a list of pairs: what setting one of them does, and what
becomes of a list in which keys may be repeated. -/
namespace RuntimeHandover.Json.Members

variable {key : String} {members pairs : List (String × Value)}

private theorem insert_new (value : Value) (absent : key ∉ keys members) :
    insert key value members = members ++ [(key, value)] := by
  induction members with
  | nil => rfl
  | cons head rest ih =>
    have other : head.1 ≠ key := fun same => absent (by simp [keys, same])
    have later : key ∉ keys rest := fun inside => absent (List.mem_cons_of_mem _ inside)
    rw [insert, if_neg other, ih later]
    rfl

theorem mem_insert {value : Value} {member : String × Value}
    (inside : member ∈ insert key value members) : member = (key, value) ∨ member ∈ members := by
  induction members with
  | nil => exact .inl (List.mem_singleton.mp inside)
  | cons head rest ih =>
    unfold insert at inside
    split at inside
    next same =>
      rcases List.mem_cons.mp inside with first | later
      · exact .inl (first.trans (by rw [same]))
      · exact .inr (List.mem_cons_of_mem _ later)
    next other =>
      rcases List.mem_cons.mp inside with rfl | later
      · exact .inr List.mem_cons_self
      · rcases ih later with new | old
        · exact .inl new
        · exact .inr (List.mem_cons_of_mem _ old)

theorem head?_keys_insert (value : Value) (nonempty : members ≠ []) :
    (keys (insert key value members)).head? = (keys members).head? := by
  rw [keys_insert]
  split
  · rfl
  · cases members with
    | nil => exact absurd rfl nonempty
    | cons head rest => rfl

section folded

private abbrev folded (members pairs : List (String × Value)) : List (String × Value) :=
  pairs.foldl (fun members pair => insert pair.1 pair.2 members) members

private theorem folded_of_nodup (distinct : (keys (members ++ pairs)).Nodup) :
    folded members pairs = members ++ pairs := by
  induction pairs generalizing members with
  | nil => simp [folded]
  | cons head rest ih =>
    have absent : head.1 ∉ keys members := by
      intro inside
      rw [keys, List.map_append, List.nodup_append] at distinct
      exact distinct.2.2 head.1 inside head.1 (by simp) rfl
    have later : (keys ((members ++ [head]) ++ rest)).Nodup := by simpa using distinct
    rw [folded, List.foldl_cons, insert_new _ absent]
    exact (ih later).trans (by simp)

private theorem mem_folded {member : String × Value} (inside : member ∈ folded members pairs) :
    member ∈ members ∨ member ∈ pairs := by
  induction pairs generalizing members with
  | nil => exact .inl inside
  | cons head rest ih =>
    rcases ih inside with early | late
    · rcases mem_insert early with rfl | old
      · exact .inr List.mem_cons_self
      · exact .inl old
    · exact .inr (List.mem_cons_of_mem _ late)

private theorem head?_keys_folded (nonempty : members ≠ []) :
    (keys (folded members pairs)).head? = (keys members).head? := by
  induction pairs generalizing members with
  | nil => rfl
  | cons head rest ih =>
    have more : insert head.1 head.2 members ≠ [] := by
      intro none_left
      have same := congrArg keys none_left
      rw [keys_insert] at same
      split at same
      · exact nonempty (List.map_eq_nil_iff.mp same)
      · simp at same
    exact (ih more).trans (head?_keys_insert head.2 nonempty)

end folded

/-- Nothing happens to members whose keys differ. -/
theorem ofList_of_nodup (distinct : (keys pairs).Nodup) : ofList pairs = pairs := by
  have whole : folded [] pairs = [] ++ pairs := folded_of_nodup distinct
  exact whole

theorem mem_ofList {member : String × Value} (inside : member ∈ ofList pairs) :
    member ∈ pairs := by
  rcases mem_folded inside with none_before | there
  · cases none_before
  · exact there

theorem head?_keys_ofList (pairs : List (String × Value)) :
    (keys (ofList pairs)).head? = (keys pairs).head? := by
  cases pairs with
  | nil => rfl
  | cons head rest => exact head?_keys_folded (List.cons_ne_nil _ _)

theorem mem_of_get? {value : Value} (found : get? key members = some value) :
    (key, value) ∈ members := by
  induction members with
  | nil => cases found
  | cons head rest ih =>
    obtain ⟨k, v⟩ := head
    rw [get?] at found
    split at found
    next same =>
      cases found
      rw [same]
      exact List.mem_cons_self
    next => exact List.mem_cons_of_mem _ (ih found)

theorem get?_of_mem {member : String × Value} (distinct : (keys members).Nodup)
    (inside : member ∈ members) : get? member.1 members = some member.2 := by
  induction members with
  | nil => cases inside
  | cons head rest ih =>
    obtain ⟨fresh, distinct⟩ := List.nodup_cons.mp distinct
    rw [get?]
    rcases List.mem_cons.mp inside with rfl | later
    · rw [if_pos rfl]
    · have there : member.1 ∈ keys rest := List.mem_map_of_mem later
      have other : head.1 ≠ member.1 := fun same => fresh (by rwa [← same] at there)
      rw [if_neg other, ih distinct later]

theorem get?_of_not_mem (absent : key ∉ keys members) : get? key members = none := by
  induction members with
  | nil => rfl
  | cons head rest ih =>
    have other : head.1 ≠ key := fun same => absent (by simp [keys, same])
    rw [get?, if_neg other, ih fun inside => absent (List.mem_cons_of_mem _ inside)]

def last? (key : String) (pairs : List (String × Value)) : Option Value :=
  (pairs.reverse.find? (·.1 == key)).map (·.2)

private theorem last?_cons (key : String) (head : String × Value) (rest : List (String × Value)) :
    last? key (head :: rest) =
      (last? key rest).or (if head.1 = key then some head.2 else none) := by
  rw [last?, last?, List.reverse_cons, List.find?_append]
  cases rest.reverse.find? (·.1 == key) with
  | some later => rfl
  | none =>
    by_cases same : head.1 = key
    · simp [same]
    · simp [same]

private theorem get?_folded (key : String) (members pairs : List (String × Value)) :
    get? key (folded members pairs) = (last? key pairs).or (get? key members) := by
  induction pairs generalizing members with
  | nil => rfl
  | cons head rest ih =>
    rw [folded, List.foldl_cons]
    refine (ih _).trans ?_
    rw [last?_cons, Option.or_assoc]
    by_cases same : head.1 = key
    · rw [if_pos same, ← same, get?_insert_self]
      rfl
    · rw [if_neg same, get?_insert_of_ne (Ne.symm same)]
      rfl

/-- Of members with one key the last counts. -/
theorem get?_ofList (key : String) (pairs : List (String × Value)) :
    get? key (ofList pairs) = last? key pairs := by
  have found := get?_folded key [] pairs
  rw [get?, Option.or_none] at found
  exact found

/-- Setting a member to the value that it has changes nothing. -/
theorem insert_of_get? {value : Value} (found : get? key members = some value) :
    insert key value members = members := by
  induction members with
  | nil => cases found
  | cons head rest ih =>
    rw [get?] at found
    rw [insert]
    split at found
    next same =>
      cases found
      rw [if_pos same]
    next other => rw [if_neg other, ih found]

end RuntimeHandover.Json.Members
