/-! JSON values. A number is its text, so two numbers are equal when they are
written alike; an object keeps the order of its members. -/
namespace RuntimeHandover.Json

inductive Value where
  | null
  | bool (b : Bool)
  | number (text : String)
  | string (text : String)
  | array (items : List Value)
  | object (members : List (String × Value))
  deriving Inhabited, Repr

mutual
def decideValue : (a b : Value) → Decidable (a = b)
  | .null, .null => isTrue rfl
  | .bool a, .bool b => decidable_of_iff (a = b) (by simp)
  | .number a, .number b => decidable_of_iff (a = b) (by simp)
  | .string a, .string b => decidable_of_iff (a = b) (by simp)
  | .array a, .array b =>
    have := decideItems a b
    decidable_of_iff (a = b) (by simp)
  | .object a, .object b =>
    have := decideMembers a b
    decidable_of_iff (a = b) (by simp)
  | .null, .bool _ | .null, .number _ | .null, .string _ | .null, .array _ | .null, .object _
  | .bool _, .null | .bool _, .number _ | .bool _, .string _ | .bool _, .array _
  | .bool _, .object _ | .number _, .null | .number _, .bool _ | .number _, .string _
  | .number _, .array _ | .number _, .object _ | .string _, .null | .string _, .bool _
  | .string _, .number _ | .string _, .array _ | .string _, .object _ | .array _, .null
  | .array _, .bool _ | .array _, .number _ | .array _, .string _ | .array _, .object _
  | .object _, .null | .object _, .bool _ | .object _, .number _ | .object _, .string _
  | .object _, .array _ => isFalse (by simp)

def decideItems : (a b : List Value) → Decidable (a = b)
  | [], [] => isTrue rfl
  | [], _ :: _ | _ :: _, [] => isFalse (by simp)
  | a :: as, b :: bs =>
    have := decideValue a b
    have := decideItems as bs
    decidable_of_iff (a = b ∧ as = bs) (by simp)

def decideMembers : (a b : List (String × Value)) → Decidable (a = b)
  | [], [] => isTrue rfl
  | [], _ :: _ | _ :: _, [] => isFalse (by simp)
  | (j, a) :: as, (k, b) :: bs =>
    have := decideValue a b
    have := decideMembers as bs
    decidable_of_iff (j = k ∧ a = b ∧ as = bs) (by simp [and_assoc])
end

instance : DecidableEq Value := decideValue

def Value.kind : Value → String
  | .null => "null"
  | .bool _ => "a boolean"
  | .number _ => "a number"
  | .string _ => "a string"
  | .array _ => "an array"
  | .object _ => "an object"

namespace Members

abbrev keys (members : List (String × Value)) : List String :=
  members.map (·.1)

def get? (key : String) : List (String × Value) → Option Value
  | [] => none
  | (k, v) :: rest => if k = key then some v else get? key rest

/-- A key that is there keeps its place; a new one goes to the end. -/
def insert (key : String) (value : Value) : List (String × Value) → List (String × Value)
  | [] => [(key, value)]
  | (k, v) :: rest => if k = key then (k, value) :: rest else (k, v) :: insert key value rest

/-- Of members with one key the last value counts, at the place of the first. -/
def ofList (pairs : List (String × Value)) : List (String × Value) :=
  pairs.foldl (fun members pair => insert pair.1 pair.2 members) []

theorem get?_insert_self (key : String) (value : Value) (members : List (String × Value)) :
    get? key (insert key value members) = some value := by
  induction members with
  | nil => simp [insert, get?]
  | cons head rest ih =>
    by_cases same : head.1 = key <;> simp [insert, get?, same, ih]

theorem get?_insert_of_ne {key other : String} (different : other ≠ key) (value : Value)
    (members : List (String × Value)) :
    get? other (insert key value members) = get? other members := by
  induction members with
  | nil => simp [insert, get?, Ne.symm different]
  | cons head rest ih =>
    by_cases same : head.1 = key
    · simp [insert, get?, same, Ne.symm different]
    · simp [insert, get?, same, ih]

theorem keys_insert (key : String) (value : Value) (members : List (String × Value)) :
    keys (insert key value members) =
      if key ∈ keys members then keys members else keys members ++ [key] := by
  induction members with
  | nil => simp [insert, keys]
  | cons head rest ih =>
    by_cases same : head.1 = key
    · simp [insert, same]
    · have ih : (insert key value rest).map (·.1) =
          if key ∈ rest.map (·.1) then rest.map (·.1) else rest.map (·.1) ++ [key] := ih
      simp only [insert, same, if_false, keys, List.map_cons, List.mem_cons, Ne.symm same,
        false_or, ih]
      split <;> simp

theorem nodup_insert (key : String) (value : Value) {members : List (String × Value)}
    (distinct : (keys members).Nodup) : (keys (insert key value members)).Nodup := by
  rw [keys_insert]
  split
  · exact distinct
  next absent =>
    rw [List.nodup_append]
    refine ⟨distinct, by simp, ?_⟩
    intro a member b last
    rw [List.mem_singleton] at last
    exact fun equal => absent (last ▸ equal ▸ member)

theorem nodup_ofList (pairs : List (String × Value)) : (keys (ofList pairs)).Nodup := by
  suffices grown : ∀ members, (keys members).Nodup →
      (keys (pairs.foldl (fun members pair => insert pair.1 pair.2 members) members)).Nodup from
    grown [] (by simp)
  induction pairs with
  | nil => exact fun _ distinct => distinct
  | cons head rest ih => exact fun members distinct => ih _ (nodup_insert _ _ distinct)

end Members

end RuntimeHandover.Json
