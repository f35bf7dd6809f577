import RuntimeHandover.Proofs.Json.Accepted
import RuntimeHandover.Proofs.Json.Passing

/-! Structures whose fields have defaults, written as objects. A field is written once or, when
it is what reading starts with, left out; members stand in any order and other keys may stand
between them. Reading gives the structure back from every such text. -/
namespace RuntimeHandover.Json
open Text

structure FieldSpelling (σ : Type) where
  name : String
  Value : Type
  get : σ → Value
  spells : Value → List Char → Prop

namespace FieldSpelling

variable {σ : Type}

def names (fields : List (FieldSpelling σ)) : List String := fields.map FieldSpelling.name

end FieldSpelling

variable {σ : Type} {fields : List (FieldSpelling σ)} {start s : σ}

/-- The members write what they write of a structure: no field twice, each in one of its ways, and
under other keys whatever has the shape of a value. -/
structure FieldsWritten (fields : List (FieldSpelling σ)) (s : σ) (members : List Member) :
    Prop where
  keyed : ∀ member ∈ members, member.Keyed
  once : members.Pairwise fun one other =>
    one.key = other.key → one.key ∉ FieldSpelling.names fields
  known : ∀ member ∈ members, ∀ field ∈ fields, member.key = field.name →
    field.spells (field.get s) member.item.text
  unknown : ∀ member ∈ members, member.key ∉ FieldSpelling.names fields → Loose member.item.text

/-- The texts of a structure when reading starts with another one. A field may be left out if the
two agree in it. -/
def Structured (fields : List (FieldSpelling σ)) (start s : σ) (text : List Char) : Prop :=
  ∃ members ending, FieldsWritten fields s members ∧
    (∀ field ∈ fields, field.name ∉ members.map Member.key → field.get s = field.get start) ∧
    Blank ending ∧
    text = '\x7b' :: (commaed true (members.map Member.spelled) ++ (ending ++ ['\x7d']))

structure Serves (fields : List (FieldSpelling σ)) (s : σ) (depth : Nat) (reader : FieldReader σ)
    (field : FieldSpelling σ) : Prop where
  name : reader.name = field.name
  reads : ∀ text, field.spells (field.get s) text → ∃ set, AcceptsAs reader.read depth text set ∧
    ∀ t, ∀ other ∈ fields,
      other.get (set t) = if other.name = field.name then other.get s else other.get t

/-- A reader of one value that it puts into a structure. -/
theorem Serves.of {α : Type} {depth : Nat} {name : String} {read : Reader α} {get : σ → α}
    {set : α → σ → σ} {spells : α → List Char → Prop}
    (accepts : ∀ text, spells (get s) text → AcceptsAs read depth text (get s))
    (puts : ∀ t, ∀ other ∈ fields,
      other.get (set (get s) t) = if other.name = name then other.get s else other.get t) :
    Serves fields s depth (.of name read set) ⟨name, α, get, spells⟩ := by
  refine ⟨rfl, ?_⟩
  intro text spelled
  refine ⟨set (get s), ?_, puts⟩
  intro before rest leading ends
  have inner := accepts text spelled before rest leading ends
  simp only [FieldReader.of, inner, bind, Except.bind]

section find

variable {depth : Nat} {readers : List (FieldReader σ)} {served : List (FieldSpelling σ)}
  {key : String}

private theorem find?_unknown (serve : List.Forall₂ (Serves fields s depth) readers served)
    (unknown : key ∉ FieldSpelling.names served) : readers.find? (·.name == key) = none := by
  induction serve with
  | nil => rfl
  | cons serves _ ih =>
    obtain ⟨other, unknown⟩ := List.ne_and_not_mem_of_not_mem_cons unknown
    rw [List.find?_cons_of_neg, ih unknown]
    rw [serves.name]
    exact fun same => other (eq_of_beq same).symm

private theorem find?_known (serve : List.Forall₂ (Serves fields s depth) readers served)
    (known : key ∈ FieldSpelling.names served) : ∃ reader, ∃ field ∈ served,
      readers.find? (·.name == key) = some reader ∧ key = field.name ∧
        Serves fields s depth reader field := by
  induction serve with
  | nil => cases known
  | @cons reader field readers served serves _ ih =>
    by_cases same : key = field.name
    · refine ⟨reader, field, List.mem_cons_self, List.find?_cons_of_pos ?_, same, serves⟩
      rw [serves.name, same]
      exact beq_self_eq_true _
    · obtain ⟨later, other, among, found, named, servesLater⟩ :=
        ih ((List.mem_cons.mp known).resolve_left same)
      refine ⟨later, other, List.mem_cons_of_mem _ among, ?_, named, servesLater⟩
      rw [List.find?_cons_of_neg, found]
      rw [serves.name]
      exact fun equal => same (eq_of_beq equal).symm

end find

section reading

variable {depth fuel : Nat} {readers : List (FieldReader σ)} {members : List Member}
  {ending blank : List Char}

/-- A state on the way: the fields that were seen are the structure's, the others are still
what reading started with. -/
def Partway (fields : List (FieldSpelling σ)) (start s : σ) (seen : List String) (state : σ) :
    Prop :=
  ∀ field ∈ fields, field.get state = if field.name ∈ seen then field.get s else field.get start

private theorem Partway.put {seen : List String} {state : σ}
    (partway : Partway fields start s seen state)
    {key : String} {set : σ → σ}
    (puts : ∀ t, ∀ other ∈ fields,
      other.get (set t) = if other.name = key then other.get s else other.get t) :
    Partway fields start s (key :: seen) (set state) := by
  intro field among
  rw [puts state field among, partway field among]
  by_cases same : field.name = key
  · rw [if_pos same, if_pos (List.mem_cons.mpr (.inl same))]
  · simp only [List.mem_cons, same, false_or]
    rfl

private theorem Partway.congr {seen seen' : List String} {state : σ}
    (partway : Partway fields start s seen state)
    (same : ∀ field ∈ fields, field.name ∈ seen' ↔ field.name ∈ seen) :
    Partway fields start s seen' state := by
  intro field among
  rw [partway field among]
  simp only [same field among]

private theorem FieldsWritten.tail {member : Member}
    (written : FieldsWritten fields s (member :: members)) :
    FieldsWritten fields s members where
  keyed := (List.forall_mem_cons.mp written.keyed).2
  once := written.once.of_cons
  known := (List.forall_mem_cons.mp written.known).2
  unknown := (List.forall_mem_cons.mp written.unknown).2

private theorem readFields_written (serve : List.Forall₂ (Serves fields s depth) readers fields)
    (written : FieldsWritten fields s members) {seen : List String}
    (fresh : ∀ member ∈ members, member.key ∈ FieldSpelling.names fields → member.key ∉ seen)
    {state : σ} (partway : Partway fields start s seen state) (closing : Blank ending)
    (allBlank : Blank blank) (first : Bool) (enough : members.length < fuel)
    (rest : List Symbol) :
    ∃ final, readFields readers depth fuel first seen state (chars blank ++
        (chars (commaed first (members.map Member.spelled)) ++
          (chars ending ++ .char '\x7d' :: rest))) = .ok (final, .char '\x7d' :: rest) ∧
      Partway fields start s (members.map Member.key ++ seen) final := by
  obtain ⟨less, rfl⟩ : ∃ less, fuel = less + 1 := Nat.exists_eq_add_one.mpr (by omega)
  induction members generalizing first less blank seen state with
  | nil =>
    refine ⟨state, ?_, partway⟩
    rw [readFields, nextKey_blank allBlank]
    exact congrArg (· >>= _) (nextKey_end closing first)
  | cons member members ih =>
    have keyed := written.keyed member List.mem_cons_self
    have padded := keyed.padded
    rw [List.length_cons] at enough
    obtain ⟨fewer, rfl⟩ : ∃ fewer, less = fewer + 1 := Nat.exists_eq_add_one.mpr (by omega)
    let onward := chars (commaed false (members.map Member.spelled)) ++
      (chars ending ++ .char '\x7d' :: rest)
    have ends : Ends (chars member.item.after ++ onward) :=
      ends_blank padded.after (ends_commaed _ (ends_blank closing (ends_cons (by decide) _)))
    have split : chars (commaed first ((member :: members).map Member.spelled)) ++
          (chars ending ++ .char '\x7d' :: rest) =
        chars ((if first then [] else [',']) ++ member.spelled) ++ onward := by
      simp only [List.map_cons, commaed, chars, List.map_append, List.append_assoc, onward]
    have item : chars member.item.spelled ++ onward = chars member.item.before ++
        (chars member.item.text ++ (chars member.item.after ++ onward)) := by
      simp only [Item.spelled, chars, List.map_append, List.append_assoc]
    by_cases isKnown : member.key ∈ FieldSpelling.names fields
    · obtain ⟨reader, field, among, found, same, serves⟩ := find?_known serve isKnown
      obtain ⟨set, accepts, puts⟩ :=
        serves.reads _ (written.known member List.mem_cons_self field among same)
      have read := accepts _ _ padded.before ends
      rw [← same] at puts
      have freshLater : ∀ later ∈ members, later.key ∈ FieldSpelling.names fields →
          later.key ∉ member.key :: seen := by
        intro later inside laterKnown
        rw [List.mem_cons, not_or]
        constructor
        · intro equal
          exact (List.pairwise_cons.mp written.once).1 later inside equal.symm isKnown
        · exact fresh later (List.mem_cons_of_mem _ inside) laterKnown
      obtain ⟨final, tail, done⟩ := ih written.tail freshLater (partway.put puts) padded.after false
        fewer (by omega)
      refine ⟨final, ?_, done.congr ?_⟩
      · have unseen : seen.contains member.key = false := by
          simpa using fresh member List.mem_cons_self isKnown
        rw [split, readFields, nextKey_blank allBlank, nextKey_commaed keyed first onward]
        simp only [bind, Except.bind, found, unseen, readColon_gap keyed.gap, item, read]
        exact tail
      · intro field _
        simp only [List.map_cons, List.mem_append, List.mem_cons, List.cons_append]
        tauto
    · obtain ⟨final, tail, done⟩ := ih written.tail
        (fun later inside => fresh later (List.mem_cons_of_mem _ inside)) partway padded.after false
        fewer (by omega)
      refine ⟨final, ?_, done.congr ?_⟩
      · have skipped := skipValue_loose (written.unknown member List.mem_cons_self isKnown)
          padded.before ends
        rw [split, readFields, nextKey_blank allBlank, nextKey_commaed keyed first onward]
        simp only [bind, Except.bind, find?_unknown serve isKnown, readColon_gap keyed.gap, item,
          skipped]
        exact tail
      · intro field among
        have other : field.name ≠ member.key := by
          intro same
          exact isKnown (same ▸ List.mem_map_of_mem among)
        simp only [List.map_cons, List.mem_append, List.mem_cons, List.cons_append, other, false_or]

/-- A structure is read from each of its texts, if its fields are all there is to it. -/
theorem accepts_structure {name : String} {text : List Char}
    (serve : List.Forall₂ (Serves fields s (depth + 1)) readers fields)
    (whole : ∀ t, (∀ field ∈ fields, field.get t = field.get s) → t = s)
    (structured : Structured fields start s text) :
    AcceptsAs (readStructure name readers start) (depth + 2) text s := by
  obtain ⟨members, ending, written, left, closing, rfl⟩ := structured
  intro before rest leading _
  let body := chars (commaed true (members.map Member.spelled)) ++
    (chars ending ++ .char '\x7d' :: rest)
  have size := length_le_commaed true members
  have begun : Partway fields start s [] start := by
    intro field _
    rw [if_neg List.not_mem_nil]
  obtain ⟨final, read, done⟩ := readFields_written serve written (fun _ _ _ => List.not_mem_nil)
    begun closing .nil true (by simp [steps, body]; omega : members.length < steps body) rest
  have same : final = s := by
    refine whole final ?_
    intro field among
    rw [done field among, List.append_nil]
    split
    · rfl
    next absent => exact (left field among absent).symm
  have shown : chars ('\x7b' :: (commaed true (members.map Member.spelled) ++
      (ending ++ ['\x7d']))) ++ rest = .char '\x7b' :: body := by
    simp [body]
  unfold readStructure
  rw [shown, skip_to leading rfl]
  change (if depth + 2 ≤ 1 then _ else _) = _
  rw [if_neg (by omega)]
  change closed endMembers (readFields readers (depth + 1) (steps body) true [] start
    (chars [] ++ body)) = _
  rw [read, same]
  rfl

end reading

def kept (dropped : List String) (members : List (String × Value)) : List (String × Value) :=
  members.filter (·.1 ∉ dropped)

theorem kept_nil (members : List (String × Value)) : kept [] members = members := by
  simp [kept]

/-- An object with the fields in some layout is one of the texts, and so it is without some fields
that are what reading starts with. -/
theorem structured_kept (layout : Layout) (level : Nat) {pairs : List (String × Value)}
    (named : Members.keys pairs = FieldSpelling.names fields)
    (distinct : (FieldSpelling.names fields).Nodup)
    (spells : ∀ pair ∈ pairs, ∀ field ∈ fields, pair.1 = field.name →
      field.spells (field.get s) (layValue layout (level + 1) pair.2)) {dropped : List String}
    (agree : ∀ field ∈ fields, field.name ∈ dropped → field.get s = field.get start) :
    Structured fields start s (layValue layout level (.object (kept dropped pairs))) := by
  have keys := keys_laid layout level (kept dropped pairs)
  have fewer : (Members.keys (kept dropped pairs)).Sublist (FieldSpelling.names fields) :=
    named ▸ List.filter_sublist.map Prod.fst
  refine ⟨(kept dropped pairs).map (laidMember layout level), _, ⟨?_, ?_, ?_, ?_⟩, ?_,
    closing_blank layout level (kept dropped pairs).isEmpty, ?_⟩
  · exact List.forall_mem_map.mpr fun pair _ => laidMember_keyed layout level pair
  · have apart := distinct.sublist fewer
    rw [← keys, List.nodup_iff_pairwise_ne, List.pairwise_map] at apart
    exact apart.imp fun other same => absurd same other
  · refine List.forall_mem_map.mpr ?_
    intro pair inside
    exact spells pair (List.mem_of_mem_filter inside)
  · intro member inside unknown
    exact absurd (fewer.subset (keys ▸ List.mem_map_of_mem inside)) unknown
  · intro field among absent
    rw [keys] at absent
    refine agree field among ?_
    by_contra stays
    have listed : field.name ∈ Members.keys pairs := named ▸ List.mem_map_of_mem among
    obtain ⟨pair, inside, same⟩ := List.mem_map.mp listed
    refine absent (List.mem_map.mpr ⟨pair, List.mem_filter.mpr ⟨inside, ?_⟩, same⟩)
    rw [same]
    exact decide_eq_true stays
  · rw [layValue, layMembers_eq]
    rfl

end RuntimeHandover.Json
