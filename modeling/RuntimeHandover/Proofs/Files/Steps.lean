import RuntimeHandover.Proofs.Files.Path

/-! The steps of a path are its parts without the dots. The directory above a path has all of its
steps but the last. -/
namespace RuntimeHandover.Files

structure PlainName (name : Name) : Prop where
  some : name ≠ []
  whole : slash ∉ name
  noNul : 0 ∉ name
  notDot : name ≠ dot
  notDots : name ≠ dotDot

instance (name : Name) : Decidable (PlainName name) :=
  decidable_of_iff (name ≠ [] ∧ slash ∉ name ∧ 0 ∉ name ∧ name ≠ dot ∧ name ≠ dotDot)
    ⟨fun ⟨some_, whole, noNul, notDot, notDots⟩ => ⟨some_, whole, noNul, notDot, notDots⟩,
      fun plain => ⟨plain.some, plain.whole, plain.noNul, plain.notDot, plain.notDots⟩⟩

namespace Path
open Text

def stepsOf (bytes : List UInt8) : List Name := (partsOf bytes).filter (· ≠ dot)

def steps (path : Path) : List Name := stepsOf path.bytes

section bodies

variable {body front : List UInt8} {name : Name}

private theorem stepsOf_splitLast (body : List UInt8) :
    stepsOf body = stepsOf (splitLast body).1 ++ stepsOf (splitLast body).2 := by
  unfold stepsOf
  rw [partsOf_splitLast body, List.filter_append]

private theorem stepsOf_idle (idling : idle name = true) : stepsOf name = [] := by
  rcases Bool.or_eq_true_iff.mp idling with nothing | dotted
  · rw [List.isEmpty_iff.mp nothing]
    rfl
  · rw [eq_of_beq dotted]
    decide

private theorem stepsOf_trimIdle (body : List UInt8) : stepsOf (trimIdle body) = stepsOf body := by
  fun_induction trimIdle body with
  | case1 body none_ =>
    rw [List.isEmpty_iff.mp none_]
  | case2 body _ split idling shorter ih =>
    rw [ih, stepsOf_splitLast body, stepsOf_idle idling, List.append_nil]
  | case3 body => rfl
  | case4 body => rfl

theorem trimIdle_busy (busy : idle (splitLast body).2 = false) : trimIdle body = body := by
  rw [trimIdle]
  split
  next none_ => exact (List.isEmpty_iff.mp none_).symm
  next =>
    dsimp only
    rw [if_neg (by simp [busy])]

/-- What is left of a body ends in a step. -/
private theorem busy_trimIdle (left : trimIdle body ≠ []) :
    idle (splitLast (trimIdle body)).2 = false := by
  fun_induction trimIdle body with
  | case1 body none_ => exact absurd rfl left
  | case2 body _ split idling shorter ih => exact ih left
  | case3 body _ split idling longer => exact absurd (splitLast_shorter left) longer
  | case4 body _ split busy => exact Bool.not_eq_true _ ▸ busy

private theorem trimIdle_trimIdle (body : List UInt8) :
    trimIdle (trimIdle body) = trimIdle body := by
  by_cases left : trimIdle body = []
  · rw [left, trimIdle]
    rfl
  · exact trimIdle_busy (busy_trimIdle left)

def Parted (front : List UInt8) : Prop := front = [] ∨ ∃ upper, front = upper ++ [slash]

private theorem splitLast_slash (whole : slash ∉ name) (upper : List UInt8) :
    splitLast (upper ++ slash :: name) = (upper, name) := by
  have taken : ∀ byte ∈ name.reverse, (byte != slash) = true := by
    intro byte inside
    refine bne_iff_ne.mpr fun same => whole ?_
    rw [← same]
    exact List.mem_reverse.mp inside
  unfold splitLast
  dsimp only
  rw [List.reverse_append, List.reverse_cons, List.append_assoc,
    List.takeWhile_append_of_pos taken, List.dropWhile_append_of_pos taken]
  simp

theorem splitLast_named (whole : slash ∉ name) (parted : Parted front) :
    (splitLast (front ++ name)).2 = name := by
  rcases parted with rfl | ⟨upper, rfl⟩
  · obtain ⟨-, split | ⟨-, same⟩⟩ := splitLast_eq name
    · exact absurd (split ▸ List.mem_append_right _ List.mem_cons_self) whole
    · exact same.symm
  · rw [List.append_assoc, List.singleton_append, splitLast_slash whole]

end bodies

def body (path : Path) : List UInt8 := path.bytes.drop path.leadLength

def lead (path : Path) : List UInt8 := path.bytes.take path.leadLength

def Tidy (path : Path) : Prop := trimIdle path.body = path.body

section tidy

variable {path parent : Path} {last name : Name} {front : List UInt8}

private theorem lead_body (path : Path) :
    path.lead ++ path.body = path.bytes := List.take_append_drop _ _

private theorem trimIdle_dot : trimIdle dot = [] := by
  rw [trimIdle]
  change trimIdle [] = []
  rw [trimIdle]
  rfl

/-- A path that is cut after some of its body keeps its lead. -/
private theorem body_cut {cut : List UInt8} (begins : cut <+: path.body)
    (tidy : trimIdle cut = cut) :
    (Path.mk (path.lead ++ cut)).body = cut := by
  unfold lead body leadLength at *
  rcases bytes : path.bytes with _ | ⟨first, rest⟩
  · rw [bytes] at begins
    rw [List.prefix_nil.mp begins]
    rfl
  · rw [bytes] at begins
    simp only at begins ⊢
    by_cases rooted : first = slash
    · simp [rooted]
    · rw [if_neg rooted] at begins ⊢
      by_cases here : (first = 0x2E && (rest.isEmpty || rest.head? == some slash)) = true
      · -- What follows a leading dot is nothing or begins with a slash, also when it is cut.
        obtain ⟨dotted, ends⟩ := Bool.and_eq_true_iff.mp here
        rw [if_pos here] at begins ⊢
        have follows : (cut.isEmpty || cut.head? == some slash) = true := by
          rcases cut with _ | ⟨byte, more⟩
          · rfl
          · obtain ⟨later, rfl⟩ := begins
            simpa using ends
        simp only [List.take_succ_cons, List.take_zero, List.singleton_append, if_neg rooted,
          dotted, follows, Bool.and_self, if_true]
        rfl
      · rw [if_neg here] at begins ⊢
        rcases cut with _ | ⟨byte, more⟩
        · rfl
        · obtain ⟨later, same⟩ := begins
          obtain ⟨rfl, rfl⟩ : byte = first ∧ more ++ later = rest := List.cons.inj same
          have staying : (byte = 0x2E && (more.isEmpty || more.head? == some slash)) = false := by
            rw [Bool.eq_false_iff]
            intro alone
            obtain ⟨dotted, ends⟩ := Bool.and_eq_true_iff.mp alone
            rcases more with _ | ⟨next, more⟩
            · rw [of_decide_eq_true dotted] at tidy
              exact absurd (trimIdle_dot.symm.trans tidy) (by decide)
            · exact here (Bool.and_eq_true_iff.mpr ⟨dotted, by simpa using ends⟩)
          simp [rooted, staying]

private theorem steps_eq (path : Path) : path.steps = stepsOf path.lead ++ stepsOf path.body := by
  have parts := partsOf_lead path (List.prefix_refl path.body)
  unfold steps stepsOf
  rw [← List.filter_append, ← lead_body path]
  exact congrArg _ parts

private theorem split?_tidy (tidy : path.Tidy) : path.split? =
    if path.body = [] then
      if path.lead = [slash] ∨ path.lead = [] then none else some (⟨[]⟩, dot)
    else some (⟨path.lead ++ trimIdle (splitLast path.body).1⟩, (splitLast path.body).2) := by
  unfold split?
  have trimmed : trimIdle (path.bytes.drop path.leadLength) = path.body := tidy
  dsimp only
  rw [trimmed]
  change (if path.body.isEmpty then if path.lead == [slash] || path.lead.isEmpty then none else
    some (Path.mk [], dot)
    else some (Path.mk (path.lead ++ trimIdle (splitLast path.body).1), _)) = _
  simp

/-- Where a path is cut that ends in a step. -/
private theorem cut_of_tidy (tidy : path.Tidy) (cut : path.split? = some (parent, last))
    (step : last ≠ dot) :
    parent = ⟨path.lead ++ trimIdle (splitLast path.body).1⟩ ∧ last = (splitLast path.body).2 ∧
      last ≠ [] := by
  rw [split?_tidy tidy] at cut
  split at cut
  next =>
    split at cut
    next => cases cut
    next =>
      cases cut
      exact absurd rfl step
  next some_ =>
    cases cut
    have left : trimIdle path.body ≠ [] := by rwa [tidy]
    have busy := busy_trimIdle left
    rw [tidy] at busy
    refine ⟨rfl, rfl, ?_⟩
    intro nothing
    rw [nothing] at busy
    cases busy

private theorem cuts_above (path : Path) :
    trimIdle (splitLast path.body).1 <+: path.body := (trimIdle_cuts _).trans (splitLast_cuts _)

/-- The last step of a path, in the directory above it. -/
theorem parts_of_tidy (tidy : path.Tidy) (cut : path.split? = some (parent, last))
    (step : last ≠ dot) :
    ∃ front, path.parts = front ++ [last] ∧ front.filter (· ≠ dot) = parent.steps := by
  obtain ⟨rfl, rfl, named⟩ := cut_of_tidy tidy cut step
  have whole := (splitLast_eq path.body).1
  refine ⟨partsOf path.lead ++ partsOf (splitLast path.body).1, ?_, ?_⟩
  · have parts := partsOf_lead path (List.prefix_refl path.body)
    change partsOf path.bytes = _
    rw [← lead_body path, List.append_assoc, ← partsOf_name whole named, ← partsOf_splitLast]
    exact parts
  · rw [List.filter_append]
    change stepsOf path.lead ++ stepsOf (splitLast path.body).1 = _
    rw [← stepsOf_trimIdle (splitLast path.body).1]
    unfold steps stepsOf
    rw [← List.filter_append]
    exact congrArg _ (partsOf_lead path (cuts_above path)).symm

theorem tidy_above (tidy : path.Tidy) (cut : path.split? = some (parent, last))
    (step : last ≠ dot) : parent.Tidy := by
  obtain ⟨rfl, -⟩ := cut_of_tidy tidy cut step
  unfold Tidy
  rw [body_cut (cuts_above path) (trimIdle_trimIdle _), trimIdle_trimIdle]

theorem noSlash_of_tidy (tidy : path.Tidy) (cut : path.split? = some (parent, last))
    (step : last ≠ dot) : path.endsInSlash = false := by
  obtain ⟨-, rfl, named⟩ := cut_of_tidy tidy cut step
  obtain ⟨whole, ends⟩ := splitLast_eq path.body
  obtain ⟨front, final, split⟩ := List.eq_nil_or_concat _ |>.resolve_left named
  have other : final ≠ slash := by
    rintro rfl
    exact whole (by simp [split])
  have ending : ∃ upper, path.bytes = upper ++ (splitLast path.body).2 := by
    rw [← lead_body path]
    rcases ends with ends | ⟨-, ends⟩
    · refine ⟨path.lead ++ ((splitLast path.body).1 ++ [slash]), ?_⟩
      rw [List.append_assoc, List.append_assoc, List.singleton_append, ← ends]
    · exact ⟨path.lead, congrArg _ ends⟩
  obtain ⟨upper, ending⟩ := ending
  have last : path.bytes.getLast? = some final := by
    rw [ending, split, List.concat_eq_append, ← List.append_assoc, List.getLast?_concat]
  simp [endsInSlash, last, other]

theorem steps_of_tidy (tidy : path.Tidy) (cut : path.split? = some (parent, last))
    (step : last ≠ dot) : path.steps = parent.steps ++ [last] := by
  obtain ⟨front, parts, before⟩ := parts_of_tidy tidy cut step
  change path.parts.filter (· ≠ dot) = _
  rw [parts, List.filter_append, before, List.filter_singleton]
  simp [step]

private theorem lead_cases (path : Path) : path.lead = [] ∨ path.lead =
    [slash] ∨ path.lead = dot := by
  unfold lead leadLength
  rcases bytes : path.bytes with _ | ⟨first, rest⟩
  · exact .inl rfl
  · by_cases rooted : first = slash
    · simp [rooted]
    · by_cases here : (first = 0x2E && (rest.isEmpty || rest.head? == some slash)) = true
      · have dotted : first = 0x2E := of_decide_eq_true (Bool.and_eq_true_iff.mp here).1
        dsimp only
        rw [if_neg rooted, if_pos here, dotted]
        exact .inr (.inr rfl)
      · simp [rooted, here]

theorem dot_of_tidy (tidy : path.Tidy) (cut : path.split? = some (parent, dot)) :
    path.bytes = dot ∧ parent = ⟨[]⟩ := by
  rw [split?_tidy tidy] at cut
  split at cut
  next empty =>
    split at cut
    next => cases cut
    next dotted =>
      cases cut
      obtain ⟨notRoot, some_⟩ := not_or.mp dotted
      refine ⟨?_, rfl⟩
      rw [← lead_body path, empty, List.append_nil]
      exact path.lead_cases.resolve_left some_ |>.resolve_left notRoot
  next some_ =>
    have left : trimIdle path.body ≠ [] := by rwa [tidy]
    have busy := busy_trimIdle left
    rw [tidy, (Prod.ext_iff.mp (Option.some.inj cut)).2] at busy
    cases busy

theorem steps_of_unsplit (tidy : path.Tidy) (cut : path.split? = none) : path.steps = [] := by
  rw [split?_tidy tidy] at cut
  split at cut
  next empty =>
    split at cut
    next lead =>
      rw [steps_eq, empty]
      rcases lead with lead | lead
      · rw [lead]
        decide
      · rw [lead]
        rfl
    next => cases cut
  next => cases cut

theorem prefix_of_split (tidy : path.Tidy) (cut : path.split? = some (parent, last)) :
    parent.bytes <+: path.bytes := by
  rw [split?_tidy tidy] at cut
  split at cut
  next =>
    split at cut
    next => cases cut
    next =>
      cases cut
      exact List.nil_prefix
  next =>
    cases cut
    rw [← lead_body path]
    exact (List.prefix_append_right_inj _).mpr (cuts_above path)

theorem shorter_of_split (tidy : path.Tidy) (cut : path.split? = some (parent, last)) :
    parent.bytes.length < path.bytes.length := by
  have length := congrArg List.length (lead_body path)
  rw [List.length_append] at length
  rw [split?_tidy tidy] at cut
  split at cut
  next =>
    split at cut
    next => cases cut
    next dotted =>
      cases cut
      have some_ : path.lead ≠ [] := fun nothing => dotted (.inr nothing)
      have positive := List.length_pos_iff.mpr some_
      change 0 < _
      omega
  next some_ =>
    cases cut
    have cuts := (trimIdle_cuts (splitLast path.body).1).length_le
    have shorter := splitLast_shorter some_
    rw [List.length_append]
    omega

end tidy

section joined

variable {path directory : Path} {name : Name} {front : List UInt8}

private theorem leadLength_of_name (plain : PlainName name) : (Path.mk name).leadLength = 0 := by
  unfold leadLength
  rcases name with _ | ⟨first, rest⟩
  · rfl
  · have other : first ≠ slash := by
      rintro rfl
      exact plain.whole List.mem_cons_self
    have staying : (first = 0x2E && (rest.isEmpty || rest.head? == some slash)) = false := by
      rw [Bool.eq_false_iff]
      intro alone
      obtain ⟨dotted, ends⟩ := Bool.and_eq_true_iff.mp alone
      rcases rest with _ | ⟨next, rest⟩
      · exact plain.notDot (congrArg ([·]) (of_decide_eq_true dotted))
      · have slashed : next = slash := by simpa using ends
        exact plain.whole (by simp [slashed])
    simp [other, staying]

private theorem body_of_ends (plain : PlainName name) (parted : Parted front)
    (bytes : path.bytes = front ++ name) : ∃ upper, Parted upper ∧ path.body = upper ++ name := by
  rcases parted with rfl | ⟨upper, rfl⟩
  · refine ⟨[], .inl rfl, ?_⟩
    obtain rfl : path = ⟨name⟩ := congrArg Path.mk bytes
    unfold body
    rw [leadLength_of_name plain]
    rfl
  · unfold body
    rw [bytes]
    obtain none_ | one : path.leadLength = 0 ∨ path.leadLength = 1 := by
      have short := leadLength_le path
      omega
    · rw [none_]
      exact ⟨_, .inr ⟨upper, rfl⟩, rfl⟩
    · rw [one]
      rcases upper with _ | ⟨byte, upper⟩
      · exact ⟨[], .inl rfl, rfl⟩
      · exact ⟨_, .inr ⟨upper, rfl⟩, rfl⟩

/-- A path that ends in a name is split there. -/
private theorem split?_of_ends (plain : PlainName name) (parted : Parted front)
    (bytes : path.bytes = front ++ name) :
    path.Tidy ∧ ∃ parent, path.split? = some (parent, name) := by
  obtain ⟨upper, parted, body⟩ := body_of_ends plain parted bytes
  have last : (splitLast path.body).2 = name := by
    rw [body]
    exact splitLast_named plain.whole parted
  have busy : idle name = false := by
    simp [idle, plain.some, plain.notDot]
  have tidy : path.Tidy := trimIdle_busy (last ▸ busy)
  have cut := split?_tidy tidy
  rw [if_neg (by simp [body, plain.some]), last] at cut
  exact ⟨tidy, _, cut⟩

theorem relative_of_name (plain : PlainName name) : (Path.mk name).isAbsolute = false := by
  rcases name with _ | ⟨first, rest⟩
  · rfl
  · have other : first ≠ slash := by
      rintro rfl
      exact plain.whole List.mem_cons_self
    simp [isAbsolute, other]

private theorem join_ends (plain : PlainName name) (directory : Path) :
    ∃ front, Parted front ∧ (directory.join ⟨name⟩).bytes = front ++ name ∧
      partsOf front = directory.parts ∧
      (directory.join ⟨name⟩).isAbsolute = directory.isAbsolute := by
  have relative := relative_of_name plain
  obtain ⟨bytes⟩ := directory
  unfold join
  rw [if_neg (by simp [relative])]
  split
  next ends =>
    refine ⟨bytes, ?_, rfl, rfl, ?_⟩
    · rcases Bool.or_eq_true_iff.mp ends with nothing | slashed
      · exact .inl (List.isEmpty_iff.mp nothing)
      · exact .inr (List.getLast?_eq_some_iff.mp (eq_of_beq slashed))
    · rcases bytes with _ | ⟨byte, rest⟩
      · exact relative
      · rfl
  next ends =>
    refine ⟨bytes ++ [slash], .inr ⟨bytes, rfl⟩, ?_, ?_, ?_⟩
    · simp
    · rw [partsOf_append]
      exact List.append_nil _
    · rcases bytes with _ | ⟨byte, rest⟩
      · exact absurd rfl ends
      · rfl

private theorem partsOf_ends (plain : PlainName name) (parted : Parted front) :
    partsOf (front ++ name) = partsOf front ++ [name] := by
  have single := partsOf_name plain.whole plain.some
  rcases parted with rfl | ⟨upper, rfl⟩
  · exact single
  · rw [List.append_assoc, List.singleton_append, partsOf_append, partsOf_append, single]
    exact congrArg (· ++ [name]) (List.append_nil _).symm

structure Below (directory path : Path) (name : Name) (parent : Path) : Prop where
  tidy : path.Tidy
  cut : path.split? = some (parent, name)
  steps : parent.steps = directory.steps
  starts : parent.isAbsolute = directory.isAbsolute
  whole : path.isAbsolute = directory.isAbsolute

theorem exists_below (plain : PlainName name) (directory : Path) :
    ∃ parent, Below directory (directory.join ⟨name⟩) name parent := by
  obtain ⟨front, parted, bytes, parts, absolute⟩ := join_ends plain directory
  obtain ⟨tidy, parent, cut⟩ := split?_of_ends plain parted bytes
  have steps := steps_of_tidy tidy cut plain.notDot
  have ended : (directory.join ⟨name⟩).steps = directory.steps ++ [name] := by
    change (partsOf (directory.join ⟨name⟩).bytes).filter _ = directory.parts.filter _ ++ _
    rw [bytes, partsOf_ends plain parted, parts, List.filter_append, List.filter_singleton]
    simp [plain.notDot]
  refine ⟨parent, tidy, cut, ?_, (parent_of_split cut).1.trans absolute, absolute⟩
  rw [ended] at steps
  exact (List.append_cancel_right steps).symm

theorem join_of_isAbsolute (absolute : path.isAbsolute = true) (directory : Path) :
    directory.join path = path := if_pos absolute

/-- The bytes of a joined path are those of the two and a slash between, if there is none. -/
theorem join_bytes (relative : path.isAbsolute = false) (directory : Path) :
    (directory.join path).bytes = directory.bytes ++
      (if directory.isEmpty || directory.bytes.getLast? == some slash then [] else [slash]) ++
      path.bytes := by
  unfold join
  rw [if_neg (by simp [relative])]
  split
  next => rw [List.append_nil]
  next => rw [List.append_assoc, List.singleton_append]

theorem length_join (relative : path.isAbsolute = false) (directory : Path) :
    directory.bytes.length + path.bytes.length ≤ (directory.join path).bytes.length := by
  rw [join_bytes relative, List.length_append, List.length_append]
  omega

/-- A tidy directory that does not end in a slash is the one above what is joined to it. -/
theorem split?_join (plain : PlainName name) (tidy : directory.Tidy) (some_ : directory.bytes ≠ [])
    (open_ : directory.bytes.getLast? ≠ some slash) :
    (directory.join ⟨name⟩).split? = some (directory, name) := by
  have bytes : directory.join ⟨name⟩ = ⟨directory.bytes ++ slash :: name⟩ := by
    unfold join
    rw [if_neg (by simp [relative_of_name plain]), if_neg (by simp [isEmpty, some_, open_])]
  have length : (Path.mk (directory.bytes ++ slash :: name)).leadLength = directory.leadLength := by
    obtain ⟨first, rest, whole⟩ := List.exists_cons_of_ne_nil some_
    unfold leadLength
    rw [whole]
    cases rest with
    | nil => simp
    | cons next rest => simp
  have short := List.length_pos_iff.mpr some_
  have most := leadLength_le directory
  have body :
      (Path.mk (directory.bytes ++ slash :: name)).body = directory.body ++ slash :: name := by
    unfold body
    rw [length]
    exact List.drop_append_of_le_length (by omega)
  have lead : (Path.mk (directory.bytes ++ slash :: name)).lead = directory.lead := by
    unfold lead
    rw [length]
    exact List.take_append_of_le_length (by omega)
  have last := splitLast_slash plain.whole directory.body
  have busy : idle name = false := by
    simp [idle, plain.some, plain.notDot]
  have below : (Path.mk (directory.bytes ++ slash :: name)).Tidy := by
    refine trimIdle_busy ?_
    rw [body, last]
    exact busy
  have upper : trimIdle directory.body = directory.body := tidy
  rw [bytes, split?_tidy below, body, if_neg (by simp), last, lead]
  dsimp only
  rw [upper, lead_body]

/-- A path is joined below a directory step by step. -/
theorem steps_join (relative : path.isAbsolute = false) (directory : Path) :
    (directory.join path).steps = directory.steps ++ path.steps ∧
      (directory.join path).isAbsolute = directory.isAbsolute := by
  obtain ⟨bytes⟩ := directory
  have slashed (upper more : List UInt8) :
      stepsOf (upper ++ slash :: more) = stepsOf (upper ++ [slash]) ++ stepsOf more := by
    unfold stepsOf
    rw [partsOf_append, partsOf_append, List.filter_append, List.filter_append]
    exact congrArg (· ++ _) (List.append_nil _).symm
  unfold join
  rw [if_neg (by simp [relative])]
  split
  next ends =>
    rcases Bool.or_eq_true_iff.mp ends with nothing | ended
    · have empty : bytes = [] := List.isEmpty_iff.mp nothing
      subst empty
      exact ⟨rfl, relative⟩
    · obtain ⟨upper, split⟩ := List.getLast?_eq_some_iff.mp (eq_of_beq ended)
      have whole : bytes = upper ++ [slash] := split
      subst whole
      refine ⟨?_, ?_⟩
      · change stepsOf ((upper ++ [slash]) ++ path.bytes) = _
        rw [List.append_assoc, List.singleton_append]
        exact slashed upper path.bytes
      · rcases upper with _ | ⟨byte, upper⟩
        · rfl
        · rfl
  next ends =>
    refine ⟨?_, ?_⟩
    · change stepsOf (bytes ++ slash :: path.bytes) = stepsOf bytes ++ _
      unfold stepsOf
      rw [partsOf_append, List.filter_append]
      rfl
    · rcases bytes with _ | ⟨byte, rest⟩
      · exact absurd rfl ends
      · rfl

end joined

end Path

end RuntimeHandover.Files
