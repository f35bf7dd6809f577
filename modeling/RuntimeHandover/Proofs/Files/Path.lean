import RuntimeHandover.Files.Path
import RuntimeHandover.Proofs.Text.Words

/-! The directories above a path. Each of them is written with the first parts of the path, and
none with all of them. -/
namespace RuntimeHandover.Files.Path
open Text

def partsOf (bytes : List UInt8) : List Name := (Path.mk bytes).parts

theorem partsOf_append (first second : List UInt8) :
    partsOf (first ++ slash :: second) = partsOf first ++ partsOf second := by
  unfold partsOf parts
  rw [pieces_append (by decide), List.filter_append]

/-- The parts of a joined path come from one of the two. -/
theorem mem_join {directory path : Path} {part : Name} (inside : part ∈ (directory.join path).parts) :
    part ∈ directory.parts ∨ part ∈ path.parts := by
  unfold join at inside
  split at inside
  next => exact .inr inside
  next =>
    split at inside
    next ends =>
      rcases Bool.or_eq_true_iff.mp ends with nothing | slashed
      · have empty : directory.bytes = [] := List.isEmpty_iff.mp nothing
        rw [empty] at inside
        exact .inr inside
      · obtain ⟨front, whole⟩ := List.getLast?_eq_some_iff.mp (eq_of_beq slashed)
        have parts : directory.parts = partsOf front ++ partsOf [] := by
          rw [← partsOf_append, ← whole]
          rfl
        rw [whole, List.append_assoc] at inside
        change part ∈ partsOf (front ++ slash :: path.bytes) at inside
        rw [partsOf_append] at inside
        rw [parts]
        rcases List.mem_append.mp inside with before | after
        · exact .inl (List.mem_append_left _ before)
        · exact .inr after
    next =>
      change part ∈ partsOf (directory.bytes ++ slash :: path.bytes) at inside
      rw [partsOf_append] at inside
      exact List.mem_append.mp inside

theorem partsOf_name {name : Name} (whole : slash ∉ name) (some_ : name ≠ []) :
    partsOf name = [name] := by
  have single : pieces (· == slash) name = [name] := by
    apply pieces_single
    intro byte inside
    exact beq_eq_false_iff_ne.mpr (fun same => whole (same ▸ inside))
  unfold partsOf parts
  rw [single, List.filter_cons_of_pos (by simp [some_]), List.filter_nil]

/-- A body is its last part after what is before it, with a slash between if there is one. -/
theorem splitLast_eq (body : List UInt8) :
    slash ∉ (splitLast body).2 ∧
      (body = (splitLast body).1 ++ slash :: (splitLast body).2 ∨
        (splitLast body).1 = [] ∧ body = (splitLast body).2) := by
  have whole : (body.reverse.dropWhile (· != slash)).reverse ++
      (body.reverse.takeWhile (· != slash)).reverse = body := by
    rw [← List.reverse_append, List.takeWhile_append_dropWhile, List.reverse_reverse]
  constructor
  · intro inside
    have taken := List.all_eq_true.mp List.all_takeWhile _ (List.mem_reverse.mp inside)
    simp at taken
  · unfold splitLast
    dsimp only
    cases left : body.reverse.dropWhile (· != slash) with
    | nil =>
      rw [left] at whole
      exact .inr ⟨rfl, whole.symm⟩
    | cons byte rest =>
      have stopped : byte = slash := by
        have head := List.head_dropWhile_not (· != slash) (l := body.reverse) (by simp [left])
        simpa [left] using head
      rw [left, stopped] at whole
      left
      simpa using whole.symm

theorem splitLast_cuts (body : List UInt8) : (splitLast body).1 <+: body := by
  obtain ⟨-, whole | ⟨nothing, -⟩⟩ := splitLast_eq body
  · exact ⟨_, whole.symm⟩
  · rw [nothing]
    exact List.nil_prefix

theorem partsOf_splitLast (body : List UInt8) :
    partsOf body = partsOf (splitLast body).1 ++ partsOf (splitLast body).2 := by
  obtain ⟨-, whole | ⟨nothing, whole⟩⟩ := splitLast_eq body
  · exact (congrArg partsOf whole).trans (partsOf_append _ _)
  · rw [nothing]
    exact congrArg partsOf whole

theorem trimIdle_cuts (body : List UInt8) : trimIdle body <+: body := by
  fun_induction trimIdle body with
  | case1 body none_ => exact List.nil_prefix
  | case2 body _ split idling shorter ih => exact ih.trans (splitLast_cuts body)
  | case3 body => exact List.prefix_refl body
  | case4 body => exact List.prefix_refl body

private theorem partsOf_trimIdle (body : List UInt8) :
    partsOf (trimIdle body) <+: partsOf body := by
  fun_induction trimIdle body with
  | case1 body none_ => exact List.nil_prefix
  | case2 body _ split idling shorter ih =>
    rw [partsOf_splitLast body]
    exact ih.trans (List.prefix_append _ _)
  | case3 body => exact List.prefix_refl _
  | case4 body => exact List.prefix_refl _

theorem splitLast_shorter {body : List UInt8} (some_ : body ≠ []) :
    (splitLast body).1.length < body.length := by
  obtain ⟨-, whole | ⟨nothing, -⟩⟩ := splitLast_eq body
  · have length := congrArg List.length whole
    simp only [List.length_append, List.length_cons] at length
    omega
  · rw [nothing]
    exact List.length_pos_iff.mpr some_

/-- What is left of a body ends in a part that says something. -/
private theorem trimIdle_ends {body : List UInt8} (left : trimIdle body ≠ []) :
    (splitLast (trimIdle body)).2 ≠ [] := by
  fun_induction trimIdle body with
  | case1 body none_ => exact absurd rfl left
  | case2 body _ split idling shorter ih => exact ih left
  | case3 body _ split idling longer => exact absurd (splitLast_shorter left) longer
  | case4 body _ split busy =>
    intro nothing
    apply busy
    have empty : split.2 = [] := nothing
    rw [empty]
    rfl

/-- The parts of a body but for the last that says something, and those that say nothing. -/
private theorem partsOf_before {body : List UInt8} (left : trimIdle body ≠ []) :
    partsOf (trimIdle (splitLast (trimIdle body)).1) <+: (partsOf body).dropLast ∧
      partsOf body ≠ [] := by
  have single := partsOf_name (splitLast_eq (trimIdle body)).1 (trimIdle_ends left)
  have parts := partsOf_splitLast (trimIdle body)
  rw [single] at parts
  obtain ⟨more, whole⟩ := partsOf_trimIdle body
  rw [parts, List.append_assoc] at whole
  rw [← whole]
  refine ⟨?_, by simp⟩
  rw [List.dropLast_append_of_ne_nil (by simp)]
  exact (partsOf_trimIdle _).trans (List.prefix_append _ _)

/-- The parts of a path are those of its lead and those of its body, also when the body is cut. -/
theorem partsOf_lead (path : Path) {body : List UInt8}
    (cut : body <+: path.bytes.drop path.leadLength) :
    partsOf (path.bytes.take path.leadLength ++ body) =
      partsOf (path.bytes.take path.leadLength) ++ partsOf body := by
  unfold leadLength at cut ⊢
  rcases bytes : path.bytes with _ | ⟨first, rest⟩
  · rfl
  · rw [bytes] at cut
    simp only at cut ⊢
    by_cases rooted : first = slash
    · rw [if_pos rooted, rooted]
      exact partsOf_append [] body
    · rw [if_neg rooted] at cut ⊢
      split
      next here =>
        rw [if_pos here] at cut
        -- What follows a leading dot is nothing or begins with a slash.
        rcases body with _ | ⟨byte, more⟩
        · exact (List.append_nil _).symm
        · obtain ⟨later, rfl⟩ := cut
          have slashed : byte = slash := by simpa using (Bool.and_eq_true_iff.mp here).2
          rw [slashed]
          exact (partsOf_append [first] more).trans
            (congrArg (partsOf [first] ++ ·) (partsOf_append [] more).symm)
      next => rfl

/-- A path starts at the root or not by its lead. -/
private theorem isAbsolute_lead (path : Path) {body : List UInt8}
    (cut : body <+: path.bytes.drop path.leadLength) :
    (Path.mk (path.bytes.take path.leadLength ++ body)).isAbsolute = path.isAbsolute := by
  unfold isAbsolute leadLength at *
  rcases bytes : path.bytes with _ | ⟨first, rest⟩
  · rw [bytes] at cut
    rw [List.prefix_nil.mp cut]
    rfl
  · rw [bytes] at cut
    simp only at cut ⊢
    by_cases rooted : first = slash
    · rw [if_pos rooted]
      rfl
    · rw [if_neg rooted] at cut ⊢
      split
      next => rfl
      next away =>
        rw [if_neg away] at cut
        rcases body with _ | ⟨byte, more⟩
        · simp [rooted]
        · obtain ⟨later, same⟩ := cut
          cases same
          rfl

theorem leadLength_le (path : Path) : path.leadLength ≤ 1 := by
  unfold leadLength
  split
  next =>
    split
    next => exact Nat.le_refl 1
    next =>
      split
      next => exact Nat.le_refl 1
      next => exact Nat.zero_le 1
  next => exact Nat.zero_le 1

/-- The directory above a path is written with its first parts, but not with all. -/
theorem parent_of_split {path parent : Path} {last : Name}
    (cut : path.split? = some (parent, last)) :
    parent.isAbsolute = path.isAbsolute ∧ parent.parts <+: path.parts.dropLast := by
  have whole : path.bytes.take path.leadLength ++ path.bytes.drop path.leadLength = path.bytes :=
    List.take_append_drop _ _
  have parts : path.parts = partsOf (path.bytes.take path.leadLength) ++
      partsOf (path.bytes.drop path.leadLength) := by
    rw [← partsOf_lead path (List.prefix_refl _), whole]
    rfl
  unfold split? at cut
  dsimp only at cut
  split at cut
  next =>
    split at cut
    next => cases cut
    next dotted =>
      cases cut
      refine ⟨?_, List.nil_prefix⟩
      have started := isAbsolute_lead path List.nil_prefix
      rw [← started, List.append_nil]
      -- The lead is one byte long, and not a slash.
      rcases lead : path.bytes.take path.leadLength with _ | ⟨byte, rest⟩
      · rfl
      · have length := congrArg List.length lead
        have short := leadLength_le path
        rw [List.length_take, List.length_cons] at length
        have alone : rest = [] := List.eq_nil_of_length_eq_zero (by omega)
        rw [lead, alone] at dotted
        simpa [isAbsolute] using dotted
  next some_left =>
    cases cut
    have left : trimIdle (path.bytes.drop path.leadLength) ≠ [] := by simpa using some_left
    obtain ⟨before, some_parts⟩ := partsOf_before left
    have within : trimIdle (splitLast (trimIdle (path.bytes.drop path.leadLength))).1 <+:
        path.bytes.drop path.leadLength :=
      (trimIdle_cuts _).trans ((splitLast_cuts _).trans (trimIdle_cuts _))
    constructor
    · exact isAbsolute_lead path within
    · rw [parts, List.dropLast_append_of_ne_nil some_parts]
      have kept := partsOf_lead path within
      change partsOf _ <+: _
      rw [kept]
      exact (List.prefix_append_right_inj _).mpr before

/-- The last part of a path that says something is one of its parts, and has no parts itself. -/
theorem last_of_split {path parent : Path} {last : Name}
    (cut : path.split? = some (parent, last)) (named : last ≠ dot) :
    last ∈ path.parts ∧ partsOf last = [last] := by
  unfold split? at cut
  dsimp only at cut
  split at cut
  next =>
    split at cut
    next => cases cut
    next =>
      cases cut
      exact absurd rfl named
  next some_left =>
    cases cut
    have left : trimIdle (path.bytes.drop path.leadLength) ≠ [] := by simpa using some_left
    have single := partsOf_name (splitLast_eq (trimIdle (path.bytes.drop path.leadLength))).1
      (trimIdle_ends left)
    refine ⟨?_, single⟩
    have whole : path.bytes.take path.leadLength ++ path.bytes.drop path.leadLength = path.bytes :=
      List.take_append_drop _ _
    have parts : path.parts = partsOf (path.bytes.take path.leadLength) ++
        partsOf (path.bytes.drop path.leadLength) := by
      rw [← partsOf_lead path (List.prefix_refl _), whole]
      rfl
    rw [parts]
    refine List.mem_append_right _ ((partsOf_trimIdle _).subset ?_)
    rw [partsOf_splitLast, single]
    exact List.mem_append_right _ List.mem_cons_self

theorem mem_ancestors {path above : Path} (upper : above ∈ path.ancestors) :
    above.isAbsolute = path.isAbsolute ∧ above.parts <+: path.parts := by
  fun_induction ancestors path with
  | case1 => cases upper
  | case2 => cases upper
  | case3 path parent last cut _ shorter ih =>
    rcases List.mem_cons.mp upper with rfl | higher
    · exact ⟨rfl, List.prefix_refl _⟩
    · obtain ⟨absolute, before⟩ := parent_of_split cut
      obtain ⟨same, first⟩ := ih higher
      exact ⟨same.trans absolute, first.trans (before.trans (List.dropLast_prefix _))⟩
  | case4 path =>
    rw [List.mem_singleton.mp upper]
    exact ⟨rfl, List.prefix_refl _⟩

/-- The directories that are made for a path. -/
theorem mem_parent_ancestors {path parent above : Path} (upper : path.parent? = some parent)
    (higher : above ∈ parent.ancestors) :
    above.isAbsolute = path.isAbsolute ∧ above.parts <+: path.parts.dropLast := by
  obtain ⟨⟨_, last⟩, cut, rfl⟩ := Option.map_eq_some_iff.mp upper
  obtain ⟨absolute, before⟩ := parent_of_split cut
  obtain ⟨same, first⟩ := mem_ancestors higher
  exact ⟨same.trans absolute, first.trans before⟩

end RuntimeHandover.Files.Path
