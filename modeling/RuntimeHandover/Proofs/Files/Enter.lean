import RuntimeHandover.Proofs.Files.Steps
import RuntimeHandover.Proofs.Files.Tree

/-! Entering a directory by the steps that lead to it. A path that ends in a step names an entry of
the directory that the steps before it lead to. -/
namespace RuntimeHandover.Files

namespace Tree

def Rooted (tree : Tree) : Prop :=
  ∀ spot name entry, tree.at? (spot ++ [name]) = some entry → tree.at? spot = some .directory

def enter (tree : Tree) (start : Spot) (names : List Name) : Except OsFault Spot :=
  tree.walk mostLinks start (names ++ [dot])

section walks

variable {tree changed : Tree} {links : Nat} {here there start : Spot} {names more : List Name}

private theorem walk_append_error {fault : OsFault}
    (failed : tree.walk links here names = .error fault) :
    tree.walk links here (names ++ more) = .error fault := by
  fun_induction walk tree links here names with
  | case1 => cases failed
  | case2 links here name rest outside =>
    rw [List.cons_append, walk, if_pos outside]
    exact failed
  | case3 links here rest inside ih =>
    rw [List.cons_append, walk, if_neg inside, if_pos rfl]
    exact ih failed
  | case4 links here rest inside other ih =>
    rw [List.cons_append, walk, if_neg inside, if_neg other, if_pos rfl]
    exact ih failed
  | case5 links here name rest inside notDot notDots long =>
    rw [List.cons_append, walk, if_neg inside, if_neg notDot, if_neg notDots, if_pos long]
    exact failed
  | case6 links here name rest inside notDot notDots short free =>
    rw [List.cons_append, walk, if_neg inside, if_neg notDot, if_neg notDots, if_neg short, free]
    exact failed
  | case7 here name rest inside notDot notDots short target found =>
    rw [List.cons_append, walk, if_neg inside, if_neg notDot, if_neg notDots, if_neg short, found]
    exact failed
  | case8 here name rest inside notDot notDots short target found links start first way ih =>
    rw [List.cons_append, walk, if_neg inside, if_neg notDot, if_neg notDots, if_neg short, found]
    dsimp only
    rw [way, ← List.append_assoc]
    exact ih failed
  | case9 links here name rest inside notDot notDots short entry solid found ih =>
    rw [List.cons_append, walk, if_neg inside, if_neg notDot, if_neg notDots, if_neg short, found]
    split
    next same => cases same
    next same => exact absurd (Option.some.inj same) (solid _)
    next => exact ih failed

/-- A walk goes on from where it arrived, or has failed before. -/
private theorem walk_append (tree : Tree) (start : Spot) (names : List Name) :
    (∃ there left, tree.walk mostLinks start names = .ok there ∧
      ∀ more, tree.walk mostLinks start (names ++ more) = tree.walk left there more) ∨
    ∃ fault, tree.walk mostLinks start names = .error fault ∧
      ∀ more, tree.walk mostLinks start (names ++ more) = .error fault := by
  cases walked : tree.walk mostLinks start names with
  | error fault => exact .inr ⟨fault, rfl, fun more => walk_append_error walked⟩
  | ok there =>
    obtain ⟨left, same⟩ := (arrives_of_walk walked).walk_append
    exact .inl ⟨there, left, rfl, same⟩

private theorem walk_dot (links : Nat) (here : Spot) (names : List Name) :
    tree.walk links here (dot :: names) =
      if tree.isDirectory here then tree.walk links here names else .error .notDirectory := by
  rw [walk]
  cases tree.isDirectory here
  · rfl
  · rfl

theorem enter_eq_ok : tree.enter start names = .ok there ↔
    tree.walk mostLinks start names = .ok there ∧ tree.at? there = some .directory := by
  unfold enter
  obtain ⟨spot, left, walked, same⟩ | ⟨fault, walked, same⟩ := walk_append tree start names
  · rw [same, walked, walk_dot]
    by_cases inside : tree.isDirectory spot = true
    · rw [if_pos inside, walk]
      constructor
      · intro arrived
        cases arrived
        exact ⟨rfl, isDirectory_iff.mp inside⟩
      · exact fun arrived => arrived.1
    · rw [if_neg inside]
      constructor
      · intro arrived
        cases arrived
      · intro arrived
        cases arrived.1
        exact absurd (isDirectory_iff.mpr arrived.2) inside
  · rw [same, walked]
    simp

/-- From a directory that was entered, further names are followed. -/
private theorem walk_of_enter (entered : tree.enter start names = .ok there) :
    ∃ left, ∀ more, tree.walk mostLinks start (names ++ more) = tree.walk left there more :=
  (arrives_of_walk (enter_eq_ok.mp entered).1).walk_append

/-- A dot before other names changes nothing. -/
private theorem walk_past_dot (name : Name) :
    tree.walk mostLinks start (names ++ dot :: name :: more) =
      tree.walk mostLinks start (names ++ name :: more) := by
  obtain ⟨there, left, -, same⟩ | ⟨fault, -, same⟩ := walk_append tree start names
  · rw [same, same, walk_dot]
    split
    next => rfl
    next outside => rw [walk, if_pos (by simpa using outside)]
  · rw [same, same]

private theorem enter_filter (names more : List Name) :
    tree.enter start (names ++ more.filter (· ≠ dot)) = tree.enter start (names ++ more) := by
  induction more generalizing names with
  | nil => rfl
  | cons name rest ih =>
    by_cases dotted : name = dot
    · rw [List.filter_cons_of_neg (by simp [dotted]), ih, dotted]
      unfold enter
      obtain ⟨next, after, split⟩ := List.exists_cons_of_ne_nil
        (List.append_ne_nil_of_right_ne_nil rest (List.cons_ne_nil dot []))
      rw [List.append_assoc, List.append_assoc, List.cons_append, split]
      exact (walk_past_dot next).symm
    · rw [List.filter_cons_of_pos (by simp [dotted])]
      have later := ih (names ++ [name])
      rwa [List.append_assoc, List.append_assoc] at later

private theorem enter_steps (path : Path) :
    tree.enter start path.steps = tree.enter start path.parts :=
  enter_filter [] path.parts

/-- A path leads to a directory by its steps. -/
theorem resolve_directory {home : Spot} {path : Path} (allowed : admitted path = .ok ()) :
    tree.resolve home path = .ok there ∧ tree.at? there = some .directory ↔
      tree.enter (Tree.start home path) path.steps = .ok there := by
  have routed : tree.resolve home path = tree.walk mostLinks (Tree.start home path)
      (if path.endsInSlash then path.parts ++ [dot] else path.parts) := by
    unfold Tree.resolve
    rw [allowed]
    rfl
  rw [routed, enter_steps]
  split
  next =>
    change tree.enter (Tree.start home path) path.parts = _ ∧ _ ↔ _
    exact and_iff_left_of_imp fun entered => (enter_eq_ok.mp entered).2
  next => exact enter_eq_ok.symm

theorem leadsToDirectory_iff {home : Spot} {path : Path} (allowed : admitted path = .ok ()) :
    tree.leadsToDirectory home path = true ↔
      ∃ there, tree.enter (Tree.start home path) path.steps = .ok there := by
  simp only [← resolve_directory allowed]
  unfold Tree.leadsToDirectory
  cases tree.resolve home path with
  | error fault => simp
  | ok spot => simp [isDirectory_iff]

/-- The directories on the way to one are there. -/
theorem enter_before (entered : tree.enter start (names ++ more) = .ok there) :
    ∃ here, tree.enter start names = .ok here := by
  have arrived := (enter_eq_ok.mp entered).2
  unfold enter at entered
  rw [List.append_assoc] at entered
  obtain ⟨here, left, walked, same⟩ | ⟨fault, -, same⟩ := walk_append tree start names
  · refine ⟨here, enter_eq_ok.mpr ⟨walked, ?_⟩⟩
    rw [same] at entered
    exact (arrives_of_walk entered).starts arrived
  · rw [same] at entered
    cases entered

def Within (tree changed : Tree) : Prop :=
  ∀ spot entry, tree.at? spot = some entry → changed.at? spot = some entry

theorem within_put {spot : Spot} (below : spot ≠ []) (free : tree.at? spot = none) (entry : Entry) :
    tree.Within (tree.put spot entry) := by
  intro other standing found
  have different : other ≠ spot := by
    rintro rfl
    rw [free] at found
    cases found
  rw [at?_put tree below, if_neg different, found]

theorem Rooted.put {name : Name} (rooted : tree.Rooted) (inside : tree.at? here = some .directory) :
    (tree.put (here ++ [name]) .directory).Rooted := by
  intro spot last entry found
  rw [at?_put _ (by simp)] at found ⊢
  split
  next => rfl
  next =>
    split at found
    next same =>
      obtain ⟨rfl, -⟩ := List.append_inj' same rfl
      exact inside
    next => exact rooted _ _ _ found

/-- Nothing stands below a directory that was just made. -/
theorem Rooted.empty {name : Name} (rooted : tree.Rooted) (free : tree.at? (here ++ [name]) = none)
    (last : Name) :
    (tree.put (here ++ [name]) .directory).at? (here ++ [name] ++ [last]) = none := by
  rw [at?_put _ (by simp), if_neg (by simp), Option.eq_none_iff_forall_ne_some]
  intro entry found
  have above := rooted _ _ _ found
  rw [free] at above
  cases above

theorem Within.trans {grown : Tree} (first : tree.Within changed) (later : changed.Within grown) :
    tree.Within grown :=
  fun spot entry found => later spot entry (first spot entry found)

private theorem Within.arrives (within : tree.Within changed)
    (arrives : Arrives tree links here names there) :
    Arrives changed links here names there := by
  induction arrives with
  | done => exact .done
  | stay inside later ih => exact .stay (within _ _ inside) ih
  | up inside later ih => exact .up (within _ _ inside) ih
  | through inside plain found later ih =>
    exact .through (within _ _ inside) plain (within _ _ found) ih
  | into inside plain found solid later ih =>
    exact .into (within _ _ inside) plain (within _ _ found) solid ih

theorem Within.enter (within : tree.Within changed) (entered : tree.enter start names = .ok there) :
    changed.enter start names = .ok there := by
  obtain ⟨walked, inside⟩ := enter_eq_ok.mp entered
  exact enter_eq_ok.mpr ⟨(within.arrives (arrives_of_walk walked)).walk, within _ _ inside⟩

section last

variable {name : Name} (entered : tree.enter start names = .ok here)

include entered

theorem enter_missing (plain : name ≠ dot ∧ name ≠ dotDot ∧ name.length ≤ longestName)
    (free : tree.at? (here ++ [name]) = none) :
    tree.enter start (names ++ name :: more) = .error .notFound := by
  obtain ⟨left, same⟩ := walk_of_enter entered
  have inside := isDirectory_iff.mpr (enter_eq_ok.mp entered).2
  unfold Tree.enter
  rw [List.append_assoc, same, List.cons_append, walk, if_neg (by simp [inside]), if_neg plain.1,
    if_neg plain.2.1, if_neg (Nat.not_lt.mpr plain.2.2), free]

private theorem enter_directory (plain : name ≠ dot ∧ name ≠ dotDot ∧ name.length ≤ longestName)
    (found : tree.at? (here ++ [name]) = some .directory) :
    tree.enter start (names ++ [name]) = .ok (here ++ [name]) := by
  obtain ⟨left, same⟩ := walk_of_enter entered
  have inside := isDirectory_iff.mpr (enter_eq_ok.mp entered).2
  have next := isDirectory_iff.mpr found
  unfold Tree.enter
  rw [List.append_assoc, same, List.cons_append, walk, if_neg (by simp [inside]), if_neg plain.1,
    if_neg plain.2.1, if_neg (Nat.not_lt.mpr plain.2.2), found]
  dsimp only
  rw [List.nil_append, walk_dot, if_pos next, walk]

/-- A directory that was made where nothing stood can be entered. -/
theorem enter_put (plain : name ≠ dot ∧ name ≠ dotDot ∧ name.length ≤ longestName)
    (free : tree.at? (here ++ [name]) = none) :
    (tree.put (here ++ [name]) .directory).enter start (names ++ [name]) =
      .ok (here ++ [name]) := by
  have below : here ++ [name] ≠ [] := by simp
  have put := at?_put tree below .directory (here ++ [name])
  exact enter_directory ((within_put below free _).enter entered) plain (put.trans (if_pos rfl))

/-- A step down leads to something that stands there. -/
theorem step_down (step : name ≠ dot) (notDots : name ≠ dotDot)
    (next : tree.enter start (names ++ [name]) = .ok there) :
    name.length ≤ longestName ∧ (tree.at? (here ++ [name])).isSome = true := by
  obtain ⟨left, same⟩ := walk_of_enter entered
  have inside := isDirectory_iff.mpr (enter_eq_ok.mp entered).2
  unfold Tree.enter at next
  rw [List.append_assoc, same, List.cons_append, walk, if_neg (by simp [inside]), if_neg step,
    if_neg notDots] at next
  split at next
  next => cases next
  next short =>
    refine ⟨Nat.not_lt.mp short, ?_⟩
    cases found : tree.at? (here ++ [name]) with
    | none =>
      rw [found] at next
      cases next
    | some entry => rfl

end last

end walks

/-- A path that names an entry in the directory that the steps before its last one lead to. -/
structure Named (home start : Spot) (path : Path) (before : List Name) (name : Name) : Prop where
  starts : Tree.start home path = start
  admitted : Tree.admitted path = .ok ()
  parts : ∃ front, path.parts = front ++ [name] ∧ front.filter (· ≠ dot) = before
  noSlash : path.endsInSlash = false
  step : name ≠ dot

section named

variable {tree : Tree} {home start here : Spot} {path : Path} {before : List Name} {name : Name}

theorem Named.target (named : Named home start path before name) : tree.target home path =
    (tree.enter start before).map fun here =>
      if name = dotDot then .fixed else .name here name false := by
  obtain ⟨rfl, allowed, ⟨front, parts, rfl⟩, noSlash, step⟩ := named
  have filtered : tree.enter (Tree.start home path) (front.filter (· ≠ dot)) =
      tree.enter (Tree.start home path) front := enter_filter [] front
  rw [filtered]
  unfold Tree.target Tree.enter
  rw [allowed, parts, List.getLast?_concat, List.dropLast_concat, noSlash]
  change (tree.walk mostLinks (Tree.start home path) front).bind _ = _
  obtain ⟨there, left, walked, same⟩ | ⟨fault, walked, same⟩ :=
    walk_append tree (Tree.start home path) front
  · rw [same, walked, walk_dot]
    change (if !tree.isDirectory there then _ else _) = _
    by_cases inside : tree.isDirectory there = true
    · rw [if_neg (by simp [inside]), if_pos inside, walk]
      by_cases dots : name = dotDot
      · rw [if_pos (.inr dots)]
        simp [Except.map, dots]
      · rw [if_neg (not_or.mpr ⟨step, dots⟩)]
        simp [Except.map, dots]
    · rw [if_pos (by simp [inside]), if_neg inside]
      rfl
  · rw [same, walked]
    rfl

def vacancy (tree : Tree) (name : Name) (here : Spot) : Except OsFault Spot :=
  if name = dotDot then .error .alreadyExists
  else if name.length > longestName then .error .nameTooLong
  else if (tree.at? (here ++ [name])).isSome then .error .alreadyExists
  else .ok (here ++ [name])

theorem vacancy_free (notDots : name ≠ dotDot) (short : name.length ≤ longestName)
    (free : tree.at? (here ++ [name]) = none) : tree.vacancy name here = .ok (here ++ [name]) := by
  unfold vacancy
  rw [if_neg notDots, if_neg (Nat.not_lt.mpr short), if_neg (by simp [free])]

theorem vacancy_eq_ok {spot : Spot} (vacant : tree.vacancy name here = .ok spot) :
    name ≠ dotDot ∧ name.length ≤ longestName ∧ tree.at? (here ++ [name]) = none ∧
      spot = here ++ [name] := by
  unfold vacancy at vacant
  split at vacant
  next => cases vacant
  next notDots =>
    split at vacant
    next => cases vacant
    next short =>
      split at vacant
      next => cases vacant
      next free =>
        cases vacant
        exact ⟨notDots, Nat.not_lt.mp short, by simpa using free, rfl⟩

/-- What is made at a path stands where its name is vacant. -/
theorem Named.makes (named : Named home start path before name) (mode : Nat) :
    tree.makeDirectory home path =
        ((tree.enter start before).bind (tree.vacancy name)).map (tree.put · .directory) ∧
      tree.makeFile home path mode =
        ((tree.enter start before).bind (tree.vacancy name)).map
          fun spot => (tree.put spot (.file mode []), spot) := by
  unfold Tree.makeDirectory Tree.makeFile
  rw [named.target]
  cases tree.enter start before with
  | error fault => exact ⟨rfl, rfl⟩
  | ok here =>
    by_cases dots : name = dotDot
    · simp [Except.map, Except.bind, bind, vacancy, dots]
    · by_cases long : name.length > longestName
      · simp [Except.map, Except.bind, bind, vacancy, dots, long, lookup]
      · cases found : tree.at? (here ++ [name]) with
        | none => simp [Except.map, Except.bind, bind, vacancy, dots, long, lookup, found]
        | some entry => simp [Except.map, Except.bind, bind, vacancy, dots, long, lookup, found]

/-- A file is moved to a name that is not too long, unless a directory stands there. -/
theorem Named.moveFile (named : Named home start path before name)
    (entered : tree.enter start before = .ok here) (notDots : name ≠ dotDot)
    (short : name.length ≤ longestName) {spot : Spot} {entry : Entry}
    (moving : tree.at? spot = some entry) :
    tree.moveFile home spot path =
      if tree.at? (here ++ [name]) = some .directory then .error .isDirectory
      else .ok ((tree.erase spot).put (here ++ [name]) entry) := by
  unfold Tree.moveFile
  rw [named.target, entered]
  simp [Except.map, bind, Except.bind, notDots, lookup, Nat.not_lt.mpr short, moving]

theorem Named.leadsToDirectory (named : Named home start path before name) :
    tree.leadsToDirectory home path = true ↔
      ∃ there, tree.enter start (before ++ [name]) = .ok there := by
  obtain ⟨rfl, allowed, ⟨front, parts, rfl⟩, noSlash, step⟩ := named
  have steps : path.steps = front.filter (· ≠ dot) ++ [name] := by
    change path.parts.filter (· ≠ dot) = _
    rw [parts, List.filter_append, List.filter_singleton]
    simp [step]
  rw [leadsToDirectory_iff allowed, steps]

structure Sized (path : Path) : Prop where
  noNul : 0 ∉ path.bytes
  short : path.bytes.length ≤ longestPath

theorem Sized.admitted (sized : Sized path) (some_ : path.bytes ≠ []) :
    Tree.admitted path = .ok () := by
  unfold Tree.admitted
  rw [if_neg (by simp [sized.noNul]), if_neg (by simp [Path.isEmpty, some_]),
    if_neg (Nat.not_lt.mpr sized.short)]

variable {parent : Path}

theorem Sized.upper (sized : Sized path) (tidy : path.Tidy)
    (cut : path.split? = some (parent, name)) : Sized parent := by
  have cuts := Path.prefix_of_split tidy cut
  exact ⟨fun inside => sized.noNul (cuts.subset inside), Nat.le_trans cuts.length_le sized.short⟩

theorem named_of_tidy (home : Spot) (sized : Sized path) (tidy : path.Tidy)
    (cut : path.split? = some (parent, name)) (step : name ≠ dot) :
    Named home (Tree.start home path) path parent.steps name := by
  have shorter := Path.shorter_of_split tidy cut
  exact ⟨rfl, sized.admitted (List.length_pos_iff.mp (by omega)), Path.parts_of_tidy tidy cut step,
    Path.noSlash_of_tidy tidy cut step, step⟩

/-- The directory one is in is there. -/
theorem makeDirectory_dot (inside : tree.at? home = some .directory) :
    tree.makeDirectory home ⟨dot⟩ = .error .alreadyExists ∧
      tree.leadsToDirectory home ⟨dot⟩ = true := by
  have isDir := isDirectory_iff.mpr inside
  have parts : (Path.mk dot).parts = [dot] := by decide
  constructor
  · have fixed : tree.target home ⟨dot⟩ = .ok .fixed := by
      unfold Tree.target
      rw [parts]
      change (tree.walk mostLinks home []).bind _ = _
      rw [walk]
      change (if !tree.isDirectory home then _ else _) = _
      rw [if_neg (by simp [isDir]), if_pos (.inl rfl)]
    unfold Tree.makeDirectory
    rw [fixed]
    rfl
  · have resolved : tree.resolve home ⟨dot⟩ = .ok home := by
      change tree.walk mostLinks home [dot] = .ok home
      rw [walk_dot, if_pos isDir, walk]
    unfold Tree.leadsToDirectory
    rw [resolved]
    exact isDir

end named

end Tree

end RuntimeHandover.Files
