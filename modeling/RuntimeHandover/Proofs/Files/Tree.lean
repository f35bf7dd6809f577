import RuntimeHandover.Files.Tree
import RuntimeHandover.Proofs.Act

/-! What stands in a tree after an entry was put or erased, and where a path leads in a
tree that differs from another at one place only. -/
namespace RuntimeHandover.Files.Tree

section entries

variable {spot other : Spot} {tree : Tree}

theorem find?_append (spot : Spot) (first second : List (Spot × Entry)) :
    find? spot (first ++ second) = (find? spot first).or (find? spot second) := by
  induction first with
  | nil => rfl
  | cons pair rest ih =>
    obtain ⟨s, e⟩ := pair
    by_cases same : s = spot
    · simp [find?, same]
    · simp [find?, same, ih]

theorem find?_erased (entries : List (Spot × Entry)) (spot other : Spot) :
    find? other (entries.filter fun pair => pair.1 ≠ spot) =
      if other = spot then none else find? other entries := by
  induction entries with
  | nil => simp [find?]
  | cons pair rest ih =>
    obtain ⟨s, e⟩ := pair
    by_cases gone : s = spot
    · subst gone
      rw [List.filter_cons_of_neg (by simp), ih]
      by_cases same : other = s
      · simp [same]
      · simp [same, find?, Ne.symm same]
    · rw [List.filter_cons_of_pos (by simp [gone])]
      by_cases same : s = other
      · subst same
        simp [find?, gone]
      · rw [find?, if_neg same, find?, if_neg same, ih]

theorem at?_erase (tree : Tree) {spot : Spot} (below : spot ≠ []) (other : Spot) :
    (tree.erase spot).at? other = if other = spot then none else tree.at? other := by
  unfold at? erase
  rw [find?_erased]
  by_cases root : other = []
  · subst root
    simp [Ne.symm below]
  · simp [root]

theorem at?_put (tree : Tree) {spot : Spot} (below : spot ≠ []) (entry : Entry) (other : Spot) :
    (tree.put spot entry).at? other = if other = spot then some entry else tree.at? other := by
  have erased := at?_erase tree below other
  unfold at? put at *
  by_cases root : other = []
  · subst root
    simp [Ne.symm below]
  · rw [if_neg root] at erased ⊢
    simp only [find?_append, erased]
    by_cases same : other = spot
    · simp [same, find?]
    · simp [same, root, find?, Ne.symm same]

theorem isDirectory_iff : tree.isDirectory spot = true ↔ tree.at? spot = some .directory := by
  simp [isDirectory]

end entries

def passes (tree : Tree) (spot : Spot) (links : Nat) (here : Spot) (names : List Name) : Bool :=
  match names with
  | [] => false
  | name :: rest =>
    if name = dot then passes tree spot links here rest
    else if name = dotDot then passes tree spot links here.dropLast rest
    else match tree.at? (here ++ [name]) with
      | some (.link target) =>
        here ++ [name] = spot || match links with
          | 0 => false
          | links + 1 =>
            let (start, first) := route here target
            passes tree spot links start (first ++ rest)
      | _ => passes tree spot links (here ++ [name]) rest
termination_by (links, names.length)

inductive Arrives (tree : Tree) : Nat → Spot → List Name → Spot → Prop
  | done {links here} : Arrives tree links here [] here
  | stay {links here names there} (inside : tree.at? here = some .directory)
      (later : Arrives tree links here names there) : Arrives tree links here (dot :: names) there
  | up {links here names there} (inside : tree.at? here = some .directory)
      (later : Arrives tree links here.dropLast names there) :
      Arrives tree links here (dotDot :: names) there
  | through {links here name names target there} (inside : tree.at? here = some .directory)
      (plain : name ≠ dot ∧ name ≠ dotDot ∧ name.length ≤ longestName)
      (found : tree.at? (here ++ [name]) = some (.link target))
      (later : Arrives tree links (route here target).1 ((route here target).2 ++ names) there) :
      Arrives tree (links + 1) here (name :: names) there
  | into {links here name names entry there} (inside : tree.at? here = some .directory)
      (plain : name ≠ dot ∧ name ≠ dotDot ∧ name.length ≤ longestName)
      (found : tree.at? (here ++ [name]) = some entry) (solid : ∀ target, entry ≠ .link target)
      (later : Arrives tree links (here ++ [name]) names there) :
      Arrives tree links here (name :: names) there

section walks

variable {tree changed : Tree} {spot there : Spot} {links : Nat} {here : Spot} {names : List Name}

theorem arrives_of_walk (walked : tree.walk links here names = .ok there) :
    Arrives tree links here names there := by
  fun_induction walk tree links here names with
  | case1 =>
    cases walked
    exact .done
  | case2 => cases walked
  | case3 links here rest inside ih =>
    exact .stay (by simpa [isDirectory] using inside) (ih walked)
  | case4 links here rest inside _ ih =>
    exact .up (by simpa [isDirectory] using inside) (ih walked)
  | case5 => cases walked
  | case6 => cases walked
  | case7 => cases walked
  | case8 here name rest inside notDot notDots short target found links start first way ih =>
    refine .through (by simpa [isDirectory] using inside) ⟨notDot, notDots, Nat.not_lt.mp short⟩
      found ?_
    rw [way]
    exact ih walked
  | case9 links here name rest inside notDot notDots short entry solid found ih =>
    exact .into (by simpa [isDirectory] using inside) ⟨notDot, notDots, Nat.not_lt.mp short⟩
      found solid (ih walked)

/-- After a walk that arrived, further names are followed from there. -/
theorem Arrives.walk_append (arrives : Arrives tree links here names there) :
    ∃ left, ∀ suffix, tree.walk links here (names ++ suffix) = tree.walk left there suffix := by
  induction arrives with
  | @done links here => exact ⟨links, fun suffix => rfl⟩
  | stay inside later ih =>
    obtain ⟨left, same⟩ := ih
    refine ⟨left, ?_⟩
    intro suffix
    rw [List.cons_append, walk, if_neg (by simp [isDirectory, inside]), if_pos rfl]
    exact same suffix
  | up inside later ih =>
    obtain ⟨left, same⟩ := ih
    refine ⟨left, ?_⟩
    intro suffix
    rw [List.cons_append, walk, if_neg (by simp [isDirectory, inside]), if_neg (by decide),
      if_pos rfl]
    exact same suffix
  | through inside plain found later ih =>
    obtain ⟨left, same⟩ := ih
    refine ⟨left, ?_⟩
    intro suffix
    rw [List.cons_append, walk, if_neg (by simp [isDirectory, inside]), if_neg plain.1,
      if_neg plain.2.1, if_neg (Nat.not_lt.mpr plain.2.2), found]
    have way := same suffix
    rw [List.append_assoc] at way
    exact way
  | into inside plain found solid later ih =>
    obtain ⟨left, same⟩ := ih
    refine ⟨left, ?_⟩
    intro suffix
    rw [List.cons_append, walk, if_neg (by simp [isDirectory, inside]), if_neg plain.1,
      if_neg plain.2.1, if_neg (Nat.not_lt.mpr plain.2.2), found]
    split
    next same => cases same
    next same => exact absurd (Option.some.inj same) (solid _)
    next => exact same suffix

def Agree (tree changed : Tree) (spot : Spot) : Prop :=
  ∀ other ≠ spot, (tree.at? other = some .directory → changed.at? other = some .directory) ∧
    ∀ target, tree.at? other = some (.link target) → changed.at? other = some (.link target)

theorem Agree.of_directory (agree : Agree tree changed spot)
    (solid : tree.at? spot ≠ some .directory) {other : Spot}
    (inside : tree.at? other = some .directory) : changed.at? other = some .directory := by
  apply (agree other ?_).1 inside
  intro same
  rw [same] at inside
  exact solid inside

theorem Arrives.starts (arrives : Arrives tree links here names there)
    (arrived : tree.at? there = some .directory) : tree.at? here = some .directory := by
  cases arrives with
  | done => exact arrived
  | stay inside => exact inside
  | up inside => exact inside
  | through inside => exact inside
  | into inside => exact inside

/-- A walk to a directory that does not go through the spot is the same in the other tree. -/
theorem Arrives.agree (agree : Agree tree changed spot) (solid : tree.at? spot ≠ some .directory)
    (arrives : Arrives tree links here names there) (arrived : tree.at? there = some .directory)
    (avoids : tree.passes spot links here names = false) :
    Arrives changed links here names there := by
  induction arrives with
  | done => exact .done
  | stay inside later ih =>
    rw [passes, if_pos rfl] at avoids
    exact .stay (agree.of_directory solid inside) (ih arrived avoids)
  | up inside later ih =>
    rw [passes, if_neg (by decide), if_pos rfl] at avoids
    exact .up (agree.of_directory solid inside) (ih arrived avoids)
  | through inside plain found later ih =>
    rw [passes, if_neg plain.1, if_neg plain.2.1, found] at avoids
    obtain ⟨other, avoids⟩ := Bool.or_eq_false_iff.mp avoids
    have found := (agree _ (of_decide_eq_false other)).2 _ found
    exact .through (agree.of_directory solid inside) plain found (ih arrived avoids)
  | @into links here name names entry there inside plain found notLink later ih =>
    rw [passes, if_neg plain.1, if_neg plain.2.1, found] at avoids
    -- The walk ends in a directory, so the entry it enters is one, and the other tree has it too.
    have next : tree.at? (here ++ [name]) = some .directory := later.starts arrived
    have avoids : tree.passes spot links (here ++ [name]) names = false := by
      rw [found] at next
      cases next
      exact avoids
    exact .into (agree.of_directory solid inside) plain (agree.of_directory solid next)
      (by simp) (ih arrived avoids)

private theorem walk_from_file {mode : Nat} {contents : List UInt8}
    (file : tree.at? here = some (.file mode contents)) (further : names ≠ []) :
    tree.walk links here names = .error .notDirectory := by
  cases names with
  | nil => exact absurd rfl further
  | cons name rest => rw [walk, if_pos (by simp [isDirectory, file])]

/-- A walk that goes through the spot stops there in the other tree, where a file stands. -/
theorem Arrives.blocked (agree : Agree tree changed spot) (solid : tree.at? spot ≠ some .directory)
    {mode : Nat} {contents : List UInt8} (file : changed.at? spot = some (.file mode contents))
    (arrives : Arrives tree links here names there) (arrived : tree.at? there = some .directory)
    (through : tree.passes spot links here names = true) {suffix : List Name}
    (further : suffix ≠ []) :
    changed.walk links here (names ++ suffix) = .error .notDirectory := by
  induction arrives with
  | done =>
    rw [passes] at through
    cases through
  | stay inside later ih =>
    rw [passes, if_pos rfl] at through
    have isDir := isDirectory_iff.mpr (agree.of_directory solid inside)
    rw [List.cons_append, walk, if_neg (by simp [isDir]), if_pos rfl]
    exact ih arrived through
  | up inside later ih =>
    rw [passes, if_neg (by decide), if_pos rfl] at through
    have isDir := isDirectory_iff.mpr (agree.of_directory solid inside)
    rw [List.cons_append, walk, if_neg (by simp [isDir]), if_neg (by decide), if_pos rfl]
    exact ih arrived through
  | @through links here name names target there inside plain found later ih =>
    rw [passes, if_neg plain.1, if_neg plain.2.1, found] at through
    have isDir := isDirectory_iff.mpr (agree.of_directory solid inside)
    rw [List.cons_append, walk, if_neg (by simp [isDir]), if_neg plain.1, if_neg plain.2.1,
      if_neg (Nat.not_lt.mpr plain.2.2)]
    -- Either this link is the one that the file replaced, or the walk meets that one later.
    by_cases same : here ++ [name] = spot
    · rw [same, file]
      apply walk_from_file file
      simp [further]
    · rw [(agree _ same).2 _ found]
      have onward := (Bool.or_eq_true_iff.mp through).resolve_left (by simp [same])
      have stopped := ih arrived onward
      rw [List.append_assoc] at stopped
      exact stopped
  | @into links here name names entry there inside plain found notLink later ih =>
    rw [passes, if_neg plain.1, if_neg plain.2.1, found] at through
    have isDir := isDirectory_iff.mpr (agree.of_directory solid inside)
    have next : tree.at? (here ++ [name]) = some .directory := later.starts arrived
    rw [List.cons_append, walk, if_neg (by simp [isDir]), if_neg plain.1, if_neg plain.2.1,
      if_neg (Nat.not_lt.mpr plain.2.2), agree.of_directory solid next]
    apply ih arrived
    rw [found] at next
    cases next
    exact through

/-- A walk goes through nothing but links. -/
theorem Arrives.passes_of_not_link (arrives : Arrives tree links here names there)
    (solid : ∀ target, tree.at? spot ≠ some (.link target)) :
    tree.passes spot links here names = false := by
  induction arrives with
  | done => rw [passes]
  | stay inside later ih =>
    rw [passes, if_pos rfl]
    exact ih
  | up inside later ih =>
    rw [passes, if_neg (by decide), if_pos rfl]
    exact ih
  | @through links here name names target there inside plain found later ih =>
    have other : here ++ [name] ≠ spot := by
      intro same
      rw [same] at found
      exact solid target found
    rw [passes, if_neg plain.1, if_neg plain.2.1, found]
    exact Bool.or_eq_false_iff.mpr ⟨decide_eq_false other, ih⟩
  | into inside plain found notLink later ih =>
    rw [passes, if_neg plain.1, if_neg plain.2.1, found]
    split
    next same => exact absurd (Option.some.inj same) (notLink _)
    next => exact ih

theorem Arrives.walk (arrives : Arrives tree links here names there) :
    tree.walk links here names = .ok there := by
  obtain ⟨left, same⟩ := arrives.walk_append
  have ended := same []
  rw [List.append_nil, Tree.walk] at ended
  exact ended

end walks

section targets

variable {tree : Tree} {home directory : Spot} {path : Path} {name : Name} {slash : Bool}

def start (home : Spot) (path : Path) : Spot := if path.isAbsolute then [] else home

/-- A path names an entry of a directory by its last part. -/
theorem target_eq_name_iff : tree.target home path = .ok (.name directory name slash) ↔
    admitted path = .ok () ∧ path.parts.getLast? = some name ∧
      tree.walk mostLinks (start home path) path.parts.dropLast = .ok directory ∧
      tree.at? directory = some .directory ∧ name ≠ dot ∧ name ≠ dotDot ∧
      slash = path.endsInSlash := by
  constructor
  · intro found
    unfold target at found
    obtain ⟨_, allowed, found⟩ := bind_eq_ok_iff.mp found
    cases ending : path.parts.getLast? with
    | none =>
      rw [ending] at found
      cases found
    | some last =>
      rw [ending] at found
      obtain ⟨there, walked, found⟩ := bind_eq_ok_iff.mp found
      split at found
      next => cases found
      next inside =>
        split at found
        next => cases found
        next plain =>
          cases found
          obtain ⟨notDot, notDots⟩ := not_or.mp plain
          exact ⟨allowed, rfl, walked, by simpa [isDirectory] using inside, notDot, notDots, rfl⟩
  · intro named
    obtain ⟨allowed, ending, walked, inside, notDot, notDots, rfl⟩ := named
    unfold start at walked
    simp only [target, allowed, ending, walked, bind, Except.bind]
    rw [if_neg (by simp [isDirectory, inside]), if_neg (not_or.mpr ⟨notDot, notDots⟩)]

private theorem lookup_eq_ok {standing : Option Entry}
    (ok : tree.lookup directory name = .ok standing) :
    name.length ≤ longestName ∧ tree.at? (directory ++ [name]) = standing := by
  unfold lookup at ok
  split at ok
  next => cases ok
  next short =>
    cases ok
    exact ⟨Nat.not_lt.mp short, rfl⟩

theorem moveFile_eq_ok {spot : Spot} {moved : Tree}
    (ok : tree.moveFile home spot path = .ok moved) :
    ∃ directory name entry, tree.target home path = .ok (.name directory name false) ∧
      name.length ≤ longestName ∧ tree.at? (directory ++ [name]) ≠ some .directory ∧
      tree.at? spot = some entry ∧ moved = (tree.erase spot).put (directory ++ [name]) entry := by
  unfold moveFile at ok
  obtain ⟨target, found, ok⟩ := bind_eq_ok_iff.mp ok
  split at ok
  next => cases ok
  next directory name slash =>
    obtain ⟨standing, looked, ok⟩ := bind_eq_ok_iff.mp ok
    dsimp only at ok
    split at ok
    next => cases ok
    next notSlash =>
      split at ok
      next => cases ok
      next solid =>
        split at ok
        next => cases ok
        next entry moving =>
          cases ok
          obtain ⟨short, rfl⟩ := lookup_eq_ok looked
          rw [Bool.not_eq_true] at notSlash
          exact ⟨directory, name, entry, by rw [found, notSlash], short, solid, moving, rfl⟩

theorem makeFile_eq_ok {mode : Nat} {made : Tree} {spot : Spot}
    (ok : tree.makeFile home path mode = .ok (made, spot)) :
    spot ≠ [] ∧ tree.at? spot = none ∧ made = tree.put spot (.file mode []) := by
  unfold makeFile at ok
  obtain ⟨target, found, ok⟩ := bind_eq_ok_iff.mp ok
  split at ok
  next => cases ok
  next directory name slash =>
    obtain ⟨standing, looked, ok⟩ := bind_eq_ok_iff.mp ok
    split at ok
    next => cases ok
    next =>
      split at ok
      next => cases ok
      next =>
        cases ok
        obtain ⟨_, free⟩ := lookup_eq_ok looked
        exact ⟨by simp, free, rfl⟩

theorem makeDirectory_eq_ok {made : Tree} (ok : tree.makeDirectory home path = .ok made) :
    ∃ directory name slash, tree.target home path = .ok (.name directory name slash) ∧
      name.length ≤ longestName ∧ tree.at? (directory ++ [name]) = none ∧
      made = tree.put (directory ++ [name]) .directory := by
  unfold makeDirectory at ok
  obtain ⟨target, found, ok⟩ := bind_eq_ok_iff.mp ok
  split at ok
  next => cases ok
  next directory name slash =>
    obtain ⟨standing, looked, ok⟩ := bind_eq_ok_iff.mp ok
    split at ok
    next => cases ok
    next =>
      cases ok
      obtain ⟨short, free⟩ := lookup_eq_ok looked
      exact ⟨directory, name, slash, found, short, free, rfl⟩

end targets

end RuntimeHandover.Files.Tree
