import RuntimeHandover.Files.Disk
import RuntimeHandover.Proofs.Files.Enter

/-! Making the directories above a path. The system is asked from the nearest directory upwards and
then downwards again; it is done exactly when, from the outermost on, each directory is there or can
be made where nothing stands. -/
namespace RuntimeHandover.Files
open Files.Tree

inductive Opens (start : Spot) : Tree → List Name → List Name → Tree → Prop
  | done {tree before} : Opens start tree before [] tree
  | there {tree made before rest name spot}
      (entered : tree.enter start (before ++ [name]) = .ok spot)
      (later : Opens start tree (before ++ [name]) rest made) :
      Opens start tree before (name :: rest) made
  | missing {tree made before rest name here} (entered : tree.enter start before = .ok here)
      (plain : name ≠ dot ∧ name ≠ dotDot ∧ name.length ≤ longestName)
      (free : tree.at? (here ++ [name]) = none)
      (later : Opens start (tree.put (here ++ [name]) .directory) (before ++ [name]) rest made) :
      Opens start tree before (name :: rest) made

section opening

variable {home start here : Spot} {tree made : Tree} {before first rest : List Name} {name : Name}
  {path : Path}

theorem Opens.within (opens : Opens start tree before rest made) : tree.Within made := by
  induction opens with
  | done => exact fun _ _ found => found
  | there entered later ih => exact ih
  | missing entered plain free later ih => exact (within_put (by simp) free _).trans ih

/-- The directory that was to be opened is there in the end. -/
theorem Opens.enter (opens : Opens start tree before rest made)
    (entered : tree.enter start before = .ok here) :
    ∃ there, made.enter start (before ++ rest) = .ok there := by
  induction opens generalizing here with
  | done => exact ⟨here, by rwa [List.append_nil]⟩
  | there next later ih =>
    obtain ⟨there, opened⟩ := ih next
    exact ⟨there, by rwa [List.append_cons]⟩
  | missing stands plain free later ih =>
    obtain ⟨there, opened⟩ := ih (enter_put stands plain free)
    exact ⟨there, by rwa [List.append_cons]⟩

/-- Nothing is made before a directory that is there. -/
theorem opens_append (entered : tree.enter start (before ++ first) = .ok here) :
    Opens start tree before (first ++ rest) made ↔
      Opens start tree (before ++ first) rest made := by
  induction first generalizing before with
  | nil => rw [List.nil_append, List.append_nil]
  | cons name first ih =>
    rw [List.append_cons] at entered
    obtain ⟨spot, next⟩ := enter_before entered
    rw [List.append_cons before name first, ← ih entered]
    constructor
    · intro opens
      cases opens with
      | there _ later => exact later
      | missing stands plain free =>
        have missed : tree.enter start (before ++ [name]) = .error .notFound :=
          enter_missing stands plain free
        rw [missed] at next
        cases next
    · exact .there next

/-- Until something is missing everything is there. -/
private theorem Opens.until_missing (opens : Opens start tree before (first ++ rest) made)
    (entered : tree.enter start before = .ok here) :
    (∃ there, tree.enter start (before ++ first) = .ok there) ∨
      tree.enter start (before ++ first) = .error .notFound := by
  induction first generalizing before here with
  | nil => exact .inl ⟨here, by rwa [List.append_nil]⟩
  | cons name first ih =>
    cases opens with
    | there next later =>
      rw [List.append_cons]
      exact ih later next
    | missing stands plain free => exact .inr (enter_missing stands plain free)

/-- Where everything is there, nothing is made. -/
theorem opens_there (entered : tree.enter start first = .ok here) :
    Opens start tree [] first made ↔ made = tree := by
  have append : Opens start tree [] (first ++ []) made ↔ Opens start tree first [] made :=
    opens_append entered
  rw [List.append_nil] at append
  rw [append]
  constructor
  · intro opens
    cases opens
    rfl
  · rintro rfl
    exact .done

/-- What is made goes by a name that was to be opened. -/
theorem Opens.mem_of_made (opens : Opens start tree before rest made) {spot : Spot} {entry : Entry}
    (found : made.at? (spot ++ [name]) = some entry) :
    tree.at? (spot ++ [name]) = some entry ∨ name ∈ rest := by
  induction opens with
  | done => exact .inl found
  | there entered later ih => exact (ih found).imp_right (List.mem_cons_of_mem _)
  | missing entered plain free later ih =>
    refine (ih found).elim (fun standing => ?_) fun among => .inr (List.mem_cons_of_mem _ among)
    rw [at?_put _ (by simp)] at standing
    split at standing
    next same =>
      obtain rfl := List.singleton_inj.mp (List.append_inj' same rfl).2
      exact .inr List.mem_cons_self
    next => exact .inl standing

/-- Where nothing stands a directory has to be made. -/
private theorem opens_missing_iff (entered : tree.enter start before = .ok here)
    (noDots : name ≠ dot ∧ name ≠ dotDot) (free : tree.at? (here ++ [name]) = none) :
    Opens start tree before (name :: rest) made ↔ name.length ≤ longestName ∧
      Opens start (tree.put (here ++ [name]) .directory) (before ++ [name]) rest made := by
  constructor
  · intro opens
    cases opens with
    | there next later =>
      have found := (step_down entered noDots.1 noDots.2 next).2
      rw [free] at found
      cases found
    | missing stands plain _ later =>
      cases entered.symm.trans stands
      exact ⟨plain.2.2, later⟩
  · rintro ⟨short, later⟩
    exact .missing entered ⟨noDots.1, noDots.2, short⟩ free later

/-- Below a directory where the first of some names is free, all of them have to be made. -/
theorem opens_fresh (rooted : tree.Rooted) (entered : tree.enter start before = .ok here)
    (noDots : ∀ name ∈ rest, name ≠ dot ∧ name ≠ dotDot)
    (free : ∀ first ∈ rest.head?, tree.at? (here ++ [first]) = none) :
    ((∃ made, Opens start tree before rest made) ↔ ∀ name ∈ rest, name.length ≤ longestName) ∧
      ∀ made, Opens start tree before rest made →
        made.enter start (before ++ rest) = .ok (here ++ rest) ∧
          (rest ≠ [] → ∀ name, made.at? (here ++ rest ++ [name]) = none) := by
  induction rest generalizing tree before here with
  | nil =>
    refine ⟨iff_of_true ⟨tree, .done⟩ (List.forall_mem_nil _), fun made opens => ?_⟩
    cases opens
    rw [List.append_nil, List.append_nil]
    exact ⟨entered, fun some_ => absurd rfl some_⟩
  | cons first rest ih =>
    obtain ⟨firstNoDots, noDots⟩ := List.forall_mem_cons.mp noDots
    have free := free first rfl
    have inside := (enter_eq_ok.mp entered).2
    by_cases short : first.length ≤ longestName
    · have plain : first ≠ dot ∧ first ≠ dotDot ∧ first.length ≤ longestName :=
        ⟨firstNoDots.1, firstNoDots.2, short⟩
      have empty := rooted.empty free
      obtain ⟨can, made⟩ := ih (rooted.put inside) (enter_put entered plain free) noDots
        fun next _ => empty next
      simp only [opens_missing_iff entered firstNoDots free, short, true_and, can,
        List.forall_mem_cons, List.append_cons before first rest, List.append_cons here first rest]
      intro grown opens
      obtain ⟨there, below⟩ := made grown opens
      refine ⟨there, fun _ => ?_⟩
      cases rest with
      | nil =>
        cases opens
        rw [List.append_nil]
        exact empty
      | cons next rest => exact below (List.cons_ne_nil _ _)
    · simp [opens_missing_iff entered firstNoDots free, short]

/-- What making a directory comes to. -/
private theorem opens_cons (named : Named home start path before name) :
    Opens start tree before (name :: rest) made ↔
      (∃ grown, tree.makeDirectory home path = .ok grown ∧
        Opens start grown (before ++ [name]) rest made) ∨
      tree.makeDirectory home path = .error .alreadyExists ∧
        tree.leadsToDirectory home path = true ∧ Opens start tree (before ++ [name]) rest made := by
  rw [(named.makes 0).1, named.leadsToDirectory]
  constructor
  · intro opens
    cases opens with
    | there next later =>
      obtain ⟨here, entered⟩ := enter_before next
      refine .inr ⟨?_, ⟨_, next⟩, later⟩
      rw [entered]
      simp only [Except.bind, vacancy]
      by_cases dots : name = dotDot
      · rw [if_pos dots]
        rfl
      · obtain ⟨short, found⟩ := step_down entered named.step dots next
        rw [if_neg dots, if_neg (Nat.not_lt.mpr short), if_pos found]
        rfl
    | missing stands plain free later =>
      refine .inl ⟨_, ?_, later⟩
      rw [stands]
      simp only [Except.bind, vacancy_free plain.2.1 plain.2.2 free]
      rfl
  · rintro (⟨grown, grew, later⟩ | ⟨-, ⟨spot, next⟩, later⟩)
    · cases place : (tree.enter start before).bind (tree.vacancy name) with
      | error fault =>
        rw [place] at grew
        cases grew
      | ok spot =>
        rw [place] at grew
        cases grew
        obtain ⟨here, entered, vacant⟩ := bind_eq_ok_iff.mp place
        obtain ⟨notDots, short, free, rfl⟩ := vacancy_eq_ok vacant
        exact .missing entered ⟨named.step, notDots, short⟩ free later
    · exact .there next later

/-- Making a directory on the way tells whether the way opens, unless one before it is missing. -/
private theorem opens_at (inside : tree.at? start = some .directory)
    (named : Named home start path before name) :
    Opens start tree [] (before ++ name :: rest) made ↔
      (tree.makeDirectory home path = .error .notFound ∧
        Opens start tree [] (before ++ name :: rest) made) ∨
      (∃ grown, tree.makeDirectory home path = .ok grown ∧
        Opens start grown (before ++ [name]) rest made) ∨
      tree.makeDirectory home path = .error .alreadyExists ∧
        tree.leadsToDirectory home path = true ∧ Opens start tree (before ++ [name]) rest made := by
  have root : tree.enter start [] = .ok start := by
    refine enter_eq_ok.mpr ⟨?_, inside⟩
    rw [walk]
  constructor
  · intro opens
    obtain ⟨here, entered⟩ | missing := opens.until_missing root
    · exact .inr ((opens_cons named).mp ((opens_append entered).mp opens))
    · rw [List.nil_append] at missing
      refine .inl ⟨?_, opens⟩
      rw [(named.makes 0).1, missing]
      rfl
  · rintro (⟨-, opens⟩ | later)
    · exact opens
    · have opens := (opens_cons named).mpr later
      have entered : ∃ here, tree.enter start before = .ok here := by
        cases opens with
        | there next => exact enter_before next
        | missing stands => exact ⟨_, stands⟩
      obtain ⟨here, entered⟩ := entered
      have append : Opens start tree [] (before ++ name :: rest) made ↔
          Opens start tree before (name :: rest) made := opens_append entered
      exact append.mpr opens

end opening

inductive Rungs (home start : Spot) : List Name → List Path → List Name → Prop
  | none {before} : Rungs home start before [] []
  | next {before path paths name rest} (named : Named home start path before name)
      (later : Rungs home start (before ++ [name]) paths rest) :
      Rungs home start before (path :: paths) (name :: rest)

namespace Disk

section making

variable {home start : Spot} {tree : Tree} {tags : Nat → Name} {made : Disk}
  {before rest : List Name} {paths missing : List Path} {path parent : Path} {last : Name}

private theorem makeDirectory_eq (tree : Tree) (home : Spot) (tags : Nat → Name) (path : Path) :
    (Disk.mk tree home tags).makeDirectory noMishap path =
      (tree.makeDirectory home path).map (Disk.mk · home tags) := rfl

private theorem makeEach_iff (rungs : Rungs home start before paths rest) :
    (Disk.mk tree home tags).makeEach noMishap paths = (.ok (), made) ↔
      ∃ grown, Opens start tree before rest grown ∧ made = ⟨grown, home, tags⟩ := by
  induction rungs generalizing tree with
  | none =>
    constructor
    · intro done
      cases done
      exact ⟨tree, .done, rfl⟩
    · rintro ⟨grown, opens, rfl⟩
      cases opens
      rfl
  | @next before path paths name rest named later ih =>
    unfold makeEach
    rw [makeDirectory_eq]
    simp only [opens_cons named]
    cases asked : tree.makeDirectory home path with
    | ok grown => simp [Except.map, ih]
    | error fault =>
      by_cases there : fault = .alreadyExists
      · subst there
        by_cases leads : tree.leadsToDirectory home path = true
        · simp [Except.map, leads, ih]
        · simp [Except.map, leads]
      · simp [Except.map, there]

/-- Asking for one directory opens the same as was to be opened from there, once that holds of the
directories above it, which are asked for when one of them is missing. -/
private theorem climb_named (inside : tree.at? start = some .directory)
    (named : Named home start path before last)
    (rungs : Rungs home start (before ++ [last]) missing rest) {above : List Path}
    (onward : (∃ disk left,
        (Disk.mk tree home tags).climb noMishap (path :: missing) above = .ok (disk, left) ∧
          disk.makeEach noMishap left = (.ok (), made)) ↔
      ∃ grown, Opens start tree [] (before ++ last :: rest) grown ∧ made = ⟨grown, home, tags⟩) :
    (∃ disk left,
      (Disk.mk tree home tags).climb noMishap missing (path :: above) = .ok (disk, left) ∧
        disk.makeEach noMishap left = (.ok (), made)) ↔
      ∃ grown, Opens start tree [] (before ++ last :: rest) grown ∧
        made = ⟨grown, home, tags⟩ := by
  unfold climb
  rw [makeDirectory_eq]
  cases asked : tree.makeDirectory home path with
  | ok grown =>
    have opened (made : Tree) : Opens start tree [] (before ++ last :: rest) made ↔
        Opens start grown (before ++ [last]) rest made := by
      rw [opens_at inside named, asked]
      simp
    simp [Except.map, opened, makeEach_iff rungs]
  | error fault =>
    by_cases missed : fault = .notFound
    · subst missed
      exact onward
    · by_cases there : fault = .alreadyExists
      · subst there
        have opened (made : Tree) : Opens start tree [] (before ++ last :: rest) made ↔
            tree.leadsToDirectory home path = true ∧
              Opens start tree (before ++ [last]) rest made := by
          rw [opens_at inside named, asked]
          simp
        by_cases leads : tree.leadsToDirectory home path = true
        · simp [Except.map, leads, opened, makeEach_iff rungs]
        · simp [Except.map, leads, opened]
      · have closed (made : Tree) : ¬ Opens start tree [] (before ++ last :: rest) made := by
          rw [opens_at inside named, asked]
          simp [missed, there]
        simp [Except.map, closed]

/-- Asking from the nearest directory upwards opens the same directories. -/
private theorem climb_iff (tidy : path.Tidy) (sized : Sized path)
    (starts : Tree.start home path = start)
    (inside : tree.at? start = some .directory)
    (rungs : Rungs home start path.steps missing rest) :
    (∃ disk left,
      (Disk.mk tree home tags).climb noMishap missing path.ancestors = .ok (disk, left) ∧
        disk.makeEach noMishap left = (.ok (), made)) ↔
      ∃ grown, Opens start tree [] (path.steps ++ rest) grown ∧ made = ⟨grown, home, tags⟩ := by
  fun_induction Path.ancestors path generalizing missing rest with
  | case1 path cut =>
    rw [Path.steps_of_unsplit tidy cut] at rungs ⊢
    simp [climb, makeEach_iff rungs]
  | case2 path parent last cut empty =>
    have shorter := Path.shorter_of_split tidy cut
    have nothing : path.bytes = [] := List.isEmpty_iff.mp empty
    rw [nothing] at shorter
    exact absurd shorter (Nat.not_lt_zero _)
  | case3 path parent last cut some_ shorter ih =>
    by_cases dotted : last = dot
    · subst dotted
      obtain ⟨bytes, -⟩ := Path.dot_of_tidy tidy cut
      obtain rfl : path = ⟨dot⟩ := congrArg Path.mk bytes
      obtain rfl : home = start := starts
      obtain ⟨asked, leads⟩ := makeDirectory_dot inside
      have steps : (Path.mk dot).steps = [] := by decide
      rw [steps] at rungs ⊢
      unfold climb
      rw [makeDirectory_eq, asked]
      simp [Except.map, leads, makeEach_iff rungs]
    · have named := starts ▸ named_of_tidy home sized tidy cut dotted
      obtain ⟨absolute, -⟩ := Path.parent_of_split cut
      have same : Tree.start home parent = start := by
        rw [← starts]
        unfold Tree.start
        rw [absolute]
      rw [Path.steps_of_tidy tidy cut dotted] at rungs ⊢
      rw [List.append_assoc, List.singleton_append]
      exact climb_named inside named rungs (ih (Path.tidy_above tidy cut dotted)
        (sized.upper tidy cut) same (.next named rungs))
  | case4 path parent last cut some_ longer =>
    exact absurd (Path.shorter_of_split tidy cut) longer

/-- The directories above a path are made when, from the outermost on, they are there or can be. -/
theorem makeDirectories_iff (tidy : path.Tidy) (sized : Sized path)
    (inside : tree.at? (Tree.start home path) = some .directory) :
    (Disk.mk tree home tags).makeDirectories noMishap path = (.ok (), made) ↔
      ∃ grown, Opens (Tree.start home path) tree [] path.steps grown ∧
        made = ⟨grown, home, tags⟩ := by
  suffices done : (Disk.mk tree home tags).makeDirectories noMishap path = (.ok (), made) ↔
      ∃ grown, Opens (Tree.start home path) tree [] (path.steps ++ []) grown ∧
        made = ⟨grown, home, tags⟩ by
    rwa [List.append_nil] at done
  refine Iff.trans ?_ (climb_iff tidy sized rfl inside .none)
  unfold makeDirectories
  cases (Disk.mk tree home tags).climb noMishap [] path.ancestors with
  | error fault => simp
  | ok found =>
    obtain ⟨disk, left⟩ := found
    simp

end making

end Disk

end RuntimeHandover.Files
