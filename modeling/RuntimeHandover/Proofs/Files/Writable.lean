import Mathlib
import RuntimeHandover.Proofs.Files.Room

/-! The private files that can be written. What stands at the place of a file matters only when it
is a directory; the directories above it may be missing as far as they can be made. -/
namespace RuntimeHandover.Files.Disk
open Files.Tree Text

section writable

variable {disk : Disk} {directory : Path} {name : Name} {made : Tree} {here there : Spot}
  {before more : List Name} {first : Name} {contents : List UInt8}

private theorem opened_iff
    (entered : disk.tree.enter (Tree.start disk.home directory) directory.steps =
    .ok here) : Opened disk directory made there ↔ made = disk.tree ∧ there = here := by
  constructor
  · rintro ⟨opens, arrived⟩
    obtain rfl := (opens_there entered).mp opens
    rw [entered] at arrived
    cases arrived
    exact ⟨rfl, rfl⟩
  · rintro ⟨rfl, rfl⟩
    exact ⟨(opens_there entered).mpr rfl, entered⟩

private theorem dot_of_mem_steps {path : Path} {step : Name} (inside : step ∈ path.steps) :
    step ≠ dot := by
  simpa using (List.mem_filter.mp inside).2

/-- The file that was written stands where its path leads. -/
private theorem standing_written (setting : Setting disk directory name)
    (entered : disk.tree.enter (Tree.start disk.home directory) directory.steps = .ok there)
    (ok : (disk.writePrivate noMishap (directory.join ⟨name⟩) contents).1 = .ok ()) :
    (disk.writePrivate noMishap (directory.join ⟨name⟩) contents).2.tree.at? (there ++ [name]) =
      some (.file privateMode contents) := by
  obtain ⟨directory', name', wrote⟩ := writePrivate_wrote (Prod.ext ok rfl)
  have named := wrote.named
  have sized := sized_of_written ok
  have parents := (makeParents_iff setting sized).mpr ⟨_, (opens_there entered).mpr rfl, rfl⟩
  rw [parents, (named_path setting sized).target, entered] at named
  simp only [Except.map, if_neg setting.plain.notDots] at named
  cases named
  exact (wrote.entries _).trans (if_pos rfl)

/-- The system makes a file where nothing stands if its name is not too long. -/
private theorem makeFile_free_iff (setting : Setting disk directory name)
    (sized : Sized (directory.join ⟨name⟩))
    (entered : disk.tree.enter (Tree.start disk.home directory) directory.steps = .ok there)
    (free : disk.tree.at? (there ++ [name]) = none) :
    (∃ made, disk.tree.makeFile disk.home (directory.join ⟨name⟩) privateMode = .ok made) ↔
      name.length ≤ longestName := by
  rw [((named_path setting sized).makes privateMode).2, entered]
  by_cases long : name.length > longestName
  · simp [Except.bind, Except.map, vacancy, setting.plain.notDots, long, Nat.not_le.mpr long]
  · have short := Nat.not_lt.mp long
    simp [Except.bind, Except.map, vacancy_free setting.plain.notDots short free, short]

/-- Where directories are missing, they have to be made where nothing stands. -/
private theorem written_missing_iff (setting : Setting disk directory name)
    (steps : directory.steps = before ++ first :: more)
    (entered : disk.tree.enter (Tree.start disk.home directory) before = .ok here)
    (closed : ∀ spot,
      disk.tree.enter (Tree.start disk.home directory) (before ++ [first]) ≠ .ok spot)
    (noDots : dotDot ∉ first :: more) :
    (disk.writePrivate noMishap (directory.join ⟨name⟩) contents).1 = .ok () ↔
      disk.tree.at? (here ++ [first]) = none ∧
        (∀ step ∈ first :: more, step.length ≤ longestName) ∧ (shownName name).length ≤ 243 ∧
          PathsFit disk directory name := by
  have plain : ∀ step ∈ first :: more, step ≠ dot ∧ step ≠ dotDot := by
    intro step inside
    have among : step ∈ directory.steps := by
      rw [steps]
      exact List.mem_append_right _ inside
    refine ⟨dot_of_mem_steps among, ?_⟩
    · rintro rfl
      exact noDots inside
  -- Everything before the first missing directory is there.
  have onward (made : Tree) :
      Opens (Tree.start disk.home directory) disk.tree [] directory.steps made ↔
        Opens (Tree.start disk.home directory) disk.tree before (first :: more) made := by
    have append :
        Opens (Tree.start disk.home directory) disk.tree [] (before ++ first :: more) made ↔
          Opens (Tree.start disk.home directory) disk.tree before (first :: more) made :=
      opens_append entered
    rw [steps, append]
  have fresh (free : disk.tree.at? (here ++ [first]) = none) := opens_fresh setting.stands.rooted
    entered plain fun next (same : some first = some next) => Option.some.inj same ▸ free
  rw [written_iff setting]
  constructor
  · rintro ⟨short, fit, made, there, opened, -⟩
    have opens := (onward made).mp opened.opens
    have free : disk.tree.at? (here ++ [first]) = none := by
      cases opens with
      | there next => exact absurd next (closed _)
      | missing stands _ free =>
        cases entered.symm.trans stands
        exact free
    exact ⟨free, (fresh free).1.mp ⟨made, opens⟩, short, fit⟩
  · rintro ⟨free, shorts, short, fit⟩
    obtain ⟨made, opens⟩ := (fresh free).1.mpr shorts
    obtain ⟨arrived, empty⟩ := (fresh free).2 made opens
    rw [← steps] at arrived
    refine ⟨short, fit, made, _, ⟨(onward made).mpr opens, arrived⟩, ?_⟩
    rw [empty (List.cons_ne_nil _ _)]
    exact (Option.some_ne_none _).symm

end writable

/-- A private file is written below a directory that is there unless a directory stands at its place
or the name leaves no room for that of the sibling, though the system takes longer names. Where
directories are missing they also have to be made: the first of them where nothing stands, and all
with names that the system takes. When the missing part leads back up, all is judged by the tree in
which it was made. -/
theorem writePrivate_succeeds {disk : Disk} {directory : Path} {name : Name}
    (setting : Setting disk directory name) (contents : List UInt8) :
    let start := Tree.start disk.home directory
    let path := directory.join ⟨name⟩
    let ended := disk.writePrivate noMishap path contents
    (∀ there, disk.tree.resolve disk.home directory = .ok there →
      disk.tree.at? there = some .directory →
      (ended.1 = .ok () ↔
        disk.tree.at? (there ++ [name]) ≠ some .directory ∧ (shownName name).length ≤ 243 ∧
          PathsFit disk directory name) ∧
      (ended.1 = .ok () → ended.2.tree.at? (there ++ [name]) = some (.file 0o600 contents)) ∧
      (Sized path → disk.tree.at? (there ++ [name]) = none →
        ((∃ made, disk.tree.makeFile disk.home path 0o600 = .ok made) ↔ name.length ≤ 255))) ∧
    (∀ before first more here, directory.steps = before ++ first :: more →
      disk.tree.enter start before = .ok here →
      (∀ spot, disk.tree.enter start (before ++ [first]) ≠ .ok spot) →
      dotDot ∉ first :: more →
      (ended.1 = .ok () ↔ disk.tree.at? (here ++ [first]) = none ∧
        (∀ step ∈ first :: more, step.length ≤ 255) ∧ (shownName name).length ≤ 243 ∧
          PathsFit disk directory name)) ∧
    (ended.1 = .ok () ↔ (shownName name).length ≤ 243 ∧ PathsFit disk directory name ∧
      ∃ made there, Opened disk directory made there ∧
        made.at? (there ++ [name]) ≠ some .directory) := by
  intro start path ended
  refine ⟨fun there resolved inside => ?_, fun before first more here steps entered closed noDots =>
    written_missing_iff setting steps entered closed noDots, written_iff setting⟩
  have allowed : admitted directory = .ok () := by
    obtain ⟨_, allowed, -⟩ := bind_eq_ok_iff.mp resolved
    exact allowed
  have entered := (resolve_directory allowed).mp ⟨resolved, inside⟩
  refine ⟨?_, standing_written setting entered,
    fun sized => makeFile_free_iff setting sized entered⟩
  refine (written_iff setting).trans ⟨?_, ?_⟩
  · rintro ⟨short, fit, made, place, opened, solid⟩
    obtain ⟨rfl, rfl⟩ := (opened_iff entered).mp opened
    exact ⟨solid, short, fit⟩
  · rintro ⟨solid, short, fit⟩
    exact ⟨short, fit, _, _, (opened_iff entered).mpr ⟨rfl, rfl⟩, solid⟩

private theorem siblingsFit_of_length {disk : Disk} {directory : Path} {name : Name} (length : Nat)
    (joined : (disk.siblingPath (siblingDirectory (directory.join ⟨name⟩)) name 0).bytes.length =
      length) (short : length ≤ longestPath) : SiblingsFit disk directory name :=
  Nat.le_trans (Nat.le_of_eq joined) short

def shelf : Disk :=
  ⟨⟨[([bytesOf "d"], .directory), ([bytesOf "d", bytesOf "e"], .directory),
    ([bytesOf "d", bytesOf "l"], .link (.ofString "d"))]⟩, [], fun _ => bytesOf "xxxxxx"⟩

private theorem standing_shelf {spot : Spot} {last : Name} {entry : Entry}
    (found : shelf.tree.at? (spot ++ [last]) = some entry) :
    last.length = 1 ∧ shelf.tree.at? spot = some .directory := by
  have ends (above : Spot) {name : Name} (same : above ++ [name] = spot ++ [last]) :
      spot = above ∧ last = name := by
    obtain ⟨rfl, lasts⟩ := List.append_inj' same rfl
    exact ⟨rfl, (List.singleton_inj.mp lasts).symm⟩
  unfold at? shelf at found
  rw [if_neg (by simp), find?, find?, find?, find?] at found
  split at found
  next same =>
    obtain ⟨rfl, rfl⟩ := ends [] same
    decide
  next =>
    split at found
    next same =>
      obtain ⟨rfl, rfl⟩ := ends [bytesOf "d"] same
      decide
    next =>
      split at found
      next same =>
        obtain ⟨rfl, rfl⟩ := ends [bytesOf "d"] same
        decide
      next => cases found

private theorem setting_shelf (directory : Path) {name : Name} (plain : PlainName name)
    (short : ∀ step ∈ directory.steps, step.length < 12) : Setting shelf directory name where
  stands := ⟨fun _ _ _ found => (standing_shelf found).2, by simp [shelf], rfl⟩
  plain := plain
  tags _ := (by decide : (bytesOf "xxxxxx").length = 6 ∧ slash ∉ bytesOf "xxxxxx" ∧
    0 ∉ bytesOf "xxxxxx")
  free made there opens _ := by
    refine ⟨0, by decide, ?_⟩
    have length : (siblingName name (bytesOf "xxxxxx")).length = (shownName name).length + 12 :=
      length_siblingName name (by decide)
    rw [Option.eq_none_iff_forall_ne_some]
    intro entry found
    rcases opens.mem_of_made found with standing | among
    · have one : (siblingName name (bytesOf "xxxxxx")).length = 1 := (standing_shelf standing).1
      omega
    · have few : (siblingName name (bytesOf "xxxxxx")).length < 12 := short _ among
      omega

/-- A link gives way to the file, a directory stays, and missing directories are made. -/
theorem writePrivate_succeeds_shelf :
    (shelf.writePrivate noMishap (.ofString "d/l") [0x61]).2.tree.at? [bytesOf "d", bytesOf "l"] =
        some (.file 0o600 [0x61]) ∧
      (shelf.writePrivate noMishap (.ofString "d/e") [0x61]).1 ≠ .ok () ∧
      (shelf.writePrivate noMishap (.ofString "d/a/b/k") [0x61]).1 = .ok () := by
  have there : shelf.tree.resolve shelf.home (.ofString "d") = .ok [bytesOf "d"] := by cbv
  have steps : ∀ step ∈ (Path.ofString "d").steps, step.length < 12 := by decide
  have plain : PlainName (bytesOf "l") ∧ PlainName (bytesOf "e") ∧ PlainName (bytesOf "k") := by
    decide
  have link := writePrivate_succeeds (setting_shelf (.ofString "d") plain.1 steps) [0x61]
  have inner := writePrivate_succeeds (setting_shelf (.ofString "d") plain.2.1 steps) [0x61]
  have missing := writePrivate_succeeds (setting_shelf (.ofString "d/a/b") plain.2.2 (by decide))
    [0x61]
  refine ⟨?_, ?_, ?_⟩
  · obtain ⟨wrote, standing, -⟩ := link.1 _ there rfl
    refine standing (wrote.mpr ⟨by decide, ?_, ⟨by decide, by decide⟩, ?_⟩)
    · have one : (shownName (bytesOf "l")).length = 1 := by cbv
      omega
    · exact siblingsFit_of_length 15 (by cbv) (by decide)
  · intro ok
    obtain ⟨wrote, -⟩ := inner.1 _ there rfl
    exact (wrote.mp ok).1 (by decide)
  · refine (missing.2.1 [bytesOf "d"] (bytesOf "a") [bytesOf "b"] [bytesOf "d"] (by decide)
      (by cbv) ?_ (by decide)).mpr ⟨by decide, by decide, ?_, ⟨by decide, by decide⟩, ?_⟩
    · intro spot
      have missed : shelf.tree.enter (Tree.start shelf.home (.ofString "d/a/b"))
          ([bytesOf "d"] ++ [bytesOf "a"]) = .error .notFound := by cbv
      rw [missed]
      intro arrived
      cases arrived
    · have one : (shownName (bytesOf "k")).length = 1 := by cbv
      omega
    · exact siblingsFit_of_length 19 (by cbv) (by decide)

/-- What a path has to be like before a private file is written to it, but for the names of the
siblings. -/
structure Ready (disk : Disk) (directory : Path) (name : Name) : Prop where
  opens : ∃ made, Opens (Tree.start disk.home directory) disk.tree [] directory.steps made
  solid : ∀ there, disk.tree.enter (Tree.start disk.home directory) directory.steps = .ok there →
    disk.tree.at? (there ++ [name]) ≠ some .directory
  short : (shownName name).length ≤ 243

def stretched (slashes : Nat) : Path :=
  ⟨0x64 :: (List.replicate (slashes + 1) slash ++ [0x65])⟩

section stretching

variable (slashes : Nat)

private theorem steps_stretched : (stretched slashes).steps = [bytesOf "d", bytesOf "e"] := by
  have rooted (bytes : List UInt8) : Path.partsOf (List.replicate slashes slash ++ bytes) =
      Path.partsOf bytes := by
    induction slashes with
    | zero => rfl
    | succ slashes ih => exact (Path.partsOf_append [] _).trans ih
  have bytes : (stretched slashes).bytes =
      [0x64] ++ slash :: (List.replicate slashes slash ++ [0x65]) := rfl
  unfold Path.steps Path.stepsOf
  rw [bytes, Path.partsOf_append, rooted]
  decide

private theorem length_stretched : (stretched slashes).bytes.length = slashes + 3 := by
  simp [stretched]

private theorem relative_stretched : (stretched slashes).isAbsolute = false := by
  simp [stretched, Path.isAbsolute, slash]

private theorem tidy_stretched : (stretched slashes).Tidy := by
  refine Path.trimIdle_busy ?_
  have ended : (stretched slashes).body =
      (0x64 :: List.replicate slashes slash ++ [slash]) ++ [0x65] := by
    rw [List.cons_append, ← List.replicate_succ']
    rfl
  rw [ended, Path.splitLast_named (by decide) (.inr ⟨_, rfl⟩)]
  decide

private theorem noNul_stretched : 0 ∉ (stretched slashes).bytes := by
  simp [stretched, slash]

private theorem sized_stretched (few : slashes ≤ 4090) :
    Sized ((stretched slashes).join ⟨bytesOf "n"⟩) := by
  have relative : (Path.mk (bytesOf "n")).isAbsolute = false := by decide
  have one : (bytesOf "n").length = 1 := by decide
  refine ⟨noNul_join (noNul_stretched slashes) (by decide), ?_⟩
  rw [Path.join_bytes relative, List.length_append, List.length_append, length_stretched, one]
  change _ ≤ 4095
  split
  · rw [List.length_nil]
    omega
  · rw [List.length_singleton]
    omega

private theorem siblings_stretched (many : 4080 ≤ slashes) :
    ¬ SiblingsFit shelf (stretched slashes) (bytesOf "n") := by
  have plain : PlainName (bytesOf "n") := by decide
  have cut : ((stretched slashes).join ⟨bytesOf "n"⟩).split? =
      some (stretched slashes, bytesOf "n") :=
    Path.split?_join plain (tidy_stretched slashes) (by simp [stretched])
      (by simp [stretched, List.getLast?_cons, slash])
  have beside : siblingDirectory ((stretched slashes).join ⟨bytesOf "n"⟩) = stretched slashes := by
    unfold siblingDirectory Path.parent?
    rw [cut]
    rfl
  have drawn : (shelf.tags 0).length = 6 ∧ slash ∉ shelf.tags 0 ∧ 0 ∉ shelf.tags 0 := by decide
  have sibling := Path.relative_of_name (plain_siblingName plain drawn)
  have named := length_siblingName (bytesOf "n") drawn.1
  have least : (bytesOf "n").length ≤ (shownName (bytesOf "n")).length :=
    Utf8.length_le_encode_lossy (bytesOf "n")
  have one : (bytesOf "n").length = 1 := by decide
  have lower := Path.length_join (relative_stretched slashes) shelf.homePath
  have upper := Path.length_join sibling (shelf.homePath.join (stretched slashes))
  unfold SiblingsFit siblingPath
  rw [beside]
  rw [length_stretched] at lower
  change ¬ _ ≤ 4095
  dsimp only at upper
  omega

private theorem entered_stretched :
    shelf.tree.enter (Tree.start shelf.home (stretched slashes)) (stretched slashes).steps =
      .ok [bytesOf "d", bytesOf "e"] := by
  unfold Tree.start
  rw [relative_stretched, steps_stretched]
  cbv

private theorem ready_stretched : Ready shelf (stretched slashes) (bytesOf "n") := by
  have entered := entered_stretched slashes
  refine ⟨⟨_, (opens_there entered).mpr rfl⟩, fun there arrived => ?_, ?_⟩
  · rw [entered] at arrived
    cases arrived
    decide
  · have one : (shownName (bytesOf "n")).length = 1 := by cbv
    omega

end stretching

/-- The directory `x` is made on the way to `x/..`, where the way had not led before. -/
private theorem ready_back : Ready shelf (.ofString "x/..") (bytesOf "x") := by
  have steps : (Path.ofString "x/..").steps = [bytesOf "x", dotDot] := by decide
  refine ⟨?_, fun there entered => ?_, ?_⟩
  · rw [steps]
    have here : shelf.tree.enter [] [] = .ok [] := by cbv
    have back : (shelf.tree.put ([] ++ [bytesOf "x"]) .directory).enter []
        ([] ++ [bytesOf "x"] ++ [dotDot]) = .ok [] := by cbv
    exact ⟨_, .missing here (by decide) (by decide) (.there back .done)⟩
  · have missed : shelf.tree.enter (Tree.start shelf.home (.ofString "x/.."))
        (Path.ofString "x/..").steps = .error .notFound := by cbv
    rw [missed] at entered
    cases entered
  · have one : (shownName (bytesOf "x")).length = 1 := by cbv
    omega

/-- The path `x/../x` leads through a directory that is made for it and then stands at its own
place. A path that is just short enough for the system leaves no room for those of its siblings. -/
theorem not_written_when_ready :
    (¬ ∀ (disk : Disk) (directory : Path) (name : Name) (contents : List UInt8),
      Setting disk directory name → PathsFit disk directory name → Ready disk directory name →
      (disk.writePrivate noMishap (directory.join ⟨name⟩) contents).1 = .ok ()) ∧
    ¬ ∀ (disk : Disk) (directory : Path) (name : Name) (contents : List UInt8),
      Setting disk directory name → Sized (directory.join ⟨name⟩) →
      disk.tree.leadsToDirectory disk.home directory = true → Ready disk directory name →
      (disk.writePrivate noMishap (directory.join ⟨name⟩) contents).1 = .ok () := by
  constructor
  · intro writes
    have setting : Setting shelf (.ofString "x/..") (bytesOf "x") :=
      setting_shelf _ (by decide) (by decide)
    have fit : PathsFit shelf (.ofString "x/..") (bytesOf "x") :=
      ⟨⟨by decide, by decide⟩, siblingsFit_of_length 18 (by cbv) (by decide)⟩
    have failed :
        (shelf.writePrivate noMishap ((Path.ofString "x/..").join ⟨bytesOf "x"⟩) [0x61]).1 =
          .error (.os .isDirectory) := by cbv
    have clash := failed.symm.trans (writes shelf _ _ [0x61] setting fit ready_back)
    cases clash
  · intro writes
    have sized := sized_stretched 4085 (by decide)
    have setting : Setting shelf (stretched 4085) (bytesOf "n") :=
      setting_shelf _ (by decide) (by rw [steps_stretched]; decide)
    have taken : Sized (stretched 4085) :=
      ⟨noNul_stretched 4085, Nat.le_trans (Nat.le_of_eq (length_stretched 4085)) (by decide)⟩
    have leads := (leadsToDirectory_iff (taken.admitted (List.cons_ne_nil _ _))).mpr
      ⟨_, entered_stretched 4085⟩
    exact write_unfit setting sized (siblings_stretched 4085 (by decide))
      (writes shelf _ _ [0x61] setting sized leads (ready_stretched 4085))

end RuntimeHandover.Files.Disk
