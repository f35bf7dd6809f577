import RuntimeHandover.Proofs.Files.Parents
import RuntimeHandover.Proofs.Files.Private
import RuntimeHandover.Proofs.Text.Utf8

/-! When a private file can be written. The directory of its path has to be there or open, no
directory may stand at its place in the end, and its name has to leave room for what the name of the
temporary sibling adds to it. -/
namespace RuntimeHandover.Files
open Files.Tree Text

namespace Disk

section names

variable {name tag : Name} {byte : UInt8}

/-- The name of a sibling is as long as that of the file, as far as it is text, and twelve bytes. -/
theorem length_siblingName (name : Name) (six : tag.length = 6) :
    (siblingName name tag).length = (shownName name).length + 12 := by
  have suffix : (bytesOf ".tmp").length = 4 := by decide
  simp only [siblingName, List.length_append, six, suffix]
  rw [show dot.length = 1 from rfl]
  omega

private theorem mem_siblingName (inside : byte ∈ siblingName name tag) :
    byte ∈ name ∨ byte ∈ tag ∨
      byte ∈ dot ++ bytesOf ".tmp" ++ String.utf8EncodeChar '\uFFFD' := by
  unfold siblingName shownName at inside
  simp only [List.mem_append] at inside ⊢
  rcases inside with (((lead | shown) | lead) | drawn) | suffix
  · exact .inr (.inr (.inl (.inl lead)))
  · rcases Utf8.mem_encode_lossy shown with old | new
    · exact .inl old
    · exact .inr (.inr (.inr new))
  · exact .inr (.inr (.inl (.inl lead)))
  · exact .inr (.inl drawn)
  · exact .inr (.inr (.inl (.inr suffix)))

theorem plain_siblingName (plain : PlainName name)
    (drawn : tag.length = 6 ∧ slash ∉ tag ∧ 0 ∉ tag) : PlainName (siblingName name tag) := by
  obtain ⟨six, whole, noNul⟩ := drawn
  have length := length_siblingName name six
  have other {byte : UInt8} (named : byte ∉ name) (tagged : byte ∉ tag)
      (fixed : byte ∉ dot ++ bytesOf ".tmp" ++ String.utf8EncodeChar '\uFFFD') :
      byte ∉ siblingName name tag := by
    intro inside
    rcases mem_siblingName inside with old | drawn | own
    · exact named old
    · exact tagged drawn
    · exact fixed own
  refine ⟨?_, other plain.whole whole (by decide), other plain.noNul noNul (by decide), ?_, ?_⟩
  · intro nothing
    rw [nothing] at length
    exact absurd length (by simp)
  · intro same
    rw [same] at length
    exact absurd length.symm (by simp [dot])
  · intro same
    rw [same] at length
    exact absurd length.symm (by simp [dotDot])

end names

structure Stands (disk : Disk) : Prop where
  rooted : disk.tree.Rooted
  names : ∀ name ∈ disk.home, PlainName name ∧ name.length ≤ longestName
  here : disk.tree.at? disk.home = some .directory

section standing

variable {tree : Tree} {home : Spot} {names more : List Name} {links : Nat}

private theorem at?_before (rooted : tree.Rooted)
    (inside : tree.at? (home ++ names) = some .directory) :
    tree.at? home = some .directory := by
  induction names generalizing home with
  | nil => rwa [List.append_nil] at inside
  | cons name names ih =>
    rw [List.append_cons] at inside
    exact rooted _ _ _ (ih inside)

/-- From the root the steps of a directory lead to it. -/
private theorem walk_standing (standing : ∀ before after, before ++ after = names →
      tree.at? (home ++ before) = some .directory)
    (plain : ∀ name ∈ names, PlainName name ∧ name.length ≤ longestName) (more : List Name) :
    tree.walk links home (names ++ more) = tree.walk links (home ++ names) more := by
  induction names generalizing home with
  | nil => rw [List.append_nil, List.nil_append]
  | cons name names ih =>
    obtain ⟨⟨first, short⟩, plain⟩ := List.forall_mem_cons.mp plain
    have here := isDirectory_iff.mpr (standing [] _ rfl)
    rw [List.append_nil] at here
    have next := standing [name] names rfl
    rw [List.cons_append, walk, if_neg (by simp [here]), if_neg first.notDot, if_neg first.notDots,
      if_neg (Nat.not_lt.mpr short), next]
    dsimp only
    rw [ih _ plain, List.append_assoc, List.singleton_append]
    intro before after split
    have upper := standing (name :: before) after (by rw [← split, List.cons_append])
    rwa [List.append_assoc]

private theorem stepsOf_home (plain : ∀ name ∈ names, PlainName name) :
    Path.stepsOf (names.flatMap (slash :: ·)) = names := by
  induction names with
  | nil => rfl
  | cons name names ih =>
    obtain ⟨first, plain⟩ := List.forall_mem_cons.mp plain
    have rooted (bytes : List UInt8) : Path.partsOf (slash :: bytes) = Path.partsOf bytes :=
      Path.partsOf_append [] bytes
    have single := Path.partsOf_name first.whole first.some
    have parts : Path.partsOf ((name :: names).flatMap (slash :: ·)) =
        name :: Path.partsOf (names.flatMap (slash :: ·)) := by
      rw [List.flatMap_cons, List.cons_append, rooted]
      cases names with
      | nil => rw [List.flatMap_nil, List.append_nil, single]; rfl
      | cons next names =>
        rw [List.flatMap_cons, List.cons_append, Path.partsOf_append, single, rooted]
        rfl
    unfold Path.stepsOf at ih ⊢
    rw [parts, List.filter_cons_of_pos (by simp [first.notDot]), ih plain]

end standing

/-- What has to hold of a write for its outcome to depend on what stands where it leads. -/
structure Setting (disk : Disk) (directory : Path) (name : Name) : Prop where
  stands : disk.Stands
  plain : PlainName name
  tags : ∀ attempt, (disk.tags attempt).length = 6 ∧ slash ∉ disk.tags attempt ∧
    0 ∉ disk.tags attempt
  free : ∀ made there,
    Opens (Tree.start disk.home directory) disk.tree [] directory.steps made →
    made.enter (Tree.start disk.home directory) directory.steps = .ok there →
    ∃ attempt < mostAttempts, made.at? (there ++ [siblingName name (disk.tags attempt)]) = none

def SiblingsFit (disk : Disk) (directory : Path) (name : Name) : Prop :=
  (disk.siblingPath (siblingDirectory (directory.join ⟨name⟩)) name 0).bytes.length ≤ longestPath

structure PathsFit (disk : Disk) (directory : Path) (name : Name) : Prop where
  sized : Sized (directory.join ⟨name⟩)
  siblings : SiblingsFit disk directory name

section parents

variable {disk made : Disk} {directory parent : Path} {name : Name}

private theorem at?_start (stands : disk.Stands) (path : Path) :
    disk.tree.at? (Tree.start disk.home path) = some .directory := by
  unfold Tree.start
  split
  · rfl
  · exact stands.here

theorem makeParents_iff (setting : Setting disk directory name)
    (sized : Sized (directory.join ⟨name⟩)) :
    disk.makeParents noMishap (directory.join ⟨name⟩) = (.ok (), made) ↔
      ∃ grown, Opens (Tree.start disk.home directory) disk.tree [] directory.steps grown ∧
        made = ⟨grown, disk.home, disk.tags⟩ := by
  obtain ⟨parent, below⟩ := Path.exists_below setting.plain directory
  have upper : (directory.join ⟨name⟩).parent? = some parent := by
    rw [Path.parent?, below.cut]
    rfl
  have starts : Tree.start disk.home directory = Tree.start disk.home parent := by
    unfold Tree.start
    rw [below.starts]
  unfold makeParents
  rw [upper, starts, ← below.steps]
  dsimp only
  split
  next nothing =>
    have steps : parent.steps = [] := by
      unfold Path.steps
      rw [List.isEmpty_iff.mp nothing]
      rfl
    rw [steps]
    constructor
    · intro done
      cases done
      exact ⟨disk.tree, .done, rfl⟩
    · rintro ⟨grown, opens, rfl⟩
      cases opens
      rfl
  next =>
    have tidy := Path.tidy_above below.tidy below.cut setting.plain.notDot
    exact makeDirectories_iff tidy (sized.upper below.tidy below.cut)
      (at?_start setting.stands parent)

/-- The siblings of a path are beside what it names. -/
private theorem siblingDirectory_below (setting : Setting disk directory name) :
    (siblingDirectory (directory.join ⟨name⟩)).steps = directory.steps ∧
      (siblingDirectory (directory.join ⟨name⟩)).isAbsolute = directory.isAbsolute := by
  obtain ⟨parent, below⟩ := Path.exists_below setting.plain directory
  have upper : (directory.join ⟨name⟩).parent? = some parent := by
    rw [Path.parent?, below.cut]
    rfl
  unfold siblingDirectory
  rw [upper]
  dsimp only
  rw [← below.steps, ← below.starts]
  split
  next nothing =>
    have empty : parent = ⟨[]⟩ := congrArg Path.mk (List.isEmpty_iff.mp nothing)
    rw [empty]
    decide
  next => exact ⟨rfl, rfl⟩

end parents

section siblings

variable {disk : Disk} {directory : Path} {name : Name} {grown : Tree} {there : Spot}

/-- What stands in a tree stands in the same places as before, and the working directory too. -/
private theorem enter_home (stands : disk.Stands) (within : disk.tree.Within grown)
    (names : List Name) :
    grown.enter [] (disk.home ++ names) = grown.enter disk.home names := by
  unfold Tree.enter
  rw [List.append_assoc]
  have standing (before after : List Name) (split : before ++ after = disk.home) :
      grown.at? ([] ++ before) = some .directory := by
    have here := stands.here
    rw [← split] at here
    exact within _ _ (at?_before stands.rooted here)
  exact walk_standing standing stands.names _

theorem noNul_join {path : Path} (upper : 0 ∉ directory.bytes) (own : 0 ∉ path.bytes) :
    0 ∉ (directory.join path).bytes := by
  cases relative : path.isAbsolute with
  | true => rwa [Path.join_of_isAbsolute relative]
  | false =>
    have between : (0 : UInt8) ∉
        if directory.isEmpty || directory.bytes.getLast? == some slash then [] else [slash] := by
      split
      · exact List.not_mem_nil
      · decide
    rw [Path.join_bytes relative]
    exact List.not_mem_append (List.not_mem_append upper between) own

private theorem noNul_siblingDirectory {path : Path} (tidy : path.Tidy) (noNul : 0 ∉ path.bytes) :
    0 ∉ (siblingDirectory path).bytes := by
  unfold siblingDirectory Path.parent?
  cases cut : path.split? with
  | none => decide
  | some halves =>
    obtain ⟨parent, last⟩ := halves
    simp only [Option.map_some]
    split
    next => decide
    next => exact fun inside => noNul ((Path.prefix_of_split tidy cut).subset inside)

private theorem noNul_homePath (stands : disk.Stands) : 0 ∉ disk.homePath.bytes := by
  intro inside
  obtain ⟨name, among, letter⟩ := List.mem_flatMap.mp inside
  rcases List.mem_cons.mp letter with slashed | letter
  · exact absurd slashed (by decide)
  · exact (stands.names name among).1.noNul letter

private theorem length_siblingPath (setting : Setting disk directory name) (upper : Path)
    (attempt : Nat) :
    (disk.siblingPath upper name attempt).bytes.length =
      (disk.siblingPath upper name 0).bytes.length := by
  have relative (attempt : Nat) :=
    Path.relative_of_name (plain_siblingName setting.plain (setting.tags attempt))
  unfold siblingPath
  simp only [Path.join_bytes (relative _), List.length_append,
    length_siblingName _ (setting.tags _).1]

private theorem noNul_siblingPath (setting : Setting disk directory name)
    (sized : Sized (directory.join ⟨name⟩)) (attempt : Nat) :
    0 ∉ (disk.siblingPath (siblingDirectory (directory.join ⟨name⟩)) name attempt).bytes := by
  obtain ⟨_, below⟩ := Path.exists_below setting.plain directory
  exact noNul_join (noNul_join (noNul_homePath setting.stands)
    (noNul_siblingDirectory below.tidy sized.noNul))
    (plain_siblingName setting.plain (setting.tags attempt)).noNul

/-- The paths of the siblings lead to the directory of the path. -/
private theorem named_sibling (setting : Setting disk directory name)
    (fit : PathsFit disk directory name) (attempt : Nat) :
    ∃ before, Named disk.home [] (disk.siblingPath (siblingDirectory (directory.join ⟨name⟩)) name
        attempt) before (siblingName name (disk.tags attempt)) ∧
      ∀ grown, disk.tree.Within grown →
        grown.enter [] before = grown.enter (Tree.start disk.home directory) directory.steps := by
  obtain ⟨steps, absolute⟩ := siblingDirectory_below setting
  have plain := plain_siblingName setting.plain (setting.tags attempt)
  have sized : Sized (disk.siblingPath (siblingDirectory (directory.join ⟨name⟩)) name attempt) :=
    ⟨noNul_siblingPath setting fit.sized attempt,
      Nat.le_trans (Nat.le_of_eq (length_siblingPath setting _ attempt)) fit.siblings⟩
  obtain ⟨parent, below⟩ := Path.exists_below plain
    (disk.homePath.join (siblingDirectory (directory.join ⟨name⟩)))
  have named := named_of_tidy disk.home sized below.tidy below.cut plain.notDot
  rw [below.steps] at named
  have root : (if disk.homePath.isAbsolute then [] else disk.home) = [] := by
    unfold homePath
    cases disk.home with
    | nil => rfl
    | cons first rest => rfl
  have starts : Tree.start disk.home
      (disk.siblingPath (siblingDirectory (directory.join ⟨name⟩)) name attempt) = [] := by
    unfold Tree.start siblingPath
    rw [below.whole]
    cases rooted : (siblingDirectory (directory.join ⟨name⟩)).isAbsolute with
    | true => rw [Path.join_of_isAbsolute rooted, if_pos rooted]
    | false => rw [(Path.steps_join rooted _).2, root]
  rw [starts] at named
  refine ⟨_, named, fun grown within => ?_⟩
  unfold Tree.start
  rw [← absolute, ← steps]
  cases rooted : (siblingDirectory (directory.join ⟨name⟩)).isAbsolute with
  | true =>
    rw [Path.join_of_isAbsolute rooted]
    rfl
  | false =>
    have home : disk.homePath.steps = disk.home :=
      stepsOf_home fun name among => (setting.stands.names name among).1
    rw [(Path.steps_join rooted _).1, home]
    exact enter_home setting.stands within _

end siblings

section writing

variable {disk written : Disk} {directory : Path} {name : Name} {grown : Tree} {there : Spot}
  {contents : List UInt8} (setting : Setting disk directory name)

/-- The directories above a path have been made, and one of them is where the path leads. -/
structure Opened (disk : Disk) (directory : Path) (grown : Tree) (there : Spot) : Prop where
  opens : Opens (Tree.start disk.home directory) disk.tree [] directory.steps grown
  entered : grown.enter (Tree.start disk.home directory) directory.steps = .ok there

include setting

private theorem exists_opened
    (opens : Opens (Tree.start disk.home directory) disk.tree [] directory.steps grown) :
    ∃ there, Opened disk directory grown there := by
  have root : disk.tree.enter (Tree.start disk.home directory) [] =
      .ok (Tree.start disk.home directory) := by
    refine enter_eq_ok.mpr ⟨?_, at?_start setting.stands directory⟩
    rw [walk]
  obtain ⟨there, entered⟩ := opens.enter root
  exact ⟨there, opens, entered⟩

private theorem makeFile_sibling (fit : PathsFit disk directory name)
    (opened : Opened disk directory grown there) (attempt : Nat) :
    grown.makeFile disk.home
      (disk.siblingPath (siblingDirectory (directory.join ⟨name⟩)) name attempt) privateMode =
        if (shownName name).length > 243 then .error .nameTooLong
        else if (grown.at? (there ++ [siblingName name (disk.tags attempt)])).isSome then
          .error .alreadyExists
        else .ok
          (grown.put (there ++ [siblingName name (disk.tags attempt)]) (.file privateMode []),
            there ++ [siblingName name (disk.tags attempt)]) := by
  obtain ⟨before, named, enters⟩ := named_sibling setting fit attempt
  have plain := plain_siblingName setting.plain (setting.tags attempt)
  have length := length_siblingName name (setting.tags attempt).1
  have long : (siblingName name (disk.tags attempt)).length > longestName ↔
      (shownName name).length > 243 := by
    rw [length]
    change 255 < _ ↔ _
    omega
  rw [(named.makes privateMode).2, enters _ opened.opens.within, opened.entered]
  simp only [Except.bind, vacancy, if_neg plain.notDots, long]
  split
  · rfl
  · split
    · rfl
    · rfl

/-- A sibling is made under the first of the names that is free. -/
private theorem makeSibling_room (fit : PathsFit disk directory name)
    (opened : Opened disk directory grown there) (short : (shownName name).length ≤ 243)
    {attempts attempt : Nat}
    (free : ∃ later < attempts,
      grown.at? (there ++ [siblingName name (disk.tags (attempt + later))]) = none) :
    ∃ drawn, grown.at? (there ++ [siblingName name (disk.tags drawn)]) = none ∧
      (Disk.mk grown disk.home disk.tags).makeSibling (siblingDirectory (directory.join ⟨name⟩))
          name attempts attempt =
        .ok (⟨grown.put (there ++ [siblingName name (disk.tags drawn)]) (.file privateMode []),
          disk.home, disk.tags⟩, there ++ [siblingName name (disk.tags drawn)]) := by
  induction attempts generalizing attempt with
  | zero =>
    obtain ⟨later, none_, -⟩ := free
    exact absurd none_ (Nat.not_lt_zero _)
  | succ attempts ih =>
    have made : grown.makeFile disk.home ((Disk.mk grown disk.home disk.tags).siblingPath
        (siblingDirectory (directory.join ⟨name⟩)) name attempt) privateMode = _ :=
      makeFile_sibling setting fit opened attempt
    rw [if_neg (Nat.not_lt.mpr short)] at made
    unfold makeSibling
    dsimp only
    rw [made]
    cases standing : grown.at? (there ++ [siblingName name (disk.tags attempt)]) with
    | none => exact ⟨attempt, standing, rfl⟩
    | some entry =>
      refine ih ?_
      obtain ⟨later, within, free⟩ := free
      cases later with
      | zero =>
        rw [Nat.add_zero, standing] at free
        cases free
      | succ later =>
        refine ⟨later, Nat.lt_of_succ_lt_succ within, ?_⟩
        rwa [Nat.add_assoc, Nat.add_comm 1 later]

private theorem makeSibling_crowded (fit : PathsFit disk directory name)
    (opened : Opened disk directory grown there) (long : (shownName name).length > 243)
    (attempts attempt : Nat) :
    ∃ fault, (Disk.mk grown disk.home disk.tags).makeSibling
      (siblingDirectory (directory.join ⟨name⟩)) name attempts attempt = .error fault := by
  cases attempts with
  | zero => exact ⟨_, rfl⟩
  | succ attempts =>
    have made : grown.makeFile disk.home ((Disk.mk grown disk.home disk.tags).siblingPath
        (siblingDirectory (directory.join ⟨name⟩)) name attempt) privateMode = _ :=
      makeFile_sibling setting fit opened attempt
    rw [if_pos long] at made
    unfold makeSibling
    dsimp only
    rw [made]
    exact ⟨_, rfl⟩

theorem named_path (sized : Sized (directory.join ⟨name⟩)) :
    Named disk.home (Tree.start disk.home directory) (directory.join ⟨name⟩) directory.steps
      name := by
  obtain ⟨parent, below⟩ := Path.exists_below setting.plain directory
  have named := named_of_tidy disk.home sized below.tidy below.cut setting.plain.notDot
  rw [below.steps] at named
  have starts : Tree.start disk.home (directory.join ⟨name⟩) = Tree.start disk.home directory := by
    unfold Tree.start
    rw [below.whole]
  rwa [starts] at named

/-- A sibling takes its place unless a directory stands there. -/
private theorem settle_room (sized : Sized (directory.join ⟨name⟩))
    (opened : Opened disk directory grown there) (short : name.length ≤ longestName)
    {drawn : Name} (other : drawn ≠ name) (free : grown.at? (there ++ [drawn]) = none) :
    ((Disk.mk (grown.put (there ++ [drawn]) (.file privateMode [])) disk.home disk.tags).settle
        noMishap (there ++ [drawn]) (directory.join ⟨name⟩) contents).1 = .ok () ↔
      grown.at? (there ++ [name]) ≠ some .directory := by
  have filled (spot : Spot) : ((grown.put (there ++ [drawn]) (.file privateMode [])).put
      (there ++ [drawn]) (.file privateMode contents)).at? spot =
        if spot = there ++ [drawn] then some (.file privateMode contents) else grown.at? spot := by
    rw [at?_put _ (by simp), at?_put _ (by simp)]
    split
    · rfl
    · rfl
  have within : grown.Within ((grown.put (there ++ [drawn]) (.file privateMode [])).put
      (there ++ [drawn]) (.file privateMode contents)) := by
    intro spot entry found
    rw [filled, if_neg, found]
    rintro rfl
    rw [free] at found
    cases found
  have moving := (filled (there ++ [drawn])).trans (if_pos rfl)
  have place := filled (there ++ [name])
  rw [if_neg (by simpa using Ne.symm other)] at place
  have calm : [WriteStep.fill, .sync, .setMode, .move].findSome? noMishap = none := rfl
  unfold settle
  dsimp only
  rw [calm, (named_path setting sized).moveFile (within.enter opened.entered) setting.plain.notDots
    short moving, place]
  by_cases standing : grown.at? (there ++ [name]) = some .directory
  · simp [standing]
  · simp [standing]

/-- What a write does once the directories are made. -/
private theorem writePrivate_opened {made : Disk}
    (parents : disk.makeParents noMishap (directory.join ⟨name⟩) = (.ok (), made)) :
    disk.writePrivate noMishap (directory.join ⟨name⟩) contents =
      match made.makeSibling (siblingDirectory (directory.join ⟨name⟩)) name mostAttempts 0 with
      | .error fault => (.error fault, made)
      | .ok (disk, sibling) => disk.settle noMishap sibling (directory.join ⟨name⟩) contents := by
  obtain ⟨parent, below⟩ := Path.exists_below setting.plain directory
  have named : (directory.join ⟨name⟩).fileName?.getD [] = name := by
    unfold Path.fileName?
    rw [below.cut]
    simp [setting.plain.notDot, setting.plain.notDots]
  unfold writePrivate
  rw [parents, named]
  rfl

/-- Once the directories are made, a file is written beside what they hold. -/
private theorem write_opened (fit : PathsFit disk directory name)
    (opened : Opened disk directory grown there)
    (parents : disk.makeParents noMishap (directory.join ⟨name⟩) =
      (.ok (), ⟨grown, disk.home, disk.tags⟩)) :
    (disk.writePrivate noMishap (directory.join ⟨name⟩) contents).1 = .ok () ↔
      (shownName name).length ≤ 243 ∧ grown.at? (there ++ [name]) ≠ some .directory := by
  rw [writePrivate_opened setting parents]
  by_cases short : (shownName name).length ≤ 243
  · obtain ⟨attempt, within, free⟩ := setting.free grown there opened.opens opened.entered
    obtain ⟨drawn, free, sibling⟩ := makeSibling_room setting fit opened short
      ⟨attempt, within, by rwa [Nat.zero_add]⟩
    have length := length_siblingName name (setting.tags drawn).1
    have least : name.length ≤ (shownName name).length := Utf8.length_le_encode_lossy name
    have other : siblingName name (disk.tags drawn) ≠ name := by
      intro same
      rw [same] at length
      omega
    have fits : name.length ≤ longestName := by
      change _ ≤ 255
      omega
    rw [sibling]
    exact (settle_room setting fit.sized opened fits other free).trans (and_iff_right short).symm
  · obtain ⟨fault, failed⟩ := makeSibling_crowded setting fit opened (Nat.not_le.mp short)
      mostAttempts 0
    rw [failed]
    simp [short]

omit setting in
private theorem parents_of_written {path : Path}
    (ok : (disk.writePrivate noMishap path contents).1 = .ok ()) :
    ∃ made, disk.makeParents noMishap path = (.ok (), made) := by
  cases parents : disk.makeParents noMishap path with
  | mk outcome made =>
    cases outcome with
    | error fault =>
      unfold writePrivate at ok
      rw [parents] at ok
      cases ok
    | ok => exact ⟨made, rfl⟩

omit setting in
/-- The system takes a path to which a file was written. -/
theorem sized_of_written {path : Path}
    (ok : (disk.writePrivate noMishap path contents).1 = .ok ()) : Sized path := by
  obtain ⟨above, last, wrote⟩ := writePrivate_wrote (Prod.ext ok rfl)
  obtain ⟨_, allowed, -⟩ := bind_eq_ok_iff.mp wrote.named
  unfold Tree.admitted at allowed
  split at allowed
  next => cases allowed
  next noNul =>
    split at allowed
    next => cases allowed
    next =>
      split at allowed
      next => cases allowed
      next short => exact ⟨by simpa using noNul, Nat.not_lt.mp short⟩

/-- Nothing is written where the path of a sibling is too long. -/
theorem write_unfit (sized : Sized (directory.join ⟨name⟩))
    (unfit : ¬ SiblingsFit disk directory name) :
    (disk.writePrivate noMishap (directory.join ⟨name⟩) contents).1 ≠ .ok () := by
  intro ok
  obtain ⟨made, parents⟩ := parents_of_written ok
  obtain ⟨grown, -, rfl⟩ := (makeParents_iff setting sized).mp parents
  have some_ :
      (disk.siblingPath (siblingDirectory (directory.join ⟨name⟩)) name 0).bytes ≠ [] := by
    intro nothing
    refine unfit ?_
    unfold SiblingsFit
    rw [nothing]
    exact Nat.zero_le _
  have refused : Tree.admitted (disk.siblingPath (siblingDirectory (directory.join ⟨name⟩)) name
      0) = .error .nameTooLong := by
    unfold Tree.admitted
    rw [if_neg (by simp [noNul_siblingPath setting sized 0]),
      if_neg (by simp [Path.isEmpty, some_]), if_pos (Nat.not_le.mp unfit)]
  have asked : grown.makeFile disk.home ((Disk.mk grown disk.home disk.tags).siblingPath
      (siblingDirectory (directory.join ⟨name⟩)) name 0) privateMode = .error .nameTooLong := by
    unfold Tree.makeFile Tree.target
    change ((Tree.admitted (disk.siblingPath _ name 0)).bind _).bind _ = _
    rw [refused]
    rfl
  rw [writePrivate_opened setting parents] at ok
  unfold mostAttempts makeSibling at ok
  dsimp only at ok
  rw [asked] at ok
  cases ok

/-- A private file is written where the directories open, the names fit and no directory stands in
the end. -/
theorem written_iff : (disk.writePrivate noMishap (directory.join ⟨name⟩) contents).1 = .ok () ↔
    (shownName name).length ≤ 243 ∧ PathsFit disk directory name ∧
      ∃ made there, Opened disk directory made there ∧
        made.at? (there ++ [name]) ≠ some .directory := by
  constructor
  · intro ok
    have sized := sized_of_written ok
    have siblings : SiblingsFit disk directory name := by
      by_contra unfit
      exact write_unfit setting sized unfit ok
    have fit : PathsFit disk directory name := ⟨sized, siblings⟩
    obtain ⟨made, parents⟩ := parents_of_written ok
    obtain ⟨grown, opens, rfl⟩ := (makeParents_iff setting sized).mp parents
    obtain ⟨there, opened⟩ := exists_opened setting opens
    obtain ⟨short, solid⟩ := (write_opened setting fit opened parents).mp ok
    exact ⟨short, fit, grown, there, opened, solid⟩
  · rintro ⟨short, fit, made, there, opened, solid⟩
    have parents := (makeParents_iff setting fit.sized).mpr ⟨made, opened.opens, rfl⟩
    exact (write_opened setting fit opened parents).mpr ⟨short, solid⟩

end writing

end Disk

end RuntimeHandover.Files
