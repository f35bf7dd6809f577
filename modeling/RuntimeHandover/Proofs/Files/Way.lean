import RuntimeHandover.Proofs.Files.Path
import RuntimeHandover.Proofs.Files.Private

/-! The place that a path names, whether or not the directories above it are there yet, and what
a private write does there: it puts the whole file, or it fails and leaves nothing behind but
directories on the way. -/
namespace RuntimeHandover.Files
open Files.Tree

/-- What a path meets at a place: a directory or the room for one, a link, or what it cannot
pass. -/
inductive Sight where
  | clear
  | turn (target : Path)
  | wall
  deriving DecidableEq

def Tree.sight (tree : Tree) (spot : Spot) : Sight :=
  match tree.at? spot with
  | none | some .directory => .clear
  | some (.link target) => .turn target
  | some (.file _ _) | some (.socket _) => .wall

structure Way where
  through : List Spot
  place : Spot
  deriving DecidableEq

namespace Way

def past (spots : List Spot) (way : Way) : Way := {way with through := spots ++ way.through}

def along (sight : Spot → Sight) (links : Nat) (here : Spot) (names : List Name) : Option Way :=
  if sight here ≠ .clear then none
  else match names with
    | [] => some ⟨[here], here⟩
    | name :: rest =>
      if name = dot then along sight links here rest
      else if name = dotDot then (along sight links here.dropLast rest).map (past [here])
      else if name.length > longestName then none
      else match sight (here ++ [name]) with
        | .turn target =>
          match links with
          | 0 => none
          | links + 1 =>
            let (start, first) := route here target
            (along sight links start (first ++ rest)).map (past [here, here ++ [name]])
        | _ => (along sight links (here ++ [name]) rest).map (past [here])
termination_by (links, names.length)

section along

variable {sight other : Spot → Sight} {links : Nat} {here : Spot} {names : List Name} {way : Way}

private theorem mem_past {spots : List Spot} {spot : Spot} :
    spot ∈ (past spots way).through ↔ spot ∈ spots ∨ spot ∈ way.through := List.mem_append

private theorem along_starts (led : along sight links here names = some way) :
    sight here = .clear ∧ here ∈ way.through := by
  fun_induction along sight links here names generalizing way with
  | case1 => cases led
  | case2 links here clear =>
    cases led
    exact ⟨Decidable.not_not.mp clear, List.mem_cons_self⟩
  | case3 links here clear rest ih => exact ih led
  | case4 links here clear rest notDot ih =>
    obtain ⟨later, -, rfl⟩ := Option.map_eq_some_iff.mp led
    exact ⟨Decidable.not_not.mp clear, List.mem_cons_self⟩
  | case5 => cases led
  | case6 => cases led
  | case7 here clear =>
    obtain ⟨later, -, rfl⟩ := Option.map_eq_some_iff.mp led
    exact ⟨Decidable.not_not.mp clear, List.mem_cons_self⟩
  | case8 links here clear =>
    obtain ⟨later, -, rfl⟩ := Option.map_eq_some_iff.mp led
    exact ⟨Decidable.not_not.mp clear, List.mem_cons_self⟩

/-- A way depends on nothing but what it passes. -/
private theorem along_congr (led : along sight links here names = some way)
    (same : ∀ spot ∈ way.through, other spot = sight spot) :
    along other links here names = some way := by
  have seen : other here = sight here := same here (along_starts led).2
  fun_induction along sight links here names generalizing way with
  | case1 => cases led
  | case2 links here clear =>
    rw [along, if_neg (by rwa [seen])]
    exact led
  | case3 links here clear rest ih =>
    rw [along, if_neg (by rwa [seen]), if_pos rfl]
    exact ih led same seen
  | case4 links here clear rest notDot ih =>
    obtain ⟨later, onward, rfl⟩ := Option.map_eq_some_iff.mp led
    have same := fun spot inside => same spot (mem_past.mpr (.inr inside))
    rw [along, if_neg (by rwa [seen]), if_neg notDot, if_pos rfl,
      ih onward same (same _ (along_starts onward).2)]
    rfl
  | case5 => cases led
  | case6 => cases led
  | case7 here clear name rest notDot notDots short target found links start first way ih =>
    obtain ⟨later, onward, rfl⟩ := Option.map_eq_some_iff.mp led
    have turned := (same (here ++ [name]) (mem_past.mpr (.inl (.tail _ (.head _))))).trans found
    have same := fun spot inside => same spot (mem_past.mpr (.inr inside))
    rw [along, if_neg (by rwa [seen]), if_neg notDot, if_neg notDots, if_neg short, turned]
    dsimp only
    rw [way, ih onward same (same _ (along_starts onward).2)]
    rfl
  | case8 links here clear name rest notDot notDots short solid ih =>
    obtain ⟨later, onward, rfl⟩ := Option.map_eq_some_iff.mp led
    have same := fun spot inside => same spot (mem_past.mpr (.inr inside))
    have next := along_starts onward
    rw [along, if_neg (by rwa [seen]), if_neg notDot, if_neg notDots, if_neg short,
      same _ next.2, next.1, ih onward same (same _ next.2)]
    rfl

end along

section arrives

variable {tree : Tree} {links : Nat} {here there : Spot} {names : List Name}

private theorem sight_directory {spot : Spot} (inside : tree.at? spot = some .directory) :
    tree.sight spot = .clear := by simp [sight, inside]

private theorem sight_free {spot : Spot} (free : tree.at? spot = none) :
    tree.sight spot = .clear := by
  simp [sight, free]

private theorem sight_turn_iff {spot : Spot} {target : Path} :
    tree.sight spot = .turn target ↔ tree.at? spot = some (.link target) := by
  unfold sight
  split
  next free => simp [free]
  next inside => simp [inside]
  next found => simp [found]
  next found => simp [found]
  next found => simp [found]

/-- A way that goes on from where a walk arrives passes what the rest of it passes. -/
private theorem along_of_arrives (arrives : Arrives tree links here names there)
    (more : List Name) :
    ∃ left spots, along tree.sight links here (names ++ more) =
      (along tree.sight left there more).map (past spots) := by
  induction arrives with
  | @done links here =>
    refine ⟨links, [], ?_⟩
    exact Option.map_id'.symm
  | stay inside later ih =>
    obtain ⟨left, spots, same⟩ := ih
    refine ⟨left, spots, ?_⟩
    rw [List.cons_append, along, if_neg (by simp [sight_directory inside]), if_pos rfl, same]
  | @up links here names there inside later ih =>
    obtain ⟨left, spots, same⟩ := ih
    refine ⟨left, here :: spots, ?_⟩
    rw [List.cons_append, along, if_neg (by simp [sight_directory inside]), if_neg (by decide),
      if_pos rfl, same, Option.map_map]
    rfl
  | @through links here name names target there inside plain found later ih =>
    obtain ⟨left, spots, same⟩ := ih
    refine ⟨left, here :: (here ++ [name]) :: spots, ?_⟩
    rw [List.append_assoc] at same
    rw [List.cons_append, along, if_neg (by simp [sight_directory inside]), if_neg plain.1,
      if_neg plain.2.1, if_neg (Nat.not_lt.mpr plain.2.2), sight_turn_iff.mpr found]
    dsimp only
    rw [same, Option.map_map]
    rfl
  | @into links here name names entry there inside plain found solid later ih =>
    obtain ⟨left, spots, same⟩ := ih
    refine ⟨left, here :: spots, ?_⟩
    rw [List.cons_append, along, if_neg (by simp [sight_directory inside]), if_neg plain.1,
      if_neg plain.2.1, if_neg (Nat.not_lt.mpr plain.2.2)]
    split
    next target turned =>
      rw [sight_turn_iff, found] at turned
      exact absurd (Option.some.inj turned) (solid target)
    next =>
      rw [same, Option.map_map]
      rfl

/-- A link that a walk goes through is on the way. -/
theorem mem_through_of_passes {spot : Spot} {way : Way}
    (led : along tree.sight links here names = some way)
    (passed : tree.passes spot links here names = true) : spot ∈ way.through := by
  fun_induction along tree.sight links here names generalizing way with
  | case1 => cases led
  | case2 links here clear =>
    rw [passes] at passed
    cases passed
  | case3 links here clear rest ih =>
    rw [passes, if_pos rfl] at passed
    exact ih led passed
  | case4 links here clear rest notDot ih =>
    obtain ⟨later, onward, rfl⟩ := Option.map_eq_some_iff.mp led
    rw [passes, if_neg notDot, if_pos rfl] at passed
    exact mem_past.mpr (.inr (ih onward passed))
  | case5 => cases led
  | case6 => cases led
  | case7 here clear name rest notDot notDots short target found links start first way ih =>
    obtain ⟨later, onward, rfl⟩ := Option.map_eq_some_iff.mp led
    rw [passes, if_neg notDot, if_neg notDots, sight_turn_iff.mp found] at passed
    rcases Bool.or_eq_true_iff.mp passed with same | later
    · rw [← of_decide_eq_true same]
      exact mem_past.mpr (.inl (.tail _ (.head _)))
    · dsimp only at later
      rw [way] at later
      exact mem_past.mpr (.inr (ih onward later))
  | case8 links here clear name rest notDot notDots short solid ih =>
    obtain ⟨later, onward, rfl⟩ := Option.map_eq_some_iff.mp led
    have notLink : ∀ target, tree.at? (here ++ [name]) ≠ some (.link target) := by
      intro target found
      exact solid target (sight_turn_iff.mpr found)
    rw [passes, if_neg notDot, if_neg notDots] at passed
    split at passed
    next target found => exact absurd found (notLink target)
    next => exact mem_past.mpr (.inr (ih onward passed))

end arrives

/-- The place that the last part of a path names, from the directory that it is looked up in. -/
def onto (directory : Spot) (last : Name) : Spot :=
  if last = dot then directory
  else if last = dotDot then directory.dropLast
  else directory ++ [last]

end Way

namespace Disk
open Way

def way? (disk : Disk) (path : Path) : Option Way :=
  match admitted path with
  | .error _ => none
  | .ok () =>
    (along disk.tree.sight mostLinks (start disk.home path) path.parts.dropLast).map fun way =>
      {way with place := onto way.place (path.parts.getLast?.getD dot)}

def object? (disk : Disk) (path : Path) : Option Entry :=
  (disk.way? path).bind fun way => disk.tree.at? way.place

def Apart (disk : Disk) (path : Path) : Prop :=
  ∀ way, disk.way? path = some way → way.place ∈ way.through → disk.object? path = some .directory

def OnWay (disk : Disk) (path : Path) (spot : Spot) : Prop :=
  ∀ way, disk.way? path = some way → spot ∈ way.through

def Over (path above : Path) : Prop :=
  above.isAbsolute = path.isAbsolute ∧ above.parts <+: path.parts.dropLast

/-- A place of a directory above a path, which the path leads through if it leads anywhere. -/
structure Upper (disk : Disk) (path : Path) (spot : Spot) : Prop where
  place : ∃ above way, Over path above ∧ disk.way? above = some way ∧ way.place = spot
  onWay : OnWay disk path spot

section ways

variable {disk other : Disk} {path : Path} {way : Way}

theorem way?_eq_some : disk.way? path = some way ↔
    admitted path = .ok () ∧ ∃ led,
      along disk.tree.sight mostLinks (start disk.home path) path.parts.dropLast = some led ∧
      {led with place := onto led.place (path.parts.getLast?.getD dot)} = way := by
  unfold way?
  split
  next fault refused => simp [refused]
  next allowed => simp [allowed, Option.map_eq_some_iff]

private theorem way?_congr (home : other.home = disk.home) (led : disk.way? path = some way)
    (same : ∀ spot ∈ way.through, other.tree.sight spot = disk.tree.sight spot) :
    other.way? path = some way := by
  obtain ⟨allowed, found, along, rfl⟩ := way?_eq_some.mp led
  refine way?_eq_some.mpr ⟨allowed, found, ?_, rfl⟩
  rw [home]
  exact along_congr along same

/-- Where the system finds the entry that a path names is where the way of the path ends. -/
theorem way_of_target {directory : Spot} {name : Name} {slash : Bool}
    (named : disk.tree.target disk.home path = .ok (.name directory name slash)) :
    ∃ through, disk.way? path = some ⟨through, directory ++ [name]⟩ := by
  obtain ⟨allowed, ending, walked, inside, notDot, notDots, -⟩ := target_eq_name_iff.mp named
  obtain ⟨left, spots, same⟩ := along_of_arrives (arrives_of_walk walked) []
  rw [List.append_nil, along, if_neg (by simp [sight_directory inside])] at same
  refine ⟨spots ++ [directory], way?_eq_some.mpr ⟨allowed, _, same, ?_⟩⟩
  simp [past, onto, ending, notDot, notDots]

end ways

structure Grows (may : Spot → Prop) (disk grown : Disk) : Prop where
  home : grown.home = disk.home
  entries (spot : Spot) : grown.tree.at? spot = disk.tree.at? spot ∨
    may spot ∧ disk.tree.at? spot = none ∧ grown.tree.at? spot = some .directory

section growing

variable {may : Spot → Prop} {first disk grown : Disk} {path above : Path} {mishap : Mishap}
  {spot : Spot}

private theorem Grows.refl (disk : Disk) : Grows may disk disk := ⟨rfl, fun _ => .inl rfl⟩

private theorem Grows.trans (before : Grows may first disk) (later : Grows may disk grown) :
    Grows may first grown := by
  refine ⟨later.home.trans before.home, ?_⟩
  intro spot
  obtain same | ⟨allowed, free, made⟩ := later.entries spot
  · rw [same]
    exact before.entries spot
  · obtain old | ⟨_, _, there⟩ := before.entries spot
    · exact .inr ⟨allowed, old ▸ free, made⟩
    · rw [free] at there
      cases there

/-- A way leads on as well below a directory as where one is missing. -/
private theorem Grows.sight (grows : Grows may disk grown) :
    grown.tree.sight = disk.tree.sight := by
  funext spot
  obtain same | ⟨_, free, made⟩ := grows.entries spot
  · unfold Tree.sight
    rw [same]
  · rw [sight_free free, sight_directory made]

theorem Grows.way? (grows : Grows may disk grown) (path : Path) :
    grown.way? path = disk.way? path := by
  unfold Disk.way?
  rw [grows.sight, grows.home]

private theorem Upper.of_grown (upper : Upper disk path spot) (grows : Grows may first disk) :
    Upper first path spot := by
  obtain ⟨⟨above, way, lying, led, there⟩, onWay⟩ := upper
  rw [grows.way?] at led
  refine ⟨⟨above, way, lying, led, there⟩, ?_⟩
  unfold OnWay at onWay
  rwa [grows.way?] at onWay

/-- A directory that is missing above a path is on its way. -/
private theorem onWay_of_named (upper : Over path above) {directory : Spot} {name : Name}
    {slash : Bool}
    (named : disk.tree.target disk.home above = .ok (.name directory name slash))
    (short : name.length ≤ longestName) (free : disk.tree.at? (directory ++ [name]) = none) :
    OnWay disk path (directory ++ [name]) := by
  intro way led
  obtain ⟨_, ending, walked, inside, notDot, notDots, _⟩ := target_eq_name_iff.mp named
  obtain ⟨_, found, going, rfl⟩ := way?_eq_some.mp led
  obtain ⟨absolute, more, parts⟩ := upper
  obtain ⟨before, split⟩ := List.getLast?_eq_some_iff.mp ending
  have from_ : start disk.home above = start disk.home path := by
    unfold start
    rw [absolute]
  -- The way of the path begins as the walk to the directory, and then meets the free place.
  rw [split, List.dropLast_concat, from_] at walked
  rw [split, List.append_assoc] at parts
  obtain ⟨left, spots, same⟩ := along_of_arrives (arrives_of_walk walked) ([name] ++ more)
  rw [← parts, same] at going
  obtain ⟨onward, leads, rfl⟩ := Option.map_eq_some_iff.mp going
  rw [List.singleton_append, along, if_neg (by simp [sight_directory inside]), if_neg notDot,
    if_neg notDots, if_neg (Nat.not_lt.mpr short), sight_free free] at leads
  obtain ⟨rest, further, rfl⟩ := Option.map_eq_some_iff.mp leads
  exact mem_past.mpr (.inr (mem_past.mpr (.inr (along_starts further).2)))

private theorem grows_makeDirectory (upper : Over path above)
    (made : disk.makeDirectory mishap above = .ok grown) : Grows (Upper disk path) disk grown := by
  unfold makeDirectory at made
  split at made
  next => cases made
  next =>
    cases putting : disk.tree.makeDirectory disk.home above with
    | error fault =>
      rw [putting] at made
      cases made
    | ok tree =>
      rw [putting] at made
      cases made
      obtain ⟨directory, name, slash, named, short, free, rfl⟩ := makeDirectory_eq_ok putting
      refine ⟨rfl, ?_⟩
      intro spot
      rw [at?_put _ (by simp)]
      by_cases here : spot = directory ++ [name]
      · rw [if_pos here, here]
        obtain ⟨through, led⟩ := way_of_target named
        exact .inr ⟨⟨⟨above, _, upper, led, rfl⟩, onWay_of_named upper named short free⟩, free, rfl⟩
      · rw [if_neg here]
        exact .inl rfl

private theorem grows_step (grows : Grows (Upper first path) first disk) (upper : Over path above)
    (made : disk.makeDirectory mishap above = .ok grown) :
    Grows (Upper first path) first grown := by
  have further := grows_makeDirectory upper made
  exact grows.trans ⟨further.home, fun spot => (further.entries spot).imp_right
    fun ⟨allowed, there⟩ => ⟨allowed.of_grown grows, there⟩⟩

private theorem grows_climb {missing left : List Path} {paths : List Path}
    (grows : Grows (Upper first path) first disk) (upper : ∀ above ∈ paths, Over path above)
    (overMissing : ∀ above ∈ missing, Over path above)
    (ok : disk.climb mishap missing paths = .ok (grown, left)) :
    Grows (Upper first path) first grown ∧ ∀ above ∈ left, Over path above := by
  induction paths generalizing missing with
  | nil =>
    cases ok
    exact ⟨grows, overMissing⟩
  | cons above higher ih =>
    obtain ⟨here, upper⟩ := List.forall_mem_cons.mp upper
    unfold climb at ok
    split at ok
    next made =>
      cases ok
      exact ⟨grows_step grows here made, overMissing⟩
    next => exact ih upper (List.forall_mem_cons.mpr ⟨here, overMissing⟩) ok
    next =>
      split at ok
      next =>
        cases ok
        exact ⟨grows, overMissing⟩
      next => cases ok
    next => cases ok

private theorem grows_makeEach {paths : List Path} (grows : Grows (Upper first path) first disk)
    (upper : ∀ above ∈ paths, Over path above) :
    Grows (Upper first path) first (disk.makeEach mishap paths).2 := by
  induction paths generalizing disk with
  | nil => exact grows
  | cons above later ih =>
    obtain ⟨here, upper⟩ := List.forall_mem_cons.mp upper
    unfold makeEach
    split
    next made => exact ih (grows_step grows here made) upper
    next =>
      split
      next => exact ih grows upper
      next => exact grows
    next => exact grows

/-- What is made for a path are directories above it. -/
theorem grows_makeParents (disk : Disk) (mishap : Mishap) (path : Path) :
    Grows (Upper disk path) disk (disk.makeParents mishap path).2 := by
  unfold makeParents
  split
  next parent above =>
    split
    next => exact .refl disk
    next =>
      have upper : ∀ higher ∈ parent.ancestors, Over path higher :=
        fun _ inside => Path.mem_parent_ancestors above inside
      unfold makeDirectories
      split
      next => exact .refl disk
      next made missing climbed =>
        obtain ⟨grows, overMissing⟩ := grows_climb (.refl disk) upper (by simp) climbed
        exact grows_makeEach grows overMissing
  next => exact .refl disk

end growing

section writing

variable {disk left written : Disk} {path : Path} {mishap : Mishap} {contents : List UInt8}

private theorem settle_eq_error {sibling : Spot} {fault : FileFault}
    (failed : disk.settle mishap sibling path contents = (.error fault, left)) :
    left = {disk with tree := disk.tree.erase sibling} := by
  unfold settle at failed
  dsimp only at failed
  split at failed
  next => cases failed
  next =>
    cases failed
    rfl

/-- A private write that fails leaves nothing behind but directories above its path. -/
theorem grows_of_failed {fault : FileFault}
    (failed : disk.writePrivate mishap path contents = (.error fault, left)) :
    Grows (Upper disk path) disk left := by
  have parents := grows_makeParents disk mishap path
  unfold writePrivate at failed
  split at failed
  next made =>
    cases failed
    rwa [made] at parents
  next made ready =>
    rw [ready] at parents
    dsimp only at failed
    split at failed
    next =>
      cases failed
      exact parents
    next =>
      split at failed
      next =>
        cases failed
        exact parents
      next fresh sibling found =>
        obtain ⟨below, free, rfl⟩ := makeSibling_eq_ok found
        rw [settle_eq_error failed]
        refine parents.trans ⟨rfl, ?_⟩
        intro spot
        left
        rw [at?_erase _ below, at?_put _ below]
        by_cases here : spot = sibling
        · rw [if_pos here, here, free]
        · rw [if_neg here, if_neg here]

def Untouched (path : Path) (before after : Disk) : Prop :=
  after.way? path = before.way? path ∧ after.object? path = before.object? path

private theorem untouched_of_grows (apart : Apart disk path)
    (grows : Grows (Upper disk path) disk left) :
    Untouched path disk left := by
  have same := grows.way? path
  refine ⟨same, ?_⟩
  unfold object?
  rw [same]
  cases led : disk.way? path with
  | none => rfl
  | some way =>
    obtain kept | ⟨passed, free, -⟩ := grows.entries way.place
    · exact kept
    -- A directory made at the place itself would be on the way, where one stood already.
    · have there : disk.object? path = some .directory := apart way led (passed.onWay way led)
      unfold object? at there
      rw [led] at there
      exact absurd (free.symm.trans there) (by simp)

theorem untouched_of_failed (apart : Apart disk path) {fault : FileFault}
    (failed : disk.writePrivate mishap path contents = (.error fault, left)) :
    Untouched path disk left :=
  untouched_of_grows apart (grows_of_failed failed)

structure Stored (path : Path) (contents : List UInt8) (before after : Disk) : Prop where
  way : after.way? path = before.way? path
  object : after.object? path = some (.file privateMode contents)
  apart : after.Apart path

theorem stored_of_written (apart : Apart disk path)
    (ok : disk.writePrivate mishap path contents = (.ok (), written)) :
    Stored path contents disk written := by
  obtain ⟨directory, name, wrote⟩ := writePrivate_wrote ok
  obtain ⟨way, object⟩ := untouched_of_grows apart (grows_makeParents disk mishap path)
  obtain ⟨through, led⟩ := way_of_target wrote.named
  have aside : directory ++ [name] ∉ through := by
    intro passed
    have there := apart ⟨through, directory ++ [name]⟩ (way ▸ led) passed
    rw [← object] at there
    unfold object? at there
    rw [led] at there
    exact wrote.solid there
  have kept : written.way? path = some ⟨through, directory ++ [name]⟩ := by
    -- The file is the only change, and it is not on the way.
    refine way?_congr wrote.home led ?_
    intro spot passed
    have other : spot ≠ directory ++ [name] := fun here => aside (here ▸ passed)
    unfold Tree.sight
    rw [wrote.entries, if_neg other]
  refine ⟨kept.trans (led.symm.trans way), ?_, ?_⟩
  · unfold object?
    rw [kept]
    exact (wrote.entries _).trans (if_pos rfl)
  · intro there led passed
    rw [kept] at led
    cases led
    exact absurd passed aside

theorem Apart.untouched (apart : Apart disk path) (untouched : Untouched path disk left) :
    Apart left path := by
  obtain ⟨way, object⟩ := untouched
  unfold Apart
  rw [way, object]
  exact apart

end writing

end Disk
end RuntimeHandover.Files
