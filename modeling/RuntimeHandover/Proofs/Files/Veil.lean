import RuntimeHandover.Proofs.Abreast
import RuntimeHandover.Proofs.Files.Path
import RuntimeHandover.Files.Disk
import RuntimeHandover.Proofs.Files.Tree

/-! A veil over some names. Trees that differ behind it only, and perhaps in what their files
hold, cannot be told apart by paths that have none of the names. -/
namespace RuntimeHandover.Files
open Files.Tree Text

/-- What two trees may differ in: what stands at a place with a veiled name, and what files
hold. -/
structure Veil where
  names : Name → Prop
  contents : List UInt8 → List UInt8 → Prop
  open_dot : ¬ names dot
  refl : ∀ bytes, contents bytes bytes

namespace Veil

variable (veil : Veil)

def Clear (names : List Name) : Prop := ∀ name ∈ names, ¬ veil.names name

/-- What stands at a place in front of the veil. A link there leads to nothing behind it. -/
inductive Shows : Option Entry → Option Entry → Prop
  | nothing : Shows none none
  | directory : Shows (some .directory) (some .directory)
  | file (mode : Nat) {one other : List UInt8} (same : veil.contents one other) :
      Shows (some (.file mode one)) (some (.file mode other))
  | link {target : Path} (clear : veil.Clear target.parts) :
      Shows (some (.link target)) (some (.link target))
  | socket (accepting : Bool) : Shows (some (.socket accepting)) (some (.socket accepting))

def Trees (one other : Tree) : Prop :=
  ∀ spot, veil.Clear spot → veil.Shows (one.at? spot) (other.at? spot)

def Places (one other : Spot) : Prop := one = other ∧ veil.Clear one

inductive Targets : Target → Target → Prop
  | name {directory : Spot} {name : Name} (slash : Bool)
      (clear : veil.Clear (directory ++ [name])) :
      Targets (.name directory name slash) (.name directory name slash)
  | fixed : Targets .fixed .fixed

end Veil

namespace Tree

private theorem find?_filter (keep : Spot → Bool) (spot : Spot) (entries : List (Spot × Entry)) :
    find? spot (entries.filter fun pair => keep pair.1) =
      if keep spot then find? spot entries else none := by
  induction entries with
  | nil => simp [find?]
  | cons pair rest ih =>
    obtain ⟨s, e⟩ := pair
    by_cases same : s = spot
    · subst same
      cases kept : keep s with
      | true => simp [kept, find?]
      | false => simp [kept, ih]
    · cases kept : keep s with
      | true => simp [kept, find?, same, ih]
      | false => simp [kept, find?, same, ih]

theorem find?_map (change : Entry → Entry) (spot : Spot) (entries : List (Spot × Entry)) :
    find? spot (entries.map fun pair => (pair.1, change pair.2)) =
      (find? spot entries).map change := by
  induction entries with
  | nil => rfl
  | cons pair rest ih =>
    obtain ⟨s, e⟩ := pair
    by_cases same : s = spot
    · simp [find?, same]
    · simp [find?, same, ih]

theorem mem_of_find? {spot : Spot} {entries : List (Spot × Entry)} {entry : Entry}
    (found : find? spot entries = some entry) : (spot, entry) ∈ entries := by
  induction entries with
  | nil => cases found
  | cons pair rest ih =>
    obtain ⟨s, e⟩ := pair
    unfold find? at found
    split at found
    next same =>
      cases same
      cases found
      exact List.mem_cons_self
    next => exact List.mem_cons_of_mem _ (ih found)

/-- The root stays a directory, whatever is put there. -/
private theorem at?_put_root (tree : Tree) (entry : Entry) (spot : Spot) :
    (tree.put [] entry).at? spot = tree.at? spot := by
  unfold at? put erase
  split
  next => rfl
  next below =>
    rw [find?_append, find?_erased, if_neg below, find?, if_neg (Ne.symm below), find?,
      Option.or_none]

end Tree

namespace Veil

variable {veil : Veil} {one other : Tree} {spot here : Spot} {names : List Name} {home : Spot}
  {path : Path}

theorem clear_nil : veil.Clear [] := by simp [Clear]

theorem clear_append {first second : List Name} :
    veil.Clear (first ++ second) ↔ veil.Clear first ∧ veil.Clear second := List.forall_mem_append

theorem clear_cons {name : Name} :
    veil.Clear (name :: names) ↔ ¬ veil.names name ∧ veil.Clear names :=
  List.forall_mem_cons

theorem Clear.subset {fewer : List Name} (clear : veil.Clear names) (within : fewer ⊆ names) :
    veil.Clear fewer := fun name inside => clear name (within inside)

private theorem Shows.isDirectory {standing standingOther : Option Entry}
    (shows_ : veil.Shows standing standingOther) :
    standing = some .directory ↔ standingOther = some .directory := by
  cases shows_ <;> simp

theorem clear_concat {name : Name} {rest : List Name} (clear : veil.Clear here)
    (open_ : veil.Clear (name :: rest)) : veil.Clear (here ++ [name]) :=
  clear_append.mpr ⟨clear, clear_cons.mpr ⟨(clear_cons.mp open_).1, clear_nil⟩⟩

/-- What a walk along a path starts from. -/
theorem clear_start (clear : veil.Clear here) (path : Path) : veil.Clear (Tree.start here path) := by
  unfold Tree.start
  split
  next => exact clear_nil
  next => exact clear

private theorem clear_route (clear : veil.Clear here) (open_ : veil.Clear path.parts) :
    veil.Clear (route here path).1 ∧ veil.Clear (route here path).2 := by
  unfold route
  constructor
  · exact clear_start clear path
  · dsimp only
    split
    next => exact clear_append.mpr ⟨open_, clear_cons.mpr ⟨veil.open_dot, clear_nil⟩⟩
    next => exact open_

private theorem clear_parent {parent : Path} (open_ : veil.Clear path.parts)
    (upper : path.parent? = some parent) : veil.Clear parent.parts := by
  obtain ⟨⟨_, last⟩, cut, rfl⟩ := Option.map_eq_some_iff.mp upper
  exact open_.subset (List.Subset.trans (Path.parent_of_split cut).2.subset
    (List.dropLast_subset _))

private theorem clear_siblingDirectory (open_ : veil.Clear path.parts) :
    veil.Clear (Disk.siblingDirectory path).parts := by
  have here : (Path.mk dot).parts = [dot] := by decide
  have clear_here : veil.Clear (Path.mk dot).parts := by
    rw [here]
    exact clear_cons.mpr ⟨veil.open_dot, clear_nil⟩
  unfold Disk.siblingDirectory
  split
  next parent upper =>
    split
    next => exact clear_here
    next => exact clear_parent open_ upper
  next => exact clear_here

private theorem clear_join {directory : Path} (upper : veil.Clear directory.parts)
    (open_ : veil.Clear path.parts) : veil.Clear (directory.join path).parts := by
  intro name inside
  rcases Path.mem_join inside with before | after
  · exact upper name before
  · exact open_ name after

section shows

variable {standing : Option Entry}

theorem Shows.refl (links : ∀ target, standing = some (.link target) → veil.Clear target.parts) :
    veil.Shows standing standing := by
  rcases standing with _ | entry
  · exact .nothing
  · cases entry with
    | directory => exact .directory
    | file mode contents => exact .file mode (veil.refl contents)
    | link target => exact .link (links target rfl)
    | socket accepting => exact .socket accepting

private theorem Shows.of_none (shows_ : veil.Shows none standing) : standing = none := by
  cases shows_
  rfl

end shows

private theorem Shows.accepting {standing standingOther : Option Entry}
    (shows_ : veil.Shows standing standingOther) :
    decide (standing = some (.socket true)) = decide (standingOther = some (.socket true)) := by
  cases shows_ <;> simp

namespace Trees

/-- Entries that show the same are put at one place. -/
theorem put (trees : veil.Trees one other) (spot : Spot) {entry entryOther : Entry}
    (shows_ : veil.Shows (some entry) (some entryOther)) :
    veil.Trees (one.put spot entry) (other.put spot entryOther) := by
  intro place clear
  by_cases root : spot = []
  · rw [root, at?_put_root, at?_put_root]
    exact trees place clear
  rw [at?_put _ root, at?_put _ root]
  split
  next => exact shows_
  next => exact trees place clear

/-- Places are kept or taken away by where they are. -/
theorem filter (trees : veil.Trees one other) (keep : Spot → Bool) :
    veil.Trees ⟨one.entries.filter fun pair => keep pair.1⟩
      ⟨other.entries.filter fun pair => keep pair.1⟩ := by
  intro place clear
  have shows_ := trees place clear
  unfold at? at shows_ ⊢
  rw [find?_filter, find?_filter]
  split
  next => exact .directory
  next root =>
    rw [if_neg root, if_neg root] at shows_
    split
    next => exact shows_
    next => exact .nothing

theorem erase (trees : veil.Trees one other) (spot : Spot) :
    veil.Trees (one.erase spot) (other.erase spot) :=
  trees.filter fun place => place ≠ spot

theorem prune (trees : veil.Trees one other) (spot : Spot) :
    veil.Trees (one.prune spot) (other.prune spot) :=
  trees.filter fun place => !spot.isPrefixOf place

/-- What is put behind the veil does not show. -/
private theorem put_behind (trees : veil.Trees one other) {name : Name} (veiled : veil.names name)
    (directory : Spot) (entry : Entry) :
    veil.Trees one (other.put (directory ++ [name]) entry) := by
  intro place clear
  rw [at?_put _ (by simp), if_neg ?_]
  · exact trees place clear
  · rintro rfl
    exact clear name (by simp) veiled

variable (trees : veil.Trees one other)

include trees

theorem isDirectory (clear : veil.Clear spot) : one.isDirectory spot = other.isDirectory spot := by
  rw [Bool.eq_iff_iff, isDirectory_iff, isDirectory_iff]
  exact (trees spot clear).isDirectory

private theorem walk {links : Nat} {here : Spot} {names : List Name} (clear : veil.Clear here)
    (open_ : veil.Clear names) :
    Paired veil.Places (one.walk links here names) (other.walk links here names) := by
  match names with
  | [] =>
    unfold Tree.walk
    exact .ok ⟨rfl, clear⟩
  | name :: rest =>
    obtain ⟨first, later⟩ := clear_cons.mp open_
    have next := clear_concat clear open_
    have shows_ := trees _ next
    unfold Tree.walk
    rw [trees.isDirectory clear]
    split
    next => exact .error _
    split
    next => exact walk clear later
    split
    next => exact walk (clear.subset (List.dropLast_subset here)) later
    split
    next => exact .error _
    -- Both walks go on from the same entry, and a link leads on by names in front of the veil.
    generalize one.at? (here ++ [name]) = entry, other.at? (here ++ [name]) = entryOther at shows_
    cases shows_ with
    | nothing => exact .error _
    | link turned =>
      match links with
      | 0 => exact .error _
      | links + 1 =>
        obtain ⟨from_, onward⟩ := clear_route clear turned
        exact walk from_ (clear_append.mpr ⟨onward, later⟩)
    | directory => exact walk next later
    | file mode same => exact walk next later
    | socket accepting => exact walk next later
termination_by (links, names.length)

theorem lookup {directory : Spot} {name : Name} (clear : veil.Clear (directory ++ [name])) :
    Paired veil.Shows (one.lookup directory name) (other.lookup directory name) := by
  unfold Tree.lookup
  split
  next => exact .error _
  next => exact .ok (trees _ clear)

section paths

variable (at_ : veil.Clear home) (open_ : veil.Clear path.parts)

include at_ open_

theorem resolve : Paired veil.Places (one.resolve home path) (other.resolve home path) := by
  refine (Paired.refl (admitted path)).bind fun _ _ _ => ?_
  obtain ⟨from_, onward⟩ := clear_route at_ open_
  exact trees.walk from_ onward

theorem target : Paired veil.Targets (one.target home path) (other.target home path) := by
  refine (Paired.refl (admitted path)).bind fun _ _ _ => ?_
  dsimp only
  split
  next => exact .ok .fixed
  next last ending =>
    refine (trees.walk (clear_start at_ path) (open_.subset (List.dropLast_subset _))).bind ?_
    rintro directory _ ⟨rfl, clear⟩
    rw [trees.isDirectory clear]
    split
    next => exact .error _
    next =>
      split
      next => exact .ok .fixed
      next =>
        have inside := open_ last (List.mem_of_getLast? ending)
        exact .ok (.name _ (clear_append.mpr ⟨clear, clear_cons.mpr ⟨inside, clear_nil⟩⟩))

private theorem makeDirectory :
    Paired veil.Trees (one.makeDirectory home path) (other.makeDirectory home path) := by
  refine (trees.target at_ open_).bind ?_
  intro target targetOther targets
  cases targets with
  | fixed => exact .error _
  | @name directory name slash clear =>
    refine (trees.lookup clear).bind ?_
    intro standing standingOther shows_
    cases shows_ with
    | nothing => exact .ok (trees.put _ .directory)
    | _ => exact .error _

private theorem makeFile (mode : Nat) :
    Paired (fun made madeOther => veil.Trees made.1 madeOther.1 ∧ veil.Places made.2 madeOther.2)
      (one.makeFile home path mode) (other.makeFile home path mode) := by
  refine (trees.target at_ open_).bind ?_
  intro target targetOther targets
  cases targets with
  | fixed => exact .error _
  | @name directory name slash clear =>
    refine (trees.lookup clear).bind ?_
    intro standing standingOther shows_
    cases shows_ with
    | nothing =>
      dsimp only
      split
      next => exact .error _
      next => exact .ok ⟨trees.put _ (.file mode (veil.refl [])), rfl, clear⟩
    | _ => exact .error _

private theorem moveFile (clear : veil.Clear spot) :
    Paired veil.Trees (one.moveFile home spot path) (other.moveFile home spot path) := by
  refine (trees.target at_ open_).bind ?_
  intro target targetOther targets
  cases targets with
  | fixed => exact .error _
  | @name directory name slash place =>
    refine (trees.lookup place).bind ?_
    intro standing standingOther shows_
    simp only [shows_.isDirectory]
    split
    next => exact .error _
    next =>
      split
      next => exact .error _
      next =>
        have moving := trees spot clear
        generalize one.at? spot = entry, other.at? spot = entryOther at moving
        rcases entry with _ | entry
        · rw [moving.of_none]
          exact .error _
        · rcases entryOther with _ | entryOther
          · cases moving
          · exact .ok ((trees.erase spot).put _ moving)

private theorem leadsToDirectory :
    one.leadsToDirectory home path = other.leadsToDirectory home path := by
  have led := trees.resolve at_ open_
  unfold Tree.leadsToDirectory
  generalize one.resolve home path = place, other.resolve home path = placeOther at led
  cases led with
  | error fault => rfl
  | ok places =>
    obtain ⟨rfl, clear⟩ := places
    exact trees.isDirectory clear

private theorem accepts : one.accepts home path = other.accepts home path := by
  have led := trees.resolve at_ open_
  unfold Tree.accepts
  generalize one.resolve home path = place, other.resolve home path = placeOther at led
  cases led with
  | error fault => rfl
  | ok places =>
    obtain ⟨rfl, clear⟩ := places
    dsimp only
    rw [(trees _ clear).accepting]

private theorem contents :
    Paired veil.contents (one.contents home path) (other.contents home path) := by
  refine (trees.resolve at_ open_).bind ?_
  rintro spot _ ⟨rfl, clear⟩
  have shows_ := trees spot clear
  generalize one.at? spot = entry, other.at? spot = entryOther at shows_
  cases shows_ with
  | file mode same => exact .ok same
  | _ => exact .error _

end paths

end Trees

/-- Disks whose processes work in one directory in front of the veil and see the same there. So
are the temporary siblings of the file that they save. -/
structure Disks (veil : Veil) (saved : Name) (one other : Disk) : Prop where
  tree : veil.Trees one.tree other.tree
  home : one.home = other.home
  tags : one.tags = other.tags
  clear : veil.Clear one.home
  below : veil.Clear one.homePath.parts
  siblings : ∀ attempt, veil.Clear (Path.partsOf (Disk.siblingName saved (one.tags attempt)))

namespace Disks

variable {saved : Name} {one other : Disk} (mishap : Mishap)

theorem withTree (disks : veil.Disks saved one other) {tree treeOther : Tree}
    (trees : veil.Trees tree treeOther) :
    veil.Disks saved {one with tree} {other with tree := treeOther} :=
  ⟨trees, disks.home, disks.tags, disks.clear, disks.below, disks.siblings⟩

theorem accepts (disks : veil.Disks saved one other) (open_ : veil.Clear path.parts) :
    one.accepts path = other.accepts path := by
  unfold Disk.accepts
  rw [← disks.home]
  exact disks.tree.accepts disks.clear open_

theorem text (disks : veil.Disks saved one other) (open_ : veil.Clear path.parts)
    (whole : ∀ {first second}, veil.contents first second → first = second) :
    one.text path = other.text path := by
  have read := disks.tree.contents disks.clear open_
  unfold Disk.text Disk.contents
  rw [← disks.home, (read.imp whole).eq]

private theorem leadsToDirectory (disks : veil.Disks saved one other)
    (open_ : veil.Clear path.parts) :
    one.tree.leadsToDirectory one.home path = other.tree.leadsToDirectory other.home path := by
  rw [← disks.home]
  exact disks.tree.leadsToDirectory disks.clear open_

private theorem makeDirectory (disks : veil.Disks saved one other) (open_ : veil.Clear path.parts) :
    Paired (veil.Disks saved) (one.makeDirectory mishap path)
      (other.makeDirectory mishap path) := by
  unfold Disk.makeDirectory
  split
  next => exact .error _
  next =>
    refine Paired.map ?_ disks.withTree
    rw [← disks.home]
    exact disks.tree.makeDirectory disks.clear open_

private theorem climb (disks : veil.Disks saved one other) {missing paths : List Path}
    (left : ∀ path ∈ missing, veil.Clear path.parts)
    (open_ : ∀ path ∈ paths, veil.Clear path.parts) :
    Paired (fun found foundOther => veil.Disks saved found.1 foundOther.1 ∧ found.2 = foundOther.2 ∧
        ∀ path ∈ found.2, veil.Clear path.parts)
      (one.climb mishap missing paths) (other.climb mishap missing paths) := by
  induction paths generalizing missing with
  | nil => exact .ok ⟨disks, rfl, left⟩
  | cons path above ih =>
    obtain ⟨here, open_⟩ := List.forall_mem_cons.mp open_
    have made := disks.makeDirectory mishap here
    unfold Disk.climb
    rw [← disks.leadsToDirectory here]
    generalize one.makeDirectory mishap path = result, other.makeDirectory mishap path = resultOther
      at made
    cases made with
    | ok disks => exact .ok ⟨disks, rfl, left⟩
    | error fault =>
      split
      next same => cases same
      next => exact ih (List.forall_mem_cons.mpr ⟨here, left⟩) open_
      next =>
        split
        next => exact .ok ⟨disks, rfl, left⟩
        next => exact .error _
      next => exact .error _

private theorem makeEach {paths : List Path} (open_ : ∀ path ∈ paths, veil.Clear path.parts) :
    Abreast (veil.Disks saved) Eq (fun disk => disk.makeEach mishap paths)
      (fun disk => disk.makeEach mishap paths) := by
  induction paths with
  | nil => exact fun _ _ disks => ⟨rfl, disks⟩
  | cons path rest ih =>
    obtain ⟨here, open_⟩ := List.forall_mem_cons.mp open_
    intro one other disks
    have made := disks.makeDirectory mishap here
    dsimp only
    unfold Disk.makeEach
    rw [← disks.leadsToDirectory here]
    generalize one.makeDirectory mishap path = result, other.makeDirectory mishap path = resultOther
      at made
    cases made with
    | ok disks => exact ih open_ _ _ disks
    | error fault =>
      split
      next same => cases same
      next =>
        split
        next => exact ih open_ _ _ disks
        next => exact ⟨rfl, disks⟩
      next => exact ⟨rfl, disks⟩

theorem makeDirectories (open_ : veil.Clear path.parts) :
    Abreast (veil.Disks saved) Eq (fun disk => disk.makeDirectories mishap path)
      (fun disk => disk.makeDirectories mishap path) := by
  intro one other disks
  have higher : ∀ above ∈ path.ancestors, veil.Clear above.parts := by
    intro above upper
    exact open_.subset (Path.mem_ancestors upper).2.subset
  have climbed := disks.climb mishap (List.forall_mem_nil _) higher
  dsimp only
  unfold Disk.makeDirectories
  generalize one.climb mishap [] path.ancestors = found,
    other.climb mishap [] path.ancestors = foundOther at climbed
  cases climbed with
  | error fault => exact ⟨rfl, disks⟩
  | @ok found foundOther same =>
    obtain ⟨disks, same, open_⟩ := same
    dsimp only
    rw [← same]
    exact makeEach mishap open_ _ _ disks

private theorem makeParents (open_ : veil.Clear path.parts) :
    Abreast (veil.Disks saved) Eq (fun disk => disk.makeParents mishap path)
      (fun disk => disk.makeParents mishap path) := by
  intro one other disks
  dsimp only
  unfold Disk.makeParents
  split
  next parent upper =>
    split
    next => exact ⟨rfl, disks⟩
    next => exact makeDirectories mishap (clear_parent open_ upper) _ _ disks
  next => exact ⟨rfl, disks⟩

private theorem makeSibling (disks : veil.Disks saved one other) {directory : Path}
    (open_ : veil.Clear directory.parts) (attempts attempt : Nat) :
    Paired (fun made madeOther =>
        veil.Disks saved made.1 madeOther.1 ∧ veil.Places made.2 madeOther.2)
      (one.makeSibling directory saved attempts attempt)
      (other.makeSibling directory saved attempts attempt) := by
  obtain ⟨treeOther, home, tags⟩ := other
  obtain rfl : one.home = home := disks.home
  obtain rfl : one.tags = tags := disks.tags
  induction attempts generalizing attempt with
  | zero => exact .error _
  | succ attempts ih =>
    have clear : veil.Clear (one.siblingPath directory saved attempt).parts :=
      clear_join (clear_join disks.below open_) (disks.siblings attempt)
    have made := disks.tree.makeFile disks.clear clear privateMode
    have same : Disk.siblingPath ⟨treeOther, one.home, one.tags⟩ directory saved attempt =
      one.siblingPath directory saved attempt := rfl
    unfold Disk.makeSibling
    rw [same]
    dsimp only at made ⊢
    generalize one.tree.makeFile one.home (one.siblingPath directory saved attempt) privateMode =
      file, treeOther.makeFile one.home (one.siblingPath directory saved attempt) privateMode =
      fileOther at made
    cases made with
    | ok made => exact .ok ⟨disks.withTree made.1, made.2⟩
    | error fault =>
      split
      next same => cases same
      next => exact ih _
      next => exact .error _

private theorem settle (disks : veil.Disks saved one other) (clear : veil.Clear spot)
    (open_ : veil.Clear path.parts) {contents contentsOther : List UInt8}
    (same : veil.contents contents contentsOther) :
    (one.settle mishap spot path contents).1 = (other.settle mishap spot path contentsOther).1 ∧
      veil.Disks saved (one.settle mishap spot path contents).2
        (other.settle mishap spot path contentsOther).2 := by
  obtain ⟨treeOther, home, tags⟩ := other
  obtain rfl : one.home = home := disks.home
  have filled := disks.tree.put spot (.file privateMode same)
  have moved := filled.moveFile disks.clear open_ clear
  unfold Disk.settle
  dsimp only at moved ⊢
  cases [WriteStep.fill, .sync, .setMode, .move].findSome? mishap with
  | some fault => exact ⟨rfl, disks.withTree (disks.tree.erase spot)⟩
  | none =>
    dsimp only
    generalize (one.tree.put spot (.file privateMode contents)).moveFile one.home spot path = tree,
      (treeOther.put spot (.file privateMode contentsOther)).moveFile one.home spot path =
      treeMoved at moved
    cases moved with
    | ok trees => exact ⟨rfl, disks.withTree trees⟩
    | error fault => exact ⟨rfl, disks.withTree (disks.tree.erase spot)⟩

theorem writePrivate (disks : veil.Disks saved one other) (open_ : veil.Clear path.parts)
    (named : path.fileName?.getD [] = saved) {contents contentsOther : List UInt8}
    (same : veil.contents contents contentsOther) :
    (one.writePrivate mishap path contents).1 = (other.writePrivate mishap path contentsOther).1 ∧
      veil.Disks saved (one.writePrivate mishap path contents).2
        (other.writePrivate mishap path contentsOther).2 := by
  obtain ⟨ended, disks⟩ := makeParents mishap open_ _ _ disks
  unfold Disk.writePrivate
  rw [named]
  dsimp only at ended disks
  generalize one.makeParents mishap path = parents, other.makeParents mishap path = parentsOther
    at ended disks
  obtain ⟨result, one⟩ := parents
  obtain ⟨_, treeOther, home, tags⟩ := parentsOther
  obtain rfl : result = _ := ended
  obtain rfl : one.home = home := disks.home
  obtain rfl : one.tags = tags := disks.tags
  cases result with
  | error fault => exact ⟨rfl, disks⟩
  | ok _ =>
    dsimp only
    split
    next => exact ⟨rfl, disks⟩
    next =>
      have made := makeSibling disks (clear_siblingDirectory open_) Disk.mostAttempts 0
      dsimp only at made
      generalize one.makeSibling (Disk.siblingDirectory path) saved Disk.mostAttempts 0 = sibling,
        Disk.makeSibling ⟨treeOther, one.home, one.tags⟩ (Disk.siblingDirectory path) saved
          Disk.mostAttempts 0 = siblingOther at made
      cases made with
      | error fault => exact ⟨rfl, disks⟩
      | @ok sibling siblingOther made =>
        obtain ⟨sibling, spot⟩ := sibling
        obtain ⟨siblingOther, _⟩ := siblingOther
        obtain ⟨disks, rfl, clear⟩ := made
        exact settle mishap disks clear open_ same

end Disks

section behind

def Hidden (veil : Veil) (names : List Name) : Prop :=
  ∀ name ∈ names, veil.names name ∨ name = dot ∨ name = dotDot

inductive Leads (veil : Veil) (tree : Tree) : Spot → List Name → Prop
  | behind {here : Spot} {names : List Name} (hidden : veil.Hidden names) :
      Leads veil tree here names
  | stay {here : Spot} {names : List Name} (onward : Leads veil tree here names) :
      Leads veil tree here (dot :: names)
  | down {here : Spot} {name : Name} {names : List Name} (plain : name ≠ dot ∧ name ≠ dotDot)
      (unveiled : ¬ veil.names name) (stands : tree.isDirectory (here ++ [name]) = true)
      (onward : Leads veil tree (here ++ [name]) names) : Leads veil tree here (name :: names)

namespace Leads

variable {tree : Tree}

private theorem shown (trees : veil.Trees one other) (leads : veil.Leads one here names)
    (clear : veil.Clear here) : veil.Leads other here names := by
  induction leads with
  | behind hidden => exact .behind hidden
  | stay onward ih => exact .stay (ih clear)
  | down plain unveiled stands onward ih =>
    have next := clear_append.mpr ⟨clear, clear_cons.mpr ⟨unveiled, clear_nil⟩⟩
    exact .down plain unveiled ((trees.isDirectory next).symm.trans stands) (ih next)

private theorem upper (leads : veil.Leads tree here names) {first : List Name}
    (before : first <+: names) :
    veil.Leads tree here first := by
  induction leads generalizing first with
  | behind hidden => exact .behind fun name inside => hidden name (before.subset inside)
  | stay onward ih =>
    cases first with
    | nil => exact .behind (by simp [Hidden])
    | cons name rest =>
      obtain ⟨rfl, within⟩ := List.cons_prefix_cons.mp before
      exact .stay (ih within)
  | down plain unveiled stands onward ih =>
    cases first with
    | nil => exact .behind (by simp [Hidden])
    | cons name rest =>
      obtain ⟨rfl, within⟩ := List.cons_prefix_cons.mp before
      exact .down plain unveiled stands (ih within)

/-- The last name is veiled where no directory stands. -/
private theorem last_veiled (leads : veil.Leads tree here names) {links : Nat} {directory : Spot}
    {name : Name} (walked : tree.walk links here names.dropLast = .ok directory)
    (last : names.getLast? = some name) (plain : name ≠ dot ∧ name ≠ dotDot)
    (free : tree.isDirectory (directory ++ [name]) = false) : veil.names name := by
  induction leads with
  | behind hidden =>
    exact (hidden name (List.mem_of_getLast? last)).resolve_right (not_or.mpr plain)
  | @stay here names onward ih =>
    cases names with
    | nil =>
      cases last
      exact absurd rfl plain.1
    | cons second rest =>
      rw [List.dropLast_cons_cons, Tree.walk] at walked
      split at walked
      next => cases walked
      next =>
        rw [if_pos rfl] at walked
        exact ih walked last
  | @down here first names plainFirst unveiled stands onward ih =>
    cases names with
    | nil =>
      cases last
      rw [List.dropLast_singleton, Tree.walk] at walked
      cases walked
      exact absurd (stands.symm.trans free) (by decide)
    | cons second rest =>
      rw [List.dropLast_cons_cons, Tree.walk] at walked
      split at walked
      next => cases walked
      next =>
        rw [if_neg plainFirst.1, if_neg plainFirst.2, isDirectory_iff.mp stands] at walked
        split at walked
        next => cases walked
        next => exact ih walked last

end Leads

def Reaches (veil : Veil) (disk : Disk) (path : Path) : Prop :=
  veil.Leads disk.tree (Tree.start disk.home path) path.parts

private theorem Reaches.ancestor {disk : Disk} {above : Path} (reaches : veil.Reaches disk path)
    (upper : above ∈ path.ancestors) : veil.Reaches disk above := by
  obtain ⟨absolute, before⟩ := Path.mem_ancestors upper
  have leads := Leads.upper reaches before
  unfold Reaches Tree.start
  rw [absolute]
  exact leads

theorem Reaches.shown {saved : Name} {disk diskOther : Disk}
    (disks : veil.Disks saved disk diskOther) (reaches : veil.Reaches disk path) :
    veil.Reaches diskOther path := by
  unfold Reaches
  rw [← disks.home]
  exact Leads.shown disks.tree reaches (clear_start disks.clear path)

/-- A disk that was changed behind the veil only, where links lead to nothing in front of it. -/
structure Behind (veil : Veil) (saved : Name) (start disk : Disk) : Prop where
  disks : veil.Disks saved start disk
  closed : ∀ directory name target, veil.names name →
    disk.tree.at? (directory ++ [name]) = some (.link target) → veil.Hidden target.parts

variable {saved : Name} {start disk made : Disk} {mishap : Mishap}

/-- What is put behind the veil is no link. -/
theorem Behind.put (behind : Behind veil saved start disk) {name : Name} (veiled : veil.names name)
    (directory : Spot) {entry : Entry} (solid : ∀ target, entry ≠ .link target) :
    Behind veil saved start {disk with tree := disk.tree.put (directory ++ [name]) entry} := by
  obtain ⟨disks, closed⟩ := behind
  refine ⟨⟨disks.tree.put_behind veiled directory entry, disks.home, disks.tags, disks.clear,
    disks.below, disks.siblings⟩, ?_⟩
  intro place other target hidden found
  rw [at?_put _ (by simp)] at found
  split at found
  next => exact absurd (Option.some.inj found) (solid target)
  next => exact closed place other target hidden found

private theorem Behind.makeDirectory (behind : Behind veil saved start disk)
    (reaches : veil.Reaches start path) (ok : disk.makeDirectory mishap path = .ok made) :
    Behind veil saved start made := by
  unfold Disk.makeDirectory at ok
  split at ok
  next => cases ok
  next =>
    cases putting : disk.tree.makeDirectory disk.home path with
    | error fault =>
      rw [putting] at ok
      cases ok
    | ok tree =>
      rw [putting] at ok
      cases ok
      obtain ⟨directory, name, slash, named, -, free, rfl⟩ := makeDirectory_eq_ok putting
      obtain ⟨-, ending, walked, -, notDot, notDots, -⟩ := target_eq_name_iff.mp named
      -- Nothing stood there, so the way had gone behind the veil.
      have leads := reaches.shown behind.disks
      have veiled := leads.last_veiled walked ending ⟨notDot, notDots⟩ (by simp [isDirectory, free])
      exact behind.put veiled directory (by simp)

private theorem Behind.climb (behind : Behind veil saved start disk)
    {missing paths left : List Path}
    (reachMissing : ∀ path ∈ missing, veil.Reaches start path)
    (reach : ∀ path ∈ paths, veil.Reaches start path)
    (ok : disk.climb mishap missing paths = .ok (made, left)) :
    Behind veil saved start made ∧ ∀ path ∈ left, veil.Reaches start path := by
  induction paths generalizing missing with
  | nil =>
    cases ok
    exact ⟨behind, reachMissing⟩
  | cons path above ih =>
    obtain ⟨here, reach⟩ := List.forall_mem_cons.mp reach
    unfold Disk.climb at ok
    split at ok
    next made =>
      cases ok
      exact ⟨behind.makeDirectory here made, reachMissing⟩
    next => exact ih (List.forall_mem_cons.mpr ⟨here, reachMissing⟩) reach ok
    next =>
      split at ok
      next =>
        cases ok
        exact ⟨behind, reachMissing⟩
      next => cases ok
    next => cases ok

private theorem Behind.makeEach (behind : Behind veil saved start disk) {paths : List Path}
    (reach : ∀ path ∈ paths, veil.Reaches start path) :
    Behind veil saved start (disk.makeEach mishap paths).2 := by
  induction paths generalizing disk with
  | nil => exact behind
  | cons path rest ih =>
    obtain ⟨here, reach⟩ := List.forall_mem_cons.mp reach
    unfold Disk.makeEach
    split
    next made => exact ih (behind.makeDirectory here made) reach
    next =>
      split
      next => exact ih behind reach
      next => exact behind
    next => exact behind

variable (mishap) in
theorem Behind.makeDirectories (behind : Behind veil saved start disk)
    (reaches : veil.Reaches start path) :
    Behind veil saved start (disk.makeDirectories mishap path).2 := by
  unfold Disk.makeDirectories
  split
  next => exact behind
  next made missing climbed =>
    obtain ⟨behind, reachMissing⟩ :=
      behind.climb (List.forall_mem_nil _) (fun _ upper => reaches.ancestor upper) climbed
    exact behind.makeEach reachMissing

end behind

end Veil
end RuntimeHandover.Files
