import RuntimeHandover.Proofs.Files.Veil
import RuntimeHandover.Rehearsal.Setup

/-! Setting a scene on disks that differ behind a veil only. Steps in front of the veil do the
same on both of them, and leave them alike. -/
namespace RuntimeHandover.Rehearsal
open Files Files.Tree Files.Veil

variable {veil : Veil} {one other : Tree} {home : Spot} {path : Path} {saved : Name}

namespace SetupStep

def shut : Entry → Entry
  | .socket _ => .socket false
  | entry => entry

private theorem at?_closed (tree : Tree) (spot : Spot) :
    (closed tree).at? spot = (tree.at? spot).map shut := by
  have entries : (closed tree).entries = tree.entries.map fun pair => (pair.1, shut pair.2) := by
    apply List.map_congr_left
    rintro ⟨place, entry⟩ _
    cases entry <;> rfl
  unfold at?
  rw [entries, find?_map]
  split
  next => rfl
  next => rfl

private theorem followToWrite_veiled (trees : veil.Trees one other) {links : Nat} {here : Spot}
    {names : List Name} {slash : Bool} (clear : veil.Clear here) (open_ : veil.Clear names) :
    Paired veil.Places (followToWrite one links here names slash)
      (followToWrite other links here names slash) := by
  match names with
  | [] =>
    unfold followToWrite
    exact .error _
  | name :: rest =>
    obtain ⟨first, later⟩ := clear_cons.mp open_
    have next := clear_concat clear open_
    have shows_ := trees _ next
    unfold followToWrite
    rw [trees.isDirectory clear]
    split
    next => exact .error _
    split
    next => exact .error _
    split
    next => exact followToWrite_veiled trees clear later
    split
    next => exact followToWrite_veiled trees (clear.subset (List.dropLast_subset here)) later
    split
    next => exact .error _
    generalize one.at? (here ++ [name]) = entry, other.at? (here ++ [name]) = entryOther at shows_
    cases shows_ with
    | nothing =>
      dsimp only
      split
      next => exact .ok ⟨rfl, next⟩
      next => exact .error _
    | @link target turned =>
      match links with
      | 0 => exact .error _
      | links + 1 =>
        exact followToWrite_veiled trees (clear_start clear target)
          (clear_append.mpr ⟨turned, later⟩)
    | directory =>
      dsimp only
      split
      next => exact .error _
      next => exact followToWrite_veiled trees next later
    | file mode same =>
      dsimp only
      split
      next => exact .ok ⟨rfl, next⟩
      next => exact followToWrite_veiled trees next later
    | socket accepting =>
      dsimp only
      split
      next => exact .error _
      next => exact followToWrite_veiled trees next later
termination_by (links, names.length)

section trees

variable (trees : veil.Trees one other)

include trees

private theorem emptied_veiled (spot : Spot) : veil.Trees (emptied one spot) (emptied other spot) :=
  trees.filter fun place => !(spot.isPrefixOf place && place ≠ spot)

private theorem closed_veiled : veil.Trees (closed one) (closed other) := by
  intro spot clear
  have shows_ := trees spot clear
  rw [at?_closed, at?_closed]
  generalize one.at? spot = entry, other.at? spot = entryOther at shows_
  cases shows_ with
  | nothing => exact .nothing
  | directory => exact .directory
  | file mode same => exact .file mode same
  | link clear => exact .link clear
  | socket accepting => exact .socket false

variable (at_ : veil.Clear home) (open_ : veil.Clear path.parts)

include at_ open_

private theorem writeSpot_veiled :
    Paired veil.Places (writeSpot one home path) (writeSpot other home path) := by
  refine (Paired.refl (admitted path)).bind fun _ _ _ => ?_
  exact followToWrite_veiled trees (clear_start at_ path) open_

private theorem place_veiled {entry : Entry} (shows_ : veil.Shows (some entry) (some entry))
    (taken : OsFault) :
    Paired veil.Trees (place one home path entry taken) (place other home path entry taken) := by
  refine (trees.target at_ open_).bind ?_
  intro target targetOther targets
  cases targets with
  | fixed => exact .error _
  | @name directory name slash clear =>
    refine (trees.lookup clear).bind ?_
    intro standing standingOther standings
    cases standings with
    | nothing =>
      dsimp only
      split
      next => exact .error _
      next => exact .ok (trees.put _ shows_)
    | _ => exact .error _

private theorem bindSocket_veiled (accepting : Bool) :
    Paired veil.Trees (bindSocket one home path accepting)
      (bindSocket other home path accepting) := by
  unfold bindSocket
  split
  next => exact .error _
  split
  next => exact .error _
  split
  next => exact .ok trees
  next => exact place_veiled trees at_ open_ (.socket accepting) _

private theorem removeFile_veiled :
    Paired veil.Trees (removeFile one home path) (removeFile other home path) := by
  refine (trees.target at_ open_).bind ?_
  intro target targetOther targets
  cases targets with
  | fixed => exact .error _
  | @name directory name slash clear =>
    refine (trees.lookup clear).bind ?_
    intro standing standingOther standings
    cases standings with
    | nothing => exact .error _
    | directory => exact .error _
    | _ =>
      dsimp only
      split
      next => exact .error _
      next => exact .ok (trees.erase _)

private theorem hollowed_veiled (fault : OsFault) :
    (hollowed one home path fault).1 = (hollowed other home path fault).1 ∧
      veil.Trees (hollowed one home path fault).2 (hollowed other home path fault).2 := by
  have led := trees.resolve at_ open_
  unfold hollowed
  generalize one.resolve home path = place, other.resolve home path = placeOther at led
  cases led with
  | error fault => exact ⟨rfl, trees⟩
  | ok places =>
    obtain ⟨rfl, -⟩ := places
    exact ⟨rfl, emptied_veiled trees _⟩

private theorem hollowThroughDots_veiled :
    (hollowThroughDots one home path).1 = (hollowThroughDots other home path).1 ∧
      veil.Trees (hollowThroughDots one home path).2 (hollowThroughDots other home path).2 := by
  unfold hollowThroughDots
  generalize (if path.parts.isEmpty then OsFault.busy
    else if path.parts.getLast? = some dot then .other "Invalid argument (os error 22)"
    else .notEmpty) = why
  obtain ⟨same, lefts⟩ := hollowed_veiled trees at_ open_ why
  generalize hollowed one home path why = left, hollowed other home path why = leftOther
    at same lefts
  obtain ⟨fault, left⟩ := left
  obtain ⟨_, leftOther⟩ := leftOther
  obtain rfl : fault = _ := same
  have targets := lefts.target at_ open_
  dsimp only at targets ⊢
  generalize left.target home path = target, leftOther.target home path = targetOther at targets
  cases targets with
  | ok same => cases fault <;> exact ⟨rfl, lefts⟩
  | error missing =>
    split
    next => exact ⟨rfl, lefts⟩
    next => exact ⟨rfl, lefts⟩

private theorem removeAll_veiled :
    (removeAll one home path).1 = (removeAll other home path).1 ∧
      veil.Trees (removeAll one home path).2 (removeAll other home path).2 := by
  have targets := trees.target at_ open_
  unfold removeAll
  generalize one.target home path = target, other.target home path = targetOther at targets
  cases targets with
  | error fault => exact ⟨rfl, trees⟩
  | ok targets =>
    cases targets with
    | fixed => exact hollowThroughDots_veiled trees at_ open_
    | @name directory name slash clear =>
      have looked := trees.lookup clear
      dsimp only
      generalize one.lookup directory name = standing, other.lookup directory name = standingOther
        at looked
      cases looked with
      | error fault => exact ⟨rfl, trees⟩
      | ok shows_ =>
        cases shows_ with
        | nothing => exact ⟨rfl, trees⟩
        | directory => exact ⟨rfl, trees.prune _⟩
        | link turned =>
          dsimp only
          split
          next =>
            obtain ⟨same, lefts⟩ := hollowed_veiled trees at_ open_ .notDirectory
            exact ⟨congrArg Except.error same, lefts⟩
          next => exact ⟨rfl, trees.erase _⟩
        | file mode same => exact ⟨rfl, trees⟩
        | socket accepting => exact ⟨rfl, trees⟩

end trees

def Clear (veil : Veil) : SetupStep → Prop
  | .makeDirectory path | .write path _ _ | .remove path | .removeTree path | .listen path
  | .stale path => veil.Clear path.parts
  | .link path target => veil.Clear path.parts ∧ veil.Clear target.parts
  | .closeSockets => True

section steps

variable {disk diskOther : Disk}

private theorem done_veiled (disks : veil.Disks saved disk diskOther)
    {result resultOther : Except OsFault Tree} (results : Paired veil.Trees result resultOther) :
    (apply.done disk result).1 = (apply.done diskOther resultOther).1 ∧
      veil.Disks saved (apply.done disk result).2 (apply.done diskOther resultOther).2 := by
  cases results with
  | ok trees => exact ⟨rfl, disks.withTree trees⟩
  | error fault => exact ⟨rfl, disks⟩

private theorem apply_veiled {step : SetupStep} (open_ : step.Clear veil) :
    Abreast (veil.Disks saved) Eq (fun disk => step.apply disk) (fun disk => step.apply disk) := by
  rintro disk ⟨treeOther, home, tags⟩ disks
  obtain rfl : disk.home = home := disks.home
  cases step with
  | makeDirectory path => exact Disks.makeDirectories noMishap open_ _ _ disks
  | write path contents mode =>
    apply done_veiled disks
    refine (writeSpot_veiled disks.tree disks.clear open_).bind ?_
    rintro spot _ ⟨rfl, -⟩
    exact .ok (disks.tree.put spot (.file mode (veil.refl contents)))
  | link path target =>
    apply done_veiled disks
    dsimp only
    split
    next => exact .error _
    next => exact place_veiled disks.tree disks.clear open_.1 (.link open_.2) _
  | remove path => exact done_veiled disks (removeFile_veiled disks.tree disks.clear open_)
  | removeTree path =>
    obtain ⟨same, trees⟩ := removeAll_veiled disks.tree disks.clear open_
    exact ⟨same, disks.withTree trees⟩
  | listen path => exact done_veiled disks (bindSocket_veiled disks.tree disks.clear open_ true)
  | stale path => exact done_veiled disks (bindSocket_veiled disks.tree disks.clear open_ false)
  | closeSockets => exact ⟨rfl, disks.withTree (closed_veiled disks.tree)⟩

theorem applyAll_veiled (disks : veil.Disks saved disk diskOther) {steps : List SetupStep}
    (open_ : ∀ step ∈ steps, step.Clear veil) :
    veil.Disks saved (applyAll disk steps) (applyAll diskOther steps) := by
  induction steps generalizing disk diskOther with
  | nil => exact disks
  | cons step rest ih =>
    obtain ⟨first, open_⟩ := List.forall_mem_cons.mp open_
    exact ih (apply_veiled first _ _ disks).2 open_

end steps

end SetupStep
end RuntimeHandover.Rehearsal
