import RuntimeHandover.Files.Disk
import RuntimeHandover.Proofs.Files.Tree

/-! A private write that succeeds leaves the tree as it was once the directories above the
path were made, but for the file itself. The file is read back by the same path, unless
the path goes through the very link that the file has replaced. -/
namespace RuntimeHandover.Files.Disk
open Files.Tree

section siblings

variable {disk fresh : Disk} {directory : Path} {name : Name} {sibling : Spot}

theorem makeSibling_eq_ok {attempts attempt : Nat}
    (ok : disk.makeSibling directory name attempts attempt = .ok (fresh, sibling)) :
    sibling ≠ [] ∧ disk.tree.at? sibling = none ∧
      fresh = {disk with tree := disk.tree.put sibling (.file privateMode [])} := by
  induction attempts generalizing attempt with
  | zero => cases ok
  | succ attempts ih =>
    unfold makeSibling at ok
    dsimp only at ok
    split at ok
    next made =>
      cases ok
      obtain ⟨below, free, rfl⟩ := makeFile_eq_ok made
      exact ⟨below, free, rfl⟩
    next => exact ih ok
    next => cases ok

end siblings

section settled

variable {mishap : Mishap} {disk written : Disk} {path : Path} {contents : List UInt8}

private theorem settle_eq_ok {sibling : Spot}
    (ok : disk.settle mishap sibling path contents = (.ok (), written)) :
    ∃ moved, (disk.tree.put sibling (.file privateMode contents)).moveFile disk.home sibling path =
      .ok moved ∧ written = {disk with tree := moved} := by
  unfold settle at ok
  dsimp only at ok
  split at ok
  next moved settled =>
    cases ok
    split at settled
    next => cases settled
    next => exact ⟨moved, settled, rfl⟩
  next => cases ok

/-- The entry that a path names does not change with a file that stands elsewhere. -/
private theorem target_put_file {tree : Tree} {home sibling directory : Spot} {name : Name}
    {slash : Bool}
    {mode : Nat} (below : sibling ≠ [])
    (named : (tree.put sibling (.file mode contents)).target home path =
      .ok (.name directory name slash)) :
    tree.target home path = .ok (.name directory name slash) := by
  rw [target_eq_name_iff] at named ⊢
  obtain ⟨allowed, ending, walked, inside, plain⟩ := named
  have file := at?_put tree below (.file mode contents) sibling
  rw [if_pos rfl] at file
  have agree : Agree (tree.put sibling (.file mode contents)) tree sibling := by
    intro other different
    rw [at?_put tree below, if_neg different]
    exact ⟨id, fun _ => id⟩
  have solid : (tree.put sibling (.file mode contents)).at? sibling ≠ some .directory := by
    rw [file]
    simp
  -- The sibling is a file, and a walk that arrives goes through no file.
  have arrives := arrives_of_walk walked
  have notLink : ∀ target, (tree.put sibling (.file mode contents)).at? sibling ≠
      some (.link target) := by
    rw [file]
    simp
  have avoids := arrives.passes_of_not_link notLink
  exact ⟨allowed, ending, (arrives.agree agree solid inside avoids).walk,
    agree.of_directory solid inside, plain⟩

structure Wrote (made written : Disk) (path : Path) (contents : List UInt8) (directory : Spot)
    (name : Name) : Prop where
  named : made.tree.target made.home path = .ok (.name directory name false)
  short : name.length ≤ longestName
  solid : made.tree.at? (directory ++ [name]) ≠ some .directory
  home : written.home = made.home
  entries : ∀ other, written.tree.at? other =
    if other = directory ++ [name] then some (.file privateMode contents) else made.tree.at? other

private theorem settle_wrote {sibling : Spot} (below : sibling ≠ [])
    (free : disk.tree.at? sibling = none)
    (ok : {disk with tree := disk.tree.put sibling (.file privateMode [])}.settle mishap sibling path
      contents = (.ok (), written)) :
    ∃ directory name, Wrote disk written path contents directory name := by
  obtain ⟨moved, moving, rfl⟩ := settle_eq_ok ok
  obtain ⟨directory, name, entry, named, short, solid, standing, rfl⟩ := moveFile_eq_ok moving
  have spot_below : directory ++ [name] ≠ [] := by simp
  have filled (other : Spot) : ((disk.tree.put sibling (.file privateMode [])).put sibling
      (.file privateMode contents)).at? other =
        if other = sibling then some (.file privateMode contents) else disk.tree.at? other := by
    rw [at?_put _ below, at?_put _ below]
    split
    · rfl
    · rfl
  rw [filled, if_pos rfl] at standing
  cases standing
  rw [filled] at solid
  refine ⟨directory, name, target_put_file below (target_put_file below named), short, ?_, rfl, ?_⟩
  -- The path may name the sibling itself, where nothing stood.
  · by_cases same : directory ++ [name] = sibling
    · rw [same, free]
      simp
    · rwa [if_neg same] at solid
  · intro other
    rw [at?_put _ spot_below, at?_erase _ below, filled]
    by_cases same : other = sibling
    · simp [same, free]
    · simp [same]

theorem writePrivate_wrote (ok : disk.writePrivate mishap path contents = (.ok (), written)) :
    ∃ directory name, Wrote (disk.makeParents mishap path).2 written path contents directory name := by
  unfold writePrivate at ok
  split at ok
  next => cases ok
  next made parents =>
    dsimp only at ok
    split at ok
    next => cases ok
    next =>
      split at ok
      next => cases ok
      next fresh sibling found =>
        obtain ⟨below, free, rfl⟩ := makeSibling_eq_ok found
        rw [parents]
        exact settle_wrote below free ok

def passesItself (disk : Disk) (path : Path) : Bool :=
  match disk.tree.target disk.home path with
  | .ok (.name directory name _) =>
    disk.tree.passes (directory ++ [name]) mostLinks (start disk.home path) path.parts.dropLast
  | _ => false

/-- What is read by the path of a private file that was just written. -/
theorem contents_written {made : Disk} {directory : Spot} {name : Name}
    (wrote : Wrote made written path contents directory name) :
    written.contents path =
      if made.passesItself path then .error (.os .notDirectory) else .ok contents := by
  have named := wrote.named
  rw [target_eq_name_iff] at named
  obtain ⟨allowed, ending, walked, inside, notDot, notDots, noSlash⟩ := named
  have file := wrote.entries (directory ++ [name])
  rw [if_pos rfl] at file
  have agree : Agree made.tree written.tree (directory ++ [name]) := by
    intro other different
    rw [wrote.entries, if_neg different]
    exact ⟨id, fun _ => id⟩
  have arrives := arrives_of_walk walked
  have parts : path.parts.dropLast ++ [name] = path.parts := by
    obtain ⟨before, split⟩ := List.getLast?_eq_some_iff.mp ending
    rw [split, List.dropLast_concat]
  have resolved : written.tree.resolve written.home path =
      written.tree.walk mostLinks (start made.home path) (path.parts.dropLast ++ [name]) := by
    simp only [resolve, allowed, route, ← noSlash, wrote.home, parts, bind, Except.bind]
    rfl
  have passed : made.passesItself path = made.tree.passes (directory ++ [name]) mostLinks
      (start made.home path) path.parts.dropLast := by
    simp only [passesItself, wrote.named]
  rw [passed]
  -- Only what stands at the path has changed: the walk to its directory is as before unless it
  -- went through the link that was there.
  cases through : made.tree.passes (directory ++ [name]) mostLinks (start made.home path)
      path.parts.dropLast with
  | true =>
    have stopped := arrives.blocked agree wrote.solid file inside through (List.cons_ne_nil name [])
    simp only [Disk.contents, Tree.contents, resolved, stopped]
    rfl
  | false =>
    obtain ⟨left, same⟩ := (arrives.agree agree wrote.solid inside through).walk_append
    have inside' := isDirectory_iff.mpr (agree.of_directory wrote.solid inside)
    have last : written.tree.walk left directory [name] = .ok (directory ++ [name]) := by
      rw [walk, if_neg (by simp [inside']), if_neg notDot, if_neg notDots,
        if_neg (Nat.not_lt.mpr wrote.short), file]
      exact walk.eq_1 ..
    simp only [Disk.contents, Tree.contents, resolved, same, last, bind, Except.bind, file]
    rfl

end settled

end RuntimeHandover.Files.Disk
