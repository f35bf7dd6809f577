import RuntimeHandover.Proofs.Files.Document
import RuntimeHandover.Proofs.Files.Way

/-! A private write is done or not done. What it changes besides the place that its path names
are directories above the path that were missing. -/
namespace RuntimeHandover.Files.Disk
open Files.Tree Way Text

def Raised (path : Path) (before after : Disk) (spot : Spot) : Prop :=
  Upper before path spot ∧ before.tree.at? spot = none ∧ after.tree.at? spot = some .directory

section written

variable {disk written : Disk} {path : Path} {mishap : Mishap} {contents : List UInt8}

/-- A write that succeeded has put its file where the path led before. -/
theorem way_of_wrote {directory : Spot} {name : Name}
    (wrote : Wrote (disk.makeParents mishap path).2 written path contents directory name) :
    ∃ through, disk.way? path = some ⟨through, directory ++ [name]⟩ := by
  obtain ⟨through, led⟩ := way_of_target wrote.named
  exact ⟨through, ((grows_makeParents disk mishap path).way? path).symm.trans led⟩

theorem entries_of_wrote {directory : Spot} {name : Name}
    (wrote : Wrote (disk.makeParents mishap path).2 written path contents directory name)
    {spot : Spot} (other : spot ≠ directory ++ [name]) :
    written.tree.at? spot = disk.tree.at? spot ∨ Raised path disk written spot := by
  unfold Raised
  rw [wrote.entries, if_neg other]
  exact (grows_makeParents disk mishap path).entries spot

/-- No directory stood at the place of a file that was written. -/
private theorem solid_of_wrote {directory : Spot} {name : Name}
    (wrote : Wrote (disk.makeParents mishap path).2 written path contents directory name) :
    disk.tree.at? (directory ++ [name]) ≠ some .directory := by
  intro inside
  apply wrote.solid
  obtain same | ⟨-, free, -⟩ := (grows_makeParents disk mishap path).entries (directory ++ [name])
  · rw [same, inside]
  · rw [inside] at free
    cases free

private theorem passesItself_of_aside {through : List Spot} {place : Spot}
    (led : disk.way? path = some ⟨through, place⟩) (aside : place ∉ through) :
    disk.passesItself path = false := by
  unfold passesItself
  split
  next directory name slash named =>
    obtain ⟨onward, there⟩ := way_of_target named
    rw [led] at there
    cases there
    obtain ⟨-, way, along, same⟩ := way?_eq_some.mp led
    have passing : way.through = through := congrArg Way.through same
    rw [Bool.eq_false_iff]
    intro passed
    exact aside (passing ▸ mem_through_of_passes along passed)
  next => rfl

/-- A file that was written to a path apart from its way is read by that path. -/
theorem contents_of_apart (apart : Apart disk path)
    (ok : disk.writePrivate mishap path contents = (.ok (), written)) :
    written.contents path = .ok contents := by
  obtain ⟨directory, name, wrote⟩ := writePrivate_wrote ok
  obtain ⟨through, led⟩ := way_of_wrote wrote
  have aside : directory ++ [name] ∉ through := by
    intro passed
    have there := apart _ led passed
    rw [object?, led] at there
    exact solid_of_wrote wrote there
  have grown := (grows_makeParents disk mishap path).way? path
  rw [contents_written wrote, passesItself_of_aside (grown.trans led) aside]
  rfl

end written

/-- A private write puts the whole file in the place that its path names, or it fails and leaves
what stood there. Every other entry stays as it was, also where the temporary sibling was, but
directories above the path that were missing may have been made. Only a path that leads through
its own place may find such a directory there, or lead elsewhere once its link is replaced. -/
theorem writePrivate_atomic (disk : Disk) (mishap : Mishap) (path : Path)
    (contents : List UInt8) :
    let ended := disk.writePrivate mishap path contents
    (ended.1 = .ok () → ∃ way, disk.way? path = some way ∧
      disk.tree.at? way.place ≠ some .directory ∧
      ended.2.tree.at? way.place = some (.file 0o600 contents) ∧
      ∀ spot ≠ way.place,
        ended.2.tree.at? spot = disk.tree.at? spot ∨ Raised path disk ended.2 spot) ∧
    (∀ fault, ended.1 = .error fault →
      ∀ spot, ended.2.tree.at? spot = disk.tree.at? spot ∨ Raised path disk ended.2 spot) ∧
    (disk.Apart path →
      ended.2.way? path = disk.way? path ∧
      (ended.1 = .ok () → ended.2.object? path = some (.file 0o600 contents) ∧
        ended.2.contents path = .ok contents) ∧
      ∀ fault, ended.1 = .error fault → ended.2.object? path = disk.object? path) := by
  intro ended
  rcases ran : ended with ⟨fault | _, after⟩
  · have grows := grows_of_failed ran
    refine ⟨nofun, fun _ _ => grows.entries, ?_⟩
    intro apart
    obtain ⟨way, object⟩ := untouched_of_failed apart ran
    exact ⟨way, nofun, fun _ _ => object⟩
  · refine ⟨fun _ => ?_, nofun, ?_⟩
    · obtain ⟨directory, name, wrote⟩ := writePrivate_wrote ran
      obtain ⟨through, led⟩ := way_of_wrote wrote
      refine ⟨_, led, solid_of_wrote wrote, ?_, ?_⟩
      · exact (wrote.entries _).trans (if_pos rfl)
      · intro spot other
        exact entries_of_wrote wrote other
    · intro apart
      have stored := stored_of_written apart ran
      exact ⟨stored.way, fun _ => ⟨stored.object, contents_of_apart apart ran⟩, nofun⟩

/-- A write to a link replaces the link; when the file cannot be moved there, the link stays. -/
theorem writePrivate_atomic_linked :
    let path := Path.ofString "l"
    let stuck : Mishap := fun step => if step = .move then some .busy else none
    (linked.writePrivate noMishap path [0x61]).2.object? path = some (.file 0o600 [0x61]) ∧
      (linked.writePrivate noMishap path [0x61]).2.contents path = .ok [0x61] ∧
      (linked.writePrivate stuck path [0x61]).2.object? path = some (.link (.ofString "d")) := by
  intro path stuck
  have led : linked.way? path = some ⟨[[]], [bytesOf "l"]⟩ := by cbv
  have apart : linked.Apart path := by
    intro way same passed
    rw [led] at same
    cases same
    exact absurd passed (by decide)
  have fine : (linked.writePrivate noMishap path [0x61]).1 = .ok () := by cbv
  have failed : (linked.writePrivate stuck path [0x61]).1 = .error (.os .busy) := by cbv
  obtain ⟨-, -, wrote⟩ := writePrivate_atomic linked noMishap path [0x61]
  obtain ⟨-, -, kept⟩ := writePrivate_atomic linked stuck path [0x61]
  obtain ⟨object, contents⟩ := (wrote apart).2.1 fine
  refine ⟨object, contents, ?_⟩
  rw [(kept apart).2.2 _ failed]
  cbv

/-- The path `l/../l` leads through the link that the file replaces, so it leads nowhere after the
write. The path `x/../x` leads through a directory `x` that is made for it, so the write fails and
the directory stays. -/
theorem not_atomic_through_itself :
    (¬ ∀ (mishap : Mishap) (disk : Disk) (path : Path) (contents : List UInt8),
      (disk.writePrivate mishap path contents).1 = .ok () →
      (disk.writePrivate mishap path contents).2.contents path = .ok contents) ∧
    ¬ ∀ (mishap : Mishap) (disk : Disk) (path : Path) (contents : List UInt8) (fault : FileFault),
      (disk.writePrivate mishap path contents).1 = .error fault →
      (disk.writePrivate mishap path contents).2.exists? path = disk.exists? path := by
  constructor
  · intro holds
    have fine : (linked.writePrivate noMishap (.ofString "l/../l") [0x61]).1 = .ok () := by cbv
    have stopped : (linked.writePrivate noMishap (.ofString "l/../l") [0x61]).2.contents
        (.ofString "l/../l") = .error (.os .notDirectory) := by cbv
    have clash := stopped.symm.trans (holds _ _ _ _ fine)
    cases clash
  · intro same
    have failed : (bare.writePrivate noMishap (.ofString "x/../x") [0x61]).1 =
        .error (.os .isDirectory) := by cbv
    have there : (bare.writePrivate noMishap (.ofString "x/../x") [0x61]).2.exists?
        (.ofString "x/../x") = true := by cbv
    have missing : bare.exists? (.ofString "x/../x") = false := by cbv
    have clash := there.symm.trans ((same _ _ _ _ _ failed).trans missing)
    cases clash

end RuntimeHandover.Files.Disk
