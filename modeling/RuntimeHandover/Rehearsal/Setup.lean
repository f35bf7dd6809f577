import RuntimeHandover.Files.Disk

/-! Setting a scene on a disk: files, links and sockets put there by others. -/
namespace RuntimeHandover.Rehearsal
open Files

inductive SetupStep where
  | makeDirectory (path : Path)
  | write (path : Path) (contents : List UInt8) (mode : Nat)
  | link (path : Path) (target : Path)
  | remove (path : Path)
  | removeTree (path : Path)
  | listen (path : Path)
  | stale (path : Path)
  | closeSockets
  deriving DecidableEq, Repr

namespace SetupStep

/-- The place that names lead to when a file is opened there for writing, made or not.
With a slash at the end it would have to be a directory. -/
def followToWrite (tree : Tree) (links : Nat) (here : Spot) (names : List Name) (slash : Bool) :
    Except OsFault Spot :=
  match names with
  | [] => .error .isDirectory
  | name :: rest =>
    if !tree.isDirectory here then .error .notDirectory
    else if rest.isEmpty ∧ (slash ∨ name = dot ∨ name = dotDot) then .error .isDirectory
    else if name = dot then followToWrite tree links here rest slash
    else if name = dotDot then followToWrite tree links here.dropLast rest slash
    else if name.length > Tree.longestName then .error .nameTooLong
    else match tree.at? (here ++ [name]) with
      | none => if rest.isEmpty then .ok (here ++ [name]) else .error .notFound
      | some (.link target) =>
        match links with
        | 0 => .error .tooManyLinks
        | links + 1 =>
          followToWrite tree links (if target.isAbsolute then [] else here) (target.parts ++ rest)
            (if rest.isEmpty then target.endsInSlash else slash)
      | some entry =>
        if rest.isEmpty then
          match entry with
          | .directory => .error .isDirectory
          | .socket _ => .error .noDevice
          | _ => .ok (here ++ [name])
        else followToWrite tree links (here ++ [name]) rest slash
termination_by (links, names.length)

def writeSpot (tree : Tree) (home : Spot) (path : Path) : Except OsFault Spot := do
  Tree.admitted path
  followToWrite tree Tree.mostLinks (if path.isAbsolute then [] else home) path.parts path.endsInSlash

def place (tree : Tree) (home : Spot) (path : Path) (entry : Entry) (taken : OsFault) :
    Except OsFault Tree := do
  match ← tree.target home path with
  | .fixed => .error taken
  | .name directory name slash =>
    match ← tree.lookup directory name with
    | some _ => .error taken
    | none => if slash then .error .notFound else .ok (tree.put (directory ++ [name]) entry)

def bindSocket (tree : Tree) (home : Spot) (path : Path) (accepting : Bool) :
    Except OsFault Tree :=
  if path.bytes.contains 0 then .error (.other "paths must not contain interior null bytes")
  else if path.bytes.length > Tree.longestSocketPath then
    .error (.other "path must be shorter than SUN_LEN")
  else if path.isEmpty then .ok tree
  else place tree home path (.socket accepting) (.other "Address already in use (os error 98)")

def removeFile (tree : Tree) (home : Spot) (path : Path) : Except OsFault Tree := do
  match ← tree.target home path with
  | .fixed => .error .isDirectory
  | .name directory name slash =>
    match ← tree.lookup directory name with
    | none => .error .notFound
    | some .directory => .error .isDirectory
    | some _ => if slash then .error .notDirectory else .ok (tree.erase (directory ++ [name]))

def emptied (tree : Tree) (spot : Spot) : Tree :=
  ⟨tree.entries.filter fun pair => !(spot.isPrefixOf pair.1 && pair.1 ≠ spot)⟩

def hollowed (tree : Tree) (home : Spot) (path : Path) (fault : OsFault) : OsFault × Tree :=
  match tree.resolve home path with
  | .ok spot => (fault, emptied tree spot)
  | .error fault => (fault, tree)

/-- Of a directory that is not named by a name of its own only what it holds can be taken
away, unless the name leads nowhere after that. -/
def hollowThroughDots (tree : Tree) (home : Spot) (path : Path) : Except OsFault Unit × Tree :=
  let (fault, left) := hollowed tree home path <|
    if path.parts.isEmpty then .busy
    else if path.parts.getLast? = some dot then .other "Invalid argument (os error 22)"
    else .notEmpty
  match fault, left.target home path with
  | .notEmpty, .error .notFound => (.ok (), left)
  | _, _ => (.error fault, left)

def removeAll (tree : Tree) (home : Spot) (path : Path) : Except OsFault Unit × Tree :=
  match tree.target home path with
  | .error fault => (.error fault, tree)
  | .ok .fixed => hollowThroughDots tree home path
  | .ok (.name directory name slash) =>
    match tree.lookup directory name with
    | .error fault => (.error fault, tree)
    | .ok none => (.error .notFound, tree)
    | .ok (some .directory) => (.ok (), tree.prune (directory ++ [name]))
    | .ok (some (.link _)) =>
      if slash then
        let (fault, left) := hollowed tree home path .notDirectory
        (.error fault, left)
      else (.ok (), tree.erase (directory ++ [name]))
    | .ok (some _) => (.error .notDirectory, tree)

def closed (tree : Tree) : Tree :=
  ⟨tree.entries.map fun pair => match pair.2 with
    | .socket _ => (pair.1, .socket false)
    | _ => pair⟩

def apply (disk : Disk) : SetupStep → Except OsFault Unit × Disk
  | .makeDirectory path => disk.makeDirectories noMishap path
  | .write path contents mode =>
    done do
      let spot ← writeSpot disk.tree disk.home path
      .ok (disk.tree.put spot (.file mode contents))
  | .link path target =>
    done (if target.isEmpty then .error .notFound
      else place disk.tree disk.home path (.link target) .alreadyExists)
  | .remove path => done (removeFile disk.tree disk.home path)
  | .removeTree path =>
    let (result, tree) := removeAll disk.tree disk.home path
    (result, {disk with tree})
  | .listen path => done (bindSocket disk.tree disk.home path true)
  | .stale path => done (bindSocket disk.tree disk.home path false)
  | .closeSockets => (.ok (), {disk with tree := closed disk.tree})
where
  done (result : Except OsFault Tree) : Except OsFault Unit × Disk :=
    match result with
    | .ok tree => (.ok (), {disk with tree})
    | .error fault => (.error fault, disk)

/-- Sets a scene; a step that cannot be done changes nothing. -/
def applyAll (disk : Disk) (steps : List SetupStep) : Disk :=
  steps.foldl (fun disk step => (step.apply disk).2) disk

end SetupStep

end RuntimeHandover.Rehearsal
