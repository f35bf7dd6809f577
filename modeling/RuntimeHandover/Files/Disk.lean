import RuntimeHandover.Files.Tree

/-! A tree of files as a process sees it from its working directory: reading, and
writing a private file in one step through a temporary sibling. -/
namespace RuntimeHandover.Files
open Text

structure Disk where
  tree : Tree
  home : Spot
  /-- The endings the system draws for temporary names, one after the other. -/
  tags : Nat → Name

def privateMode : Nat := 0o600

inductive WriteStep where
  | makeParent (path : Path)
  | makeSibling
  | fill
  | sync
  | setMode
  | move
  deriving DecidableEq, Repr

abbrev Mishap := WriteStep → Option OsFault

def noMishap : Mishap := fun _ => none

namespace Disk

def homePath (disk : Disk) : Path :=
  ⟨disk.home.flatMap fun name => slash :: name⟩

def contents (disk : Disk) (path : Path) : Except FileFault (List UInt8) :=
  (disk.tree.contents disk.home path).mapError .os

def text (disk : Disk) (path : Path) : Except FileFault String := do
  let contents ← disk.contents path
  match Utf8.flaw? contents with
  | some flaw => .error (.notText flaw)
  | none => .ok (lossyText contents)

def exists? (disk : Disk) (path : Path) : Bool :=
  disk.tree.exists? disk.home path

def accepts (disk : Disk) (path : Path) : Bool :=
  disk.tree.accepts disk.home path

def makeDirectory (mishap : Mishap) (disk : Disk) (path : Path) : Except OsFault Disk :=
  match mishap (.makeParent path) with
  | some fault => .error fault
  | none => (disk.tree.makeDirectory disk.home path).map fun tree => {disk with tree}

/-- Goes up from a directory to the nearest one that is there or can be made, and
gives those that are still to be made, outermost first. -/
def climb (mishap : Mishap) (disk : Disk) (missing : List Path) :
    List Path → Except OsFault (Disk × List Path)
  | [] => .ok (disk, missing)
  | path :: above =>
    match disk.makeDirectory mishap path with
    | .ok disk => .ok (disk, missing)
    | .error .notFound => climb mishap disk (path :: missing) above
    | .error .alreadyExists =>
      if disk.tree.leadsToDirectory disk.home path then .ok (disk, missing)
      else .error .alreadyExists
    | .error fault => .error fault

def makeEach (mishap : Mishap) (disk : Disk) : List Path → Except OsFault Unit × Disk
  | [] => (.ok (), disk)
  | path :: rest =>
    match disk.makeDirectory mishap path with
    | .ok disk => makeEach mishap disk rest
    | .error .alreadyExists =>
      if disk.tree.leadsToDirectory disk.home path then makeEach mishap disk rest
      else (.error .alreadyExists, disk)
    | .error fault => (.error fault, disk)

def makeDirectories (mishap : Mishap) (disk : Disk) (path : Path) : Except OsFault Unit × Disk :=
  match disk.climb mishap [] path.ancestors with
  | .error fault => (.error fault, disk)
  | .ok (disk, missing) => disk.makeEach mishap missing

def shownName (name : Name) : Name :=
  Utf8.encode (Utf8.lossy name)

def siblingName (name : Name) (tag : Name) : Name :=
  dot ++ shownName name ++ dot ++ tag ++ bytesOf ".tmp"

def siblingPath (disk : Disk) (directory : Path) (name : Name) (attempt : Nat) : Path :=
  (disk.homePath.join directory).join ⟨siblingName name (disk.tags attempt)⟩

def mostAttempts : Nat := 65536

def makeSibling (disk : Disk) (directory : Path) (name : Name) :
    Nat → Nat → Except FileFault (Disk × Spot)
  | 0, _ => .error (.sibling (.other "too many temporary files exist") directory)
  | attempts + 1, attempt =>
    let path := disk.siblingPath directory name attempt
    match disk.tree.makeFile disk.home path privateMode with
    | .ok (tree, spot) => .ok ({disk with tree}, spot)
    | .error .alreadyExists => makeSibling disk directory name attempts (attempt + 1)
    | .error fault => .error (.sibling fault path)

def settle (mishap : Mishap) (disk : Disk) (sibling : Spot) (path : Path)
    (contents : List UInt8) : Except FileFault Unit × Disk :=
  let filled : Disk := {disk with tree := disk.tree.put sibling (.file privateMode contents)}
  let moved : Except OsFault Tree :=
    match [WriteStep.fill, .sync, .setMode, .move].findSome? mishap with
    | some fault => .error fault
    | none => filled.tree.moveFile disk.home sibling path
  match moved with
  | .ok tree => (.ok (), {disk with tree})
  | .error fault => (.error (.os fault), {disk with tree := disk.tree.erase sibling})

def siblingDirectory (path : Path) : Path :=
  match path.parent? with
  | some parent => if parent.isEmpty then ⟨dot⟩ else parent
  | none => ⟨dot⟩

def makeParents (mishap : Mishap) (disk : Disk) (path : Path) : Except OsFault Unit × Disk :=
  match path.parent? with
  | some parent => if parent.isEmpty then (.ok (), disk) else disk.makeDirectories mishap parent
  | none => (.ok (), disk)

/-- Writes a private file: readers see what was there before or the whole contents. -/
def writePrivate (mishap : Mishap) (disk : Disk) (path : Path) (contents : List UInt8) :
    Except FileFault Unit × Disk :=
  match disk.makeParents mishap path with
  | (.error fault, disk) => (.error (.os fault), disk)
  | (.ok (), disk) =>
    let directory := siblingDirectory path
    let name := path.fileName?.getD []
    match mishap .makeSibling with
    | some fault => (.error (.sibling fault (disk.siblingPath directory name 0)), disk)
    | none =>
      match disk.makeSibling directory name mostAttempts 0 with
      | .error fault => (.error fault, disk)
      | .ok (disk, sibling) => disk.settle mishap sibling path contents

end Disk

end RuntimeHandover.Files
