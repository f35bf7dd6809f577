import RuntimeHandover.Text.Blank
import RuntimeHandover.Text.Quoted

/-! Paths as the bytes the system gets. A path is taken apart at its slashes;
empty parts, and dots except a leading one, say nothing about where it leads. -/
namespace RuntimeHandover.Files
open Text

abbrev Name := List UInt8

structure Path where
  bytes : List UInt8
  deriving DecidableEq, Repr

def slash : UInt8 := 0x2F
def dot : Name := [0x2E]
def dotDot : Name := [0x2E, 0x2E]

namespace Path

def ofString (text : String) : Path := ⟨bytesOf text⟩

def shown (path : Path) : String := lossyText path.bytes

def quoted (path : Path) : String := quotedBytes path.bytes

def isEmpty (path : Path) : Bool := path.bytes.isEmpty

def isAbsolute (path : Path) : Bool := path.bytes.head? == some slash

def parts (path : Path) : List Name :=
  (pieces (· == slash) path.bytes).filter fun part => !part.isEmpty

def endsInSlash (path : Path) : Bool :=
  path.bytes.getLast? == some slash && !path.parts.isEmpty

/-- The bytes of the root, or of a leading dot that stands for the directory one is in. -/
def leadLength (path : Path) : Nat :=
  match path.bytes with
  | b :: rest =>
    if b = slash then 1
    else if b = 0x2E && (rest.isEmpty || rest.head? == some slash) then 1
    else 0
  | [] => 0

/-- The last part of a body, read from its end: what remains before it, without
the slash between, and the part. -/
def splitLast (body : List UInt8) : List UInt8 × Name :=
  let backward := body.reverse
  let last := (backward.takeWhile (· != slash)).reverse
  let before := (backward.dropWhile (· != slash)).drop 1
  (before.reverse, last)

def idle (part : Name) : Bool := part.isEmpty || part == dot

def trimIdle (body : List UInt8) : List UInt8 :=
  if body.isEmpty then []
  else
    let split := splitLast body
    if idle split.2 then
      if _shorter : split.1.length < body.length then trimIdle split.1 else body
    else body
termination_by body.length

def split? (path : Path) : Option (Path × Name) :=
  let lead := path.bytes.take path.leadLength
  let body := trimIdle (path.bytes.drop path.leadLength)
  if body.isEmpty then
    if lead == [slash] || lead.isEmpty then none else some (⟨[]⟩, dot)
  else
    let split := splitLast body
    some (⟨lead ++ trimIdle split.1⟩, split.2)

def parent? (path : Path) : Option Path := path.split?.map (·.1)

def fileName? (path : Path) : Option Name :=
  match path.split? with
  | some (_, last) => if last = dot ∨ last = dotDot then none else some last
  | none => none

def join (directory : Path) (path : Path) : Path :=
  if path.isAbsolute then path
  else if directory.isEmpty || directory.bytes.getLast? == some slash then
    ⟨directory.bytes ++ path.bytes⟩
  else ⟨directory.bytes ++ slash :: path.bytes⟩

/-- The path, then the directories above it, nearest first; not the root and not
the directory one is in. -/
def ancestors (path : Path) : List Path :=
  match path.split? with
  | none => []
  | some (parent, _) =>
    if path.isEmpty then []
    else if _shorter : parent.bytes.length < path.bytes.length then path :: ancestors parent
    else [path]
termination_by path.bytes.length

end Path

end RuntimeHandover.Files
