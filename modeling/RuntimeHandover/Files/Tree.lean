import RuntimeHandover.Files.Fault

/-! A tree of files: what stands at each place below the root, and how a path
leads to a place. -/
namespace RuntimeHandover.Files

inductive Entry where
  | directory
  | file (mode : Nat) (contents : List UInt8)
  | link (target : Path)
  | socket (accepting : Bool)
  deriving DecidableEq, Repr

abbrev Spot := List Name

structure Tree where
  entries : List (Spot × Entry)
  deriving DecidableEq, Repr

namespace Tree

def empty : Tree := ⟨[]⟩

def find? (spot : Spot) : List (Spot × Entry) → Option Entry
  | [] => none
  | (s, e) :: rest => if s = spot then some e else find? spot rest

def at? (tree : Tree) (spot : Spot) : Option Entry :=
  if spot = [] then some .directory else find? spot tree.entries

def erase (tree : Tree) (spot : Spot) : Tree :=
  ⟨tree.entries.filter fun pair => pair.1 ≠ spot⟩

def put (tree : Tree) (spot : Spot) (entry : Entry) : Tree :=
  ⟨(tree.erase spot).entries ++ [(spot, entry)]⟩

def prune (tree : Tree) (spot : Spot) : Tree :=
  ⟨tree.entries.filter fun pair => !spot.isPrefixOf pair.1⟩

def isDirectory (tree : Tree) (spot : Spot) : Bool :=
  tree.at? spot = some .directory

def longestName : Nat := 255
def longestPath : Nat := 4095
def mostLinks : Nat := 40

/-- Where a walk starts and the names it follows; a path that ends in a slash
goes on to the directory itself. -/
def route (home : Spot) (path : Path) : Spot × List Name :=
  (if path.isAbsolute then [] else home,
    if path.endsInSlash then path.parts ++ [dot] else path.parts)

def walk (tree : Tree) (links : Nat) (here : Spot) (names : List Name) : Except OsFault Spot :=
  match names with
  | [] => .ok here
  | name :: rest =>
    if !tree.isDirectory here then .error .notDirectory
    else if name = dot then walk tree links here rest
    else if name = dotDot then walk tree links here.dropLast rest
    else if name.length > longestName then .error .nameTooLong
    else match tree.at? (here ++ [name]) with
      | none => .error .notFound
      | some (.link target) =>
        match links with
        | 0 => .error .tooManyLinks
        | links + 1 =>
          let (start, first) := route here target
          walk tree links start (first ++ rest)
      | some _ => walk tree links (here ++ [name]) rest
termination_by (links, names.length)

def admitted (path : Path) : Except OsFault Unit :=
  if path.bytes.contains 0 then .error .nulByte
  else if path.isEmpty then .error .notFound
  else if path.bytes.length > longestPath then .error .nameTooLong
  else .ok ()

def resolve (tree : Tree) (home : Spot) (path : Path) : Except OsFault Spot := do
  admitted path
  let (start, names) := route home path
  tree.walk mostLinks start names

inductive Target where
  | name (directory : Spot) (name : Name) (slash : Bool)
  /-- The path ends at the root, in a dot or in two: nothing can be made there. -/
  | fixed
  deriving DecidableEq, Repr

def target (tree : Tree) (home : Spot) (path : Path) : Except OsFault Target := do
  admitted path
  let start := if path.isAbsolute then [] else home
  match path.parts.getLast? with
  | none => .ok .fixed
  | some last =>
    let directory ← tree.walk mostLinks start path.parts.dropLast
    if !tree.isDirectory directory then .error .notDirectory
    else if last = dot ∨ last = dotDot then .ok .fixed
    else .ok (.name directory last path.endsInSlash)

def lookup (tree : Tree) (directory : Spot) (name : Name) : Except OsFault (Option Entry) :=
  if name.length > longestName then .error .nameTooLong
  else .ok (tree.at? (directory ++ [name]))

def makeDirectory (tree : Tree) (home : Spot) (path : Path) : Except OsFault Tree := do
  match ← tree.target home path with
  | .fixed => .error .alreadyExists
  | .name directory name _ =>
    match ← tree.lookup directory name with
    | some _ => .error .alreadyExists
    | none => .ok (tree.put (directory ++ [name]) .directory)

def makeFile (tree : Tree) (home : Spot) (path : Path) (mode : Nat) :
    Except OsFault (Tree × Spot) := do
  match ← tree.target home path with
  | .fixed => .error .alreadyExists
  | .name directory name slash =>
    match ← tree.lookup directory name with
    | some _ => .error .alreadyExists
    | none =>
      if slash then .error .isDirectory
      else .ok (tree.put (directory ++ [name]) (.file mode []), directory ++ [name])

def moveFile (tree : Tree) (home : Spot) (spot : Spot) (path : Path) : Except OsFault Tree := do
  match ← tree.target home path with
  | .fixed => .error .busy
  | .name directory name slash =>
    match ← tree.lookup directory name with
    | found =>
      if slash then .error .notDirectory
      else if found = some .directory then .error .isDirectory
      else match tree.at? spot with
        | none => .error .notFound
        | some entry => .ok ((tree.erase spot).put (directory ++ [name]) entry)

def exists? (tree : Tree) (home : Spot) (path : Path) : Bool :=
  match tree.resolve home path with
  | .error _ => false
  | .ok spot => (tree.at? spot).isSome

def leadsToDirectory (tree : Tree) (home : Spot) (path : Path) : Bool :=
  match tree.resolve home path with
  | .error _ => false
  | .ok spot => tree.isDirectory spot

def contents (tree : Tree) (home : Spot) (path : Path) : Except OsFault (List UInt8) := do
  match tree.at? (← tree.resolve home path) with
  | some (.file _ contents) => .ok contents
  | some .directory => .error .isDirectory
  | some (.socket _) => .error .noDevice
  | some (.link _) | none => .error .notFound

def longestSocketPath : Nat := 107

def accepts (tree : Tree) (home : Spot) (path : Path) : Bool :=
  path.bytes.length ≤ longestSocketPath &&
    match tree.resolve home path with
    | .error _ => false
    | .ok spot => tree.at? spot = some (.socket true)

end Tree

end RuntimeHandover.Files
