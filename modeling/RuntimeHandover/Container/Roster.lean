import RuntimeHandover.Container.Engine

/-! An engine that does what it is asked to, kept as the list of its containers. A
refused call changes nothing. -/
namespace RuntimeHandover.Container

structure Roster.Member where
  id : String
  labels : List (String × String)
  running : Bool
  spec : Option Spec
  deriving DecidableEq, Repr

def Roster.Member.hasLabel (label : String) (member : Member) : Bool :=
  member.labels.any (·.1 == label)

inductive EngineCall where
  | connect (endpoint : String)
  | list (label : String)
  | remove (id : String)
  | pull (image : String)
  | create (spec : Spec)
  | start (id : String)
  deriving DecidableEq, Repr

structure Roster where
  containers : List Roster.Member
  ids : Nat → String
  made : Nat
  calls : List EngineCall
  /-- Which calls are refused, by how many came before. -/
  refuse : Nat → EngineCall → Option Failure

namespace Roster

def call {α : Type} (call : EngineCall) (work : Roster → α × Roster) : Act Roster α :=
  ExceptT.mk fun roster =>
    let noted := {roster with calls := roster.calls ++ [call]}
    match roster.refuse roster.calls.length call with
    | some failure => (.error failure, noted)
    | none =>
      let (a, after) := work noted
      (.ok a, after)

def listed (label : String) (roster : Roster) : List String :=
  (roster.containers.filter (·.hasLabel label)).map (·.id)

def without (id : String) (roster : Roster) : Roster :=
  {roster with containers := roster.containers.filter (·.id ≠ id)}

def adding (spec : Spec) (roster : Roster) : String × Roster :=
  let id := roster.ids roster.made
  (id, {roster with
    containers := roster.containers ++ [⟨id, spec.labels, false, some spec⟩]
    made := roster.made + 1})

def running (id : String) (roster : Roster) : Roster :=
  {roster with containers := roster.containers.map fun container =>
    if container.id = id then {container with running := true} else container}

def engine : Engine Roster where
  list label := call (.list label) fun roster => (roster.listed label, roster)
  remove id := call (.remove id) fun roster => ((), roster.without id)
  pull image := call (.pull image) fun roster => ((), roster)
  create spec := call (.create spec) (adding spec)
  start id := call (.start id) fun roster => ((), roster.running id)

def connect : Connector Roster := fun endpoint =>
  call (.connect endpoint) fun roster => (engine, roster)

end Roster

end RuntimeHandover.Container
