import RuntimeHandover.Bootstrap.Run
import RuntimeHandover.Cluster.Api
import RuntimeHandover.Container.Roster
import RuntimeHandover.Kubelet.Backup
import RuntimeHandover.Kubelet.Introspection
import RuntimeHandover.Rehearsal.Docker
import RuntimeHandover.Rehearsal.Network

/-! A handover rehearsed without a node: disk, clock, network and engine are values,
and a run takes one world to the next. -/
namespace RuntimeHandover.Rehearsal
open Bootstrap Cluster Container Files Http Kubelet Socket

structure World where
  disk : Disk
  clock : Nat := 0
  later : List (Nat × SetupStep) := []
  network : Network := {}
  docker : Docker
  roster : Roster
  listens : Option Path := none
  records : List Record := []
  recorderFault : Option Failure := none

namespace World

def onPart {τ α : Type} (part : World → τ) (put : World → τ → World) (action : StateM τ α) :
    StateM World α := fun world =>
  let (a, after) := action (part world)
  (a, put world after)

def onNetwork {α : Type} (action : StateM Network α) : StateM World α :=
  onPart (·.network) (fun world network => {world with network}) action

def onRoster {α : Type} (action : Act Roster α) : Act World α :=
  ExceptT.mk (onPart (·.roster) (fun world roster => {world with roster}) action.run)

def onDisk {α : Type} (action : Act Disk α) : Act World α :=
  ExceptT.mk (onPart (·.disk) (fun world disk => {world with disk}) action.run)

def wire (trust : Trust) : Wire World := fun request => onNetwork (Network.wire trust request)

def dockerProgram (name : String) : Program World where
  name := name
  run args := fun world =>
    let (result, docker, disk) := Docker.spawn name args world.docker world.disk
    (result, {world with docker, disk})

def startListening : Act World Unit := do
  let world ← get
  match world.listens with
  | none => pure ()
  | some path =>
    let disk := (SetupStep.remove path).apply world.disk
    let (result, disk) := (SetupStep.listen path).apply disk.2
    set {world with disk}
    Act.ofExcept (result.mapError fun fault => ⟨.io, fault.message⟩)

def rosterEngine : Engine World where
  list label := onRoster (Roster.engine.list label)
  remove id := onRoster (Roster.engine.remove id)
  pull image := onRoster (Roster.engine.pull image)
  create spec := onRoster (Roster.engine.create spec)
  start id := do
    onRoster (Roster.engine.start id)
    startListening

def rosterConnect : Connector World := fun endpoint => do
  let _ ← onRoster (Roster.connect endpoint)
  pure rosterEngine

def keepRecord (record : Record) : Act World Unit := do
  let world ← get
  match world.recorderFault with
  | some failure => throw failure
  | none =>
    if world.records.any (·.name == record.name) then
      throw ⟨.publish, s!"{record.name} already exists"⟩
    else set {world with records := world.records ++ [record]}

/-- Times of the system clock are apart from those of the rehearsal. -/
def epoch : Nat := 1700000000000000000

def stamp : StateM World Int := fun world =>
  (Int.ofNat (epoch + world.clock), {world with clock := world.clock + 1})

def finestPause : Nat := Text.milliseconds 1

def pass (pause : Nat) (world : World) : World :=
  let clock := world.clock + max pause finestPause
  let (due, later) := world.later.partition (·.1 ≤ clock)
  {world with clock, later, disk := SetupStep.applyAll world.disk (due.map (·.2))}

def watch (path : Path) : Watch World where
  probe := do return (← get).disk.accepts path
  now := do return (← get).clock
  sleep pause := modify (pass pause)

def trustOf (introspection : Introspection) : Trust :=
  if introspection.insecureSkipVerify then .all else .none

def surroundings (publish : Record → Act World Unit) (connect : Connector World) :
    Surroundings World where
  fetchLive introspection base := fetchLiveConfig (wire (trustOf introspection)) base
  save path config := onDisk (ExceptT.mk (writeBackup noMishap path config))
  fetchNode introspection base := fetchNode (wire (trustOf introspection)) base
  publish := publish
  connect := connect
  stamp := stamp
  watch := watch

def api (access : Access) : Api World where
  root := access.root
  token := some access.token
  wire := wire (.anchors access.anchors)

def clustered (access : Access) : Surroundings World :=
  surroundings (api access).publish (DockerCli.connect (dockerProgram "docker"))

def ensure (environment : String → Option String) (options : Options) (config : Config) :
    Act World Outcome :=
  Bootstrap.ensure
    (do Act.ofExcept (access environment (← get).disk)) clustered options config

end World

end RuntimeHandover.Rehearsal
