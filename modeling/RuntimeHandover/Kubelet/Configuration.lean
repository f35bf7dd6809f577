import RuntimeHandover.Files.Disk
import RuntimeHandover.Json.Mark
import RuntimeHandover.Json.Typed
import RuntimeHandover.Kubelet.LiveConfig

/-! A saved kubelet configuration: the settings that choose the runtime, and the
rest as it was. -/
namespace RuntimeHandover.Kubelet
open Files Json Text

structure Configuration where
  containerRuntime : Option String := none
  enableCri : Option Bool := none
  remoteRuntimeEndpoint : Option String := none
  remoteImageEndpoint : Option String := none
  dockerEndpoint : Option String := none
  other : List (String × Value) := []
  deriving DecidableEq, Repr

namespace Configuration

def usesRemoteRuntime (config : Configuration) : Bool :=
  config.containerRuntime = some "remote"

def toValue (config : Configuration) : Value :=
  let text (key : String) (value : Option String) : List (String × Value) :=
    value.toList.map fun text => (key, .string text)
  .object (text "containerRuntime" config.containerRuntime ++
    config.enableCri.toList.map (fun b => ("enableCRI", .bool b)) ++
    text "remoteRuntimeEndpoint" config.remoteRuntimeEndpoint ++
    text "remoteImageEndpoint" config.remoteImageEndpoint ++
    text engineEndpointKey config.dockerEndpoint ++ config.other)

def fields : List (FieldReader Configuration) :=
  let text := readOption (readText "a string")
  [.of "containerRuntime" text fun v config => {config with containerRuntime := v},
    .of "enableCRI" (readOption readBool) fun v config => {config with enableCri := v},
    .of "remoteRuntimeEndpoint" text fun v config => {config with remoteRuntimeEndpoint := v},
    .of "remoteImageEndpoint" text fun v config => {config with remoteImageEndpoint := v},
    .of engineEndpointKey text fun v config => {config with dockerEndpoint := v}]

/-- The members of a configuration: those that are settings are read, the others
are kept as they stand, in order. -/
def readMembers (depth : Nat) :
    Nat → Bool → List String → Configuration → List Symbol → Except Stop (Taken Configuration)
  | 0, _, _, _, input => .error (.next .endInObject input)
  | fuel + 1, first, seen, config, input => do
    match ← nextKey first input with
    | (none, left) => .ok (config, left)
    | (some key, left) =>
      match fields.find? (·.name == key) with
      | none =>
        let left ← readColon left
        let (value, left) ← readValue false (steps left) depth left
        readMembers depth fuel false seen {config with other := config.other ++ [(key, value)]} left
      | some field =>
        if seen.contains key then .error ⟨.repeatedField key, .pending left⟩
        else
          let (set, left) ← field.read depth (← readColon left)
          readMembers depth fuel false (key :: seen) (set config) left

def read : Reader Configuration := fun depth input =>
  match skipSpace input with
  | [] => .error (.next .endInValue [])
  | .char '\x7b' :: rest =>
    if depth ≤ 1 then .error (.next .tooDeep (.char '\x7b' :: rest))
    else closed endMembers do
      let (config, left) ← readMembers (depth - 1) (steps rest) true [] {} rest
      match settleMembers config.other with
      | .error fault => .error (fault.stop left)
      | .ok other => .ok ({config with other := Members.ofList other}, left)
  | rest => .error (mismatch "struct KubeletConfiguration" rest)

def parse (text : String) : Except Fault Configuration :=
  document read (symbolsOf text)

end Configuration

def configurationIn (path : Path) (file : Except FileFault String) :
    Except Failure Configuration := do
  let text ← file.mapError fun fault =>
    let cause : Failure := ⟨.io, fault.message⟩
    ⟨.persistence, s!"failed to read kubelet config from {path.quoted}: {cause.message}"⟩
  (Configuration.parse text).mapError fun fault =>
    ⟨.decode, s!"failed to load kubelet config from {path.quoted}: {fault.message}"⟩

def loadConfiguration (disk : Disk) (path : Path) : Except Failure Configuration :=
  configurationIn path (disk.text path)

end RuntimeHandover.Kubelet
