import RuntimeHandover.Http.Get
import RuntimeHandover.Kubelet.Address
import RuntimeHandover.Kubelet.LiveConfig
import RuntimeHandover.Kubelet.Node

/-! What a kubelet tells about itself: its live configuration and its node's name. -/
namespace RuntimeHandover.Kubelet
open Http Json Text

def configPath : String := "/configz"
def statsPath : String := "/stats/summary"

def answeredObject (url : String) (answer : Answer) : Except Failure (List (String × Value)) :=
  if !isSuccess answer.status then
    let said := lossyText (answer.body.getD [])
    .error ⟨.transport, s!"GET {quoted url}: {statusText answer.status}: {said}"⟩
  else match answer.body with
    | none =>
      .error ⟨.transport, s!"reading body of {quoted url}: error decoding response body"⟩
    | some body =>
      match parseValue (Utf8.symbols body) with
      | .ok (.object members) => .ok members
      | .ok other =>
        .error ⟨.decode, s!"expected a JSON object from {quoted url}, got {other.kind}"⟩
      | .error fault =>
        .error ⟨.decode, s!"failed to unmarshal json from {quoted url}: {fault.message}"⟩

variable {σ : Type}

def fetchObject (wire : Wire σ) (base suffix : String) : Act σ (List (String × Value)) := do
  let url ← Act.ofExcept (address base suffix)
  match ← (get wire url : StateM σ _) with
  | .error fault =>
    throw ⟨.transport, s!"trying to get {quoted url.text}: {fault.message}"⟩
  | .ok answer => Act.ofExcept (answeredObject url.text answer)

def liveConfigIn (members : List (String × Value)) : Except Failure LiveConfig :=
  match Members.get? "componentconfig" members with
  | some (.object config) => .ok (LiveConfig.ofMembers config)
  | _ => .error ⟨.missingField, s!"couldn't get componentconfig from {configPath}"⟩

def nodeIn (members : List (String × Value)) : Except Failure NodeIdentity :=
  match Members.get? "node" members with
  | some (.object node) =>
    match Members.get? "nodeName" node with
    | some (.string name) => if name ≠ "" then NodeIdentity.ofName name else unnamed
    | _ => unnamed
  | _ => .error ⟨.missingField, s!"couldn't get node properties from {statsPath}"⟩
where
  unnamed : Except Failure NodeIdentity :=
    .error ⟨.missingField, s!"couldn't get node name via {statsPath}"⟩

def fetchLiveConfig (wire : Wire σ) (base : String) : Act σ LiveConfig := do
  Act.ofExcept (liveConfigIn (← fetchObject wire base configPath))

def fetchNode (wire : Wire σ) (base : String) : Act σ NodeIdentity := do
  Act.ofExcept (nodeIn (← fetchObject wire base statsPath))

end RuntimeHandover.Kubelet
