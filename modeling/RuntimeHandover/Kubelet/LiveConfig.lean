import RuntimeHandover.Failure
import RuntimeHandover.Json.Parser
import RuntimeHandover.Json.Printer

/-! The configuration a kubelet runs with: members in the order it gave them, no
key twice, numbers as it wrote them. -/
namespace RuntimeHandover.Kubelet
open Json Text

structure LiveConfig where
  members : List (String × Value)
  distinct : (Members.keys members).Nodup

namespace LiveConfig

def ofMembers (pairs : List (String × Value)) : LiveConfig :=
  ⟨Members.ofList pairs, Members.nodup_ofList pairs⟩

def toValue (config : LiveConfig) : Value := .object config.members

def keys (config : LiveConfig) : List String := Members.keys config.members

def get? (config : LiveConfig) (key : String) : Option Value :=
  Members.get? key config.members

def insert (config : LiveConfig) (key : String) (value : Value) : LiveConfig :=
  ⟨Members.insert key value config.members, Members.nodup_insert key value config.distinct⟩

def compact (config : LiveConfig) : String := config.toValue.compact

def pretty (config : LiveConfig) : String := config.toValue.pretty

def parse (text : String) : Except Fault LiveConfig :=
  (document objectMembers (symbolsOf text)).map ofMembers

end LiveConfig

def engineEndpointKey : String := "dockerEndpoint"

def engineEndpoint (config : LiveConfig) : Except Failure String :=
  match config.get? engineEndpointKey with
  | some (.string endpoint) => .ok endpoint
  | _ => .error ⟨.missingField,
      s!"failed to retrieve {engineEndpointKey} from kubelet config"⟩

end RuntimeHandover.Kubelet
