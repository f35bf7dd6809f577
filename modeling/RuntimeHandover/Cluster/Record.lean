import RuntimeHandover.Kubelet.LiveConfig
import RuntimeHandover.Kubelet.Node

/-! The record of a node's configuration in the cluster: one ConfigMap a node, with
the configuration as text under one key. -/
namespace RuntimeHandover.Cluster
open Json Kubelet

def recordNamespace : String := "kube-system"
def dataKey : String := "kubelet.config"

/-- `data` in the order of its keys. -/
structure Record where
  name : String
  space : String
  data : List (String × String)
  deriving DecidableEq, Repr

def recordName (node : NodeIdentity) : String := s!"kubelet-{node.name}"

namespace Record

def forNode (node : NodeIdentity) (config : LiveConfig) : Record :=
  ⟨recordName node, recordNamespace, [(dataKey, config.compact)]⟩

def payload? (record : Record) : Option String :=
  (record.data.find? (·.1 == dataKey)).map (·.2)

def toConfigMap (record : Record) : Value :=
  .object [
    ("apiVersion", .string "v1"),
    ("kind", .string "ConfigMap"),
    ("data", .object (record.data.map fun entry => (entry.1, .string entry.2))),
    ("metadata", .object [("name", .string record.name), ("namespace", .string record.space)])]

end Record

end RuntimeHandover.Cluster
