import RuntimeHandover.Kubelet.LiveConfig

/-! The settings that lead a kubelet to its container runtime through the CRI proxy. -/
namespace RuntimeHandover.Kubelet
open Json

def proxyEndpoint : String := "/run/criproxy.sock"

namespace Overrides

def table : List (String × Value) := [
  ("containerRuntime", .string "remote"),
  ("enableCRI", .bool true),
  ("remoteRuntimeEndpoint", .string proxyEndpoint),
  ("remoteImageEndpoint", .string proxyEndpoint)]

def get? (key : String) : Option Value := Members.get? key table

end Overrides

namespace LiveConfig

def isPatched (config : LiveConfig) : Bool :=
  Overrides.table.all fun entry => config.get? entry.1 = some entry.2

def withOverrides (config : LiveConfig) : LiveConfig :=
  Overrides.table.foldl (fun config entry => config.insert entry.1 entry.2) config

end LiveConfig

end RuntimeHandover.Kubelet
