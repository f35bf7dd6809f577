import RuntimeHandover.Failure
import RuntimeHandover.Files.Path
import RuntimeHandover.Text.Duration

/-! What one run of the handover is given. -/
namespace RuntimeHandover.Bootstrap
open Files Text

structure Config where
  configzBaseUrl : String
  statsBaseUrl : String
  savedConfigPath : Path
  proxyPath : String
  proxyArgs : List String
  proxySocketPath : Path
  deriving DecidableEq, Repr

namespace Config

def missing (config : Config) : List String :=
  (if config.configzBaseUrl = "" then ["configz base URL"] else []) ++
  (if config.statsBaseUrl = "" then ["stats base URL"] else []) ++
  (if config.proxyPath = "" then ["proxy path"] else []) ++
  (if config.proxySocketPath.isEmpty then ["proxy socket path"] else [])

def validate (config : Config) : Except Failure Unit :=
  if config.missing = [] then .ok ()
  else .error ⟨.validation,
    "invalid bootstrap config, missing: " ++ ", ".intercalate config.missing⟩

def shown (config : Config) : String :=
  "BootstrapConfig \x7b configz_base_url: " ++ quoted config.configzBaseUrl ++
  ", stats_base_url: " ++ quoted config.statsBaseUrl ++
  ", saved_config_path: " ++ config.savedConfigPath.quoted ++
  ", proxy_path: " ++ quoted config.proxyPath ++
  ", proxy_args: " ++ quotedList config.proxyArgs ++
  ", proxy_socket_path: " ++ config.proxySocketPath.quoted ++ " \x7d"

end Config

/-- How the kubelet is asked; times are in nanoseconds. -/
structure Introspection where
  insecureSkipVerify : Bool := true
  timeout : Nat := seconds 30
  deriving DecidableEq, Repr

/-- How long and how often the proxy's socket is tried, in nanoseconds. -/
structure Readiness where
  timeout : Nat := seconds 5
  pollInterval : Nat := milliseconds 50
  deriving DecidableEq, Repr

structure Options where
  introspection : Introspection := {}
  readiness : Readiness := {}
  verifyProxyLiveness : Bool := false
  deriving DecidableEq, Repr

end RuntimeHandover.Bootstrap
