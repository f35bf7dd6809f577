import RuntimeHandover.Bootstrap.Config
import RuntimeHandover.Json.Printer
import RuntimeHandover.Kubelet.Overrides
import RuntimeHandover.Settings.LogLevel

/-! The settings of the program. -/
namespace RuntimeHandover
open Files Json Text

namespace Settings

def defaultConfigzUrl : String := "https://127.0.0.1:10250"
def defaultStatsUrl : String := "http://127.0.0.1:10255"
def defaultHttpTimeout : Nat := 30
def defaultProxyPath : String := "/usr/local/bin/criproxy"
def defaultSocketPath : String := Kubelet.proxyEndpoint
def defaultSocketTimeout : Nat := 5000
def defaultSocketPollInterval : Nat := 50
def defaultSavedConfigPath : String := "/etc/criproxy/kubelet.conf"

structure KubeletSettings where
  configzBaseUrl : String := defaultConfigzUrl
  statsBaseUrl : String := defaultStatsUrl
  insecureSkipVerify : Bool := true
  timeoutSecs : Nat := defaultHttpTimeout
  deriving DecidableEq, Repr

structure ProxySettings where
  path : String := defaultProxyPath
  args : List String := []
  socketPath : String := defaultSocketPath
  socketTimeoutMs : Nat := defaultSocketTimeout
  socketPollIntervalMs : Nat := defaultSocketPollInterval
  deriving DecidableEq, Repr

end Settings

open Settings in
structure Settings where
  logLevel : Settings.LogLevel := .info
  jsonLogs : Bool := false
  logFile : Option String := none
  kubelet : Settings.KubeletSettings := {}
  proxy : Settings.ProxySettings := {}
  savedConfigPath : String := defaultSavedConfigPath
  verifyProxyLiveness : Bool := false
  deriving DecidableEq, Repr

namespace Settings

def toValue (settings : Settings) : Value :=
  let nat (n : Nat) : Value := .number (toString n)
  .object [
    ("log_level", .string settings.logLevel.name),
    ("json_logs", .bool settings.jsonLogs),
    ("log_file", match settings.logFile with
      | some path => .string path
      | none => .null),
    ("kubelet", .object [
      ("configz_base_url", .string settings.kubelet.configzBaseUrl),
      ("stats_base_url", .string settings.kubelet.statsBaseUrl),
      ("insecure_skip_verify", .bool settings.kubelet.insecureSkipVerify),
      ("timeout_secs", nat settings.kubelet.timeoutSecs)]),
    ("proxy", .object [
      ("path", .string settings.proxy.path),
      ("args", .array (settings.proxy.args.map .string)),
      ("socket_path", .string settings.proxy.socketPath),
      ("socket_timeout_ms", nat settings.proxy.socketTimeoutMs),
      ("socket_poll_interval_ms", nat settings.proxy.socketPollIntervalMs)]),
    ("saved_config_path", .string settings.savedConfigPath),
    ("verify_proxy_liveness", .bool settings.verifyProxyLiveness)]

def bootstrapConfig (settings : Settings) : Bootstrap.Config where
  configzBaseUrl := settings.kubelet.configzBaseUrl
  statsBaseUrl := settings.kubelet.statsBaseUrl
  savedConfigPath := .ofString settings.savedConfigPath
  proxyPath := settings.proxy.path
  proxyArgs := settings.proxy.args
  proxySocketPath := .ofString settings.proxy.socketPath

def bootstrapOptions (settings : Settings) : Bootstrap.Options where
  introspection := {
    insecureSkipVerify := settings.kubelet.insecureSkipVerify
    timeout := seconds settings.kubelet.timeoutSecs }
  readiness := {
    timeout := milliseconds settings.proxy.socketTimeoutMs
    pollInterval := milliseconds settings.proxy.socketPollIntervalMs }
  verifyProxyLiveness := settings.verifyProxyLiveness

end Settings

end RuntimeHandover
