import RuntimeHandover.Files.Disk
import RuntimeHandover.Json.Typed
import RuntimeHandover.Settings.Basic

/-! Reading settings from JSON. A field that an object leaves out has its own default; where the
object itself is left out, the defaults of the structure count. -/
namespace RuntimeHandover.Settings
open Files Json Text

def text : Reader String := readText "a string"
def pathText : Reader String := readText "path string"

def level : Reader LogLevel := fun depth input => do
  let (name, left) ← text depth input
  match LogLevel.parse name with
  | .ok level => .ok (level, left)
  | .error words => .error (Stop.stated words left)

def kubeletLeftOut : KubeletSettings where
  configzBaseUrl := defaultConfigzUrl
  statsBaseUrl := defaultStatsUrl
  insecureSkipVerify := true
  timeoutSecs := defaultHttpTimeout

def proxyLeftOut : ProxySettings where
  path := defaultProxyPath
  args := default
  socketPath := defaultSocketPath
  socketTimeoutMs := defaultSocketTimeout
  socketPollIntervalMs := defaultSocketPollInterval

def leftOut : Settings where
  logLevel := default
  jsonLogs := default
  logFile := default
  kubelet := {}
  proxy := {}
  savedConfigPath := defaultSavedConfigPath
  verifyProxyLiveness := default

def kubeletFields : List (FieldReader KubeletSettings) := [
  .of "configz_base_url" text fun v kubelet => {kubelet with configzBaseUrl := v},
  .of "stats_base_url" text fun v kubelet => {kubelet with statsBaseUrl := v},
  .of "insecure_skip_verify" readBool fun v kubelet => {kubelet with insecureSkipVerify := v},
  .of "timeout_secs" readNat64 fun v kubelet => {kubelet with timeoutSecs := v}]

def proxyFields : List (FieldReader ProxySettings) := [
  .of "path" text fun v proxy => {proxy with path := v},
  .of "args" (readList text) fun v proxy => {proxy with args := v},
  .of "socket_path" pathText fun v proxy => {proxy with socketPath := v},
  .of "socket_timeout_ms" readNat64 fun v proxy => {proxy with socketTimeoutMs := v},
  .of "socket_poll_interval_ms" readNat64 fun v proxy => {proxy with socketPollIntervalMs := v}]

def fields : List (FieldReader Settings) := [
  .of "log_level" level fun v settings => {settings with logLevel := v},
  .of "json_logs" readBool fun v settings => {settings with jsonLogs := v},
  .of "log_file" (readOption pathText) fun v settings => {settings with logFile := v},
  .of "kubelet" (readStructure "KubeletSettings" kubeletFields kubeletLeftOut) fun v settings =>
    {settings with kubelet := v},
  .of "proxy" (readStructure "ProxySettings" proxyFields proxyLeftOut) fun v settings =>
    {settings with proxy := v},
  .of "saved_config_path" pathText fun v settings => {settings with savedConfigPath := v},
  .of "verify_proxy_liveness" readBool fun v settings => {settings with verifyProxyLiveness := v}]

def parse (text : String) : Except Fault Settings :=
  document (readStructure "Settings" fields leftOut) (symbolsOf text)

def ofFile (file : Except FileFault String) : Except Failure Settings := do
  let text ← file.mapError fun fault => ⟨.io, fault.message⟩
  (parse text).mapError fun fault => ⟨.json, fault.message⟩

def load (disk : Disk) (path : Path) : Except Failure Settings := ofFile (disk.text path)

end RuntimeHandover.Settings
