import RuntimeHandover.Settings.Basic
import RuntimeHandover.Text.Blank

/-! The flags of the program. A flag is written `--key=value` or `--key`, which means
`true`; with a value the dashes may be left out. Of two flags of one key the later
counts, and other arguments say nothing. -/
namespace RuntimeHandover.CommandLine
open Settings Text

abbrev Flag := String × String

def withoutDashes (key : List Char) : String := String.ofList (key.dropWhile (· = '-'))

def flag? (argument : String) : Option Flag :=
  let text := argument.toList
  match text.dropWhile (· ≠ '=') with
  | _ :: value => some (withoutDashes (text.takeWhile (· ≠ '=')), String.ofList value)
  | [] => if ['-', '-'].isPrefixOf text then some (withoutDashes text, "true") else none

structure Flags where
  given : List Flag
  deriving DecidableEq, Repr

namespace Flags

def ofArguments (arguments : List String) : Flags := ⟨arguments.filterMap flag?⟩

def get? (flags : Flags) (key : String) : Option String :=
  flags.given.reverse.lookup key

def has (flags : Flags) (key : String) : Bool := (flags.get? key).isSome

def splitWords (text : String) : List String := (words text.toList).map String.ofList

def place (flags : Flags) (settings : Settings) : Settings where
  logLevel := settings.logLevel
  jsonLogs := settings.jsonLogs || flags.has "json-logs"
  logFile := (flags.get? "log-file").or settings.logFile
  kubelet := {
    configzBaseUrl := (flags.get? "configz-url").getD settings.kubelet.configzBaseUrl
    statsBaseUrl := (flags.get? "stats-url").getD settings.kubelet.statsBaseUrl
    insecureSkipVerify := settings.kubelet.insecureSkipVerify && !flags.has "secure"
    timeoutSecs := settings.kubelet.timeoutSecs }
  proxy := {
    path := (flags.get? "proxy-path").getD settings.proxy.path
    args := ((flags.get? "proxy-args").map splitWords).getD settings.proxy.args
    socketPath := (flags.get? "proxy-socket").getD settings.proxy.socketPath
    socketTimeoutMs := settings.proxy.socketTimeoutMs
    socketPollIntervalMs := settings.proxy.socketPollIntervalMs }
  savedConfigPath := (flags.get? "saved-config").getD settings.savedConfigPath
  verifyProxyLiveness := settings.verifyProxyLiveness || flags.has "verify-liveness"

/-- Flags override settings; only a level that is none is refused. -/
def override (flags : Flags) (settings : Settings) : Except String Settings := do
  let settings := flags.place settings
  match flags.get? "log-level" with
  | none => .ok settings
  | some name =>
    let logLevel ← (LogLevel.parse name).mapError ("parsing --log-level: " ++ ·)
    .ok {settings with logLevel}

end Flags

end RuntimeHandover.CommandLine
