import RuntimeHandover.Bootstrap.Run
import RuntimeHandover.CommandLine.Flags
import RuntimeHandover.CommandLine.LogFilter
import RuntimeHandover.Kubelet.Configuration
import RuntimeHandover.Settings.LogFile
import RuntimeHandover.Settings.Reader

/-! The program: what it does for its flags, and what it says. -/
namespace RuntimeHandover.CommandLine
open Bootstrap Files Json Kubelet Settings

structure Build where
  revision : String := "unknown"
  time : String := "unknown"

structure Host (σ : Type) where
  build : Build
  environment : String → Option String
  text : Path → StateM σ (Except FileFault String)
  openLog : LogFile → StateM σ (Except LogFault Unit)
  panicked : String → String
  ensure : Options → Config → Act σ Outcome

structure Report where
  exit : Nat
  stdout : String
  stderr : String
  logged : Option String
  deriving DecidableEq, Repr

def version : String := "0.1.0"

def versionText (build : Build) : String :=
  (Value.object [("version", .string version), ("git_hash", .string build.revision),
    ("build_time", .string build.time)]).pretty

def printed (lines : List String) : String := String.join (lines.map (· ++ "\n"))

def complaint (words : String) : String := printed ["[ERROR] " ++ words]

def panicText (thread : Nat) (place message : String) : String :=
  s!"\nthread 'main' ({thread}) panicked at {place}:\n{message}\n" ++
    "note: run with `RUST_BACKTRACE=1` environment variable to display a backtrace\n"

def savedLines (path : String) (config : Configuration) : List String :=
  let orUnset (text : Option String) : String := text.getD "<unset>"
  ["Saved kubelet config: " ++ path,
    "  remote runtime: " ++ toString config.usesRemoteRuntime,
    "  containerRuntime: " ++ orUnset config.containerRuntime,
    "  dockerEndpoint: " ++ orUnset config.dockerEndpoint,
    "  remoteRuntimeEndpoint: " ++ orUnset config.remoteRuntimeEndpoint,
    "  other settings: " ++ toString config.other.length]

def successLines : Outcome → List String
  | .alreadyConfigured => ["[OK] kubelet already uses the CRI proxy"]
  | .bootstrapped container =>
    ["[SUCCESS] kubelet patched, CRI proxy running in container " ++ container,
      "Restart the kubelet to pick up the new runtime endpoint"]
  | .reinstalled container => ["[SUCCESS] CRI proxy reinstalled in container " ++ container]

variable {σ : Type}

def showSaved (host : Host σ) (path : String) : StateM σ Report := do
  let place := Path.ofString path
  match configurationIn place (← host.text place) with
  | .ok config => pure ⟨0, printed (savedLines path config), "", none⟩
  | .error failure =>
    let words := s!"loading saved kubelet config {path}: {failure.message}"
    pure ⟨1, "", complaint words, none⟩

def loadSettings (host : Host σ) (flags : Flags) : StateM σ (Except String Settings) := do
  match flags.get? "settings" with
  | none => pure (flags.override {})
  | some path =>
    match Settings.ofFile (← host.text (Path.ofString path)) with
    | .ok settings => pure (flags.override settings)
    | .error failure =>
      let words := s!"reading settings file {path}: {failure.message}: {failure.detail}"
      pure (.error words)

inductive LogStart where
  | started
  | refused (failure : Failure)
  /-- The log file could not be opened, which ends the program. -/
  | broken (fault : LogFault)

def startLog (host : Host σ) (settings : Settings) : StateM σ LogStart := do
  match settings.logFile with
  | none => pure .started
  | some path =>
    match LogFile.ofPath (.ofString path) with
    | .error failure => pure (.refused failure)
    | .ok file =>
      match ← host.openLog file with
      | .ok () => pure .started
      | .error fault => pure (.broken fault)

/-- Runs the handover; `before` was written already. -/
def handOver (host : Host σ) (settings : Settings) (before : String) (logged : Option String) :
    StateM σ Report := do
  match ← (host.ensure settings.bootstrapOptions settings.bootstrapConfig).run with
  | .ok outcome => pure ⟨0, before ++ printed (successLines outcome), "", logged⟩
  | .error failure =>
    let words := s!"CRI proxy bootstrap failed: {failure.message}"
    pure ⟨1, before, complaint words, logged⟩

def bootstrap (host : Host σ) (settings : Settings) : StateM σ Report := do
  match ← startLog host settings with
  | .broken fault => pure ⟨101, "", host.panicked fault.message, none⟩
  | .refused failure =>
    let words := s!"Failed to initialize logging: {failure.message}"
    handOver host settings (printed [words]) none
  | .started =>
    let shown := logs host.environment settings.logLevel .info
    handOver host settings "" (if shown then some settings.bootstrapConfig.shown else none)

/-- Runs the program. The version goes before all else, a saved configuration
before the handover. -/
def program (host : Host σ) (arguments : List String) : StateM σ Report := do
  let flags := Flags.ofArguments arguments
  if flags.has "version" then pure ⟨0, printed [versionText host.build], "", none⟩
  else match flags.get? "show-saved" with
    | some path => showSaved host path
    | none =>
      match ← loadSettings host flags with
      | .ok settings => bootstrap host settings
      | .error words => pure ⟨1, "", complaint words, none⟩

end RuntimeHandover.CommandLine
