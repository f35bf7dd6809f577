import RuntimeHandover.CommandLine.Program
import RuntimeHandover.Proofs.Bootstrap.Course
import RuntimeHandover.Rehearsal.Host

/-! What the program gets through before it asks anything of the world outside, and how it
exits. The effects of the program are noted as those of a run are. -/
namespace RuntimeHandover.CommandLine
open Bootstrap Cluster Files Kubelet Settings

structure Machine (σ : Type) where
  build : Build
  environment : String → Option String
  disk : σ → Disk
  openLog : LogFile → StateM σ (Except LogFault Unit)
  panicked : String → String
  reach : Access → Surroundings σ

variable {σ α : Type}

namespace Machine

variable (machine : Machine σ)

def find : Act σ Access := do
  Act.ofExcept (access machine.environment (machine.disk (← get)))

def host : Host σ where
  build := machine.build
  environment := machine.environment
  text path := do return (machine.disk (← get)).text path
  openLog := machine.openLog
  panicked := machine.panicked
  ensure := ensure machine.find machine.reach

def noted : Machine (Noted σ) where
  build := machine.build
  environment := machine.environment
  disk world := machine.disk world.1
  openLog file := unnoted (machine.openLog file)
  panicked := machine.panicked
  reach access := Bootstrap.noted (machine.reach access)

def effects (arguments : List String) (s : σ) : List Effect :=
  (program machine.noted.host arguments (s, [])).2.2

/-- The program of a rehearsed world runs on such a machine. -/
theorem host_rehearsed (build : Build) (environment : String → Option String)
    (panicked : String → String) :
    (Machine.mk build environment (·.disk) (Rehearsal.World.host build environment).openLog
      panicked Rehearsal.World.clustered).host =
      Rehearsal.World.host build environment panicked := rfl

end Machine

def Sets (arguments : List String) (key : String) : Prop :=
  ∃ argument ∈ arguments, ∃ value, flag? argument = some (key, value)

theorem get?_isSome_iff (arguments : List String) (key : String) :
    ((Flags.ofArguments arguments).get? key).isSome ↔ Sets arguments key := by
  simp only [Flags.get?, Flags.ofArguments, List.lookup_isSome_iff, List.mem_reverse,
    List.mem_filterMap]
  constructor
  · rintro ⟨⟨name, value⟩, ⟨argument, given, read⟩, same⟩
    exact ⟨argument, given, value, by rw [read, eq_of_beq same]⟩
  · rintro ⟨argument, given, value, read⟩
    exact ⟨(key, value), ⟨argument, given, read⟩, beq_self_eq_true key⟩

section ensure

variable (machine : Machine σ) (options : Options) (config : Config) (s : σ)

private theorem ensure_invalid {failure : Failure} (invalid : config.validate = .error failure) :
    (machine.host.ensure options config).run s = (.error failure, s) := by
  refine Act.run_bind_error ?_
  rw [Act.run_ofExcept, invalid]

theorem ensure_valid (valid : config.validate = .ok ()) :
    (machine.host.ensure options config).run s =
      match access machine.environment (machine.disk s) with
      | .error failure => (.error failure, s)
      | .ok found => (run (machine.reach found) options config).run s := by
  have validated : (Act.ofExcept config.validate).run s = (.ok (), s) := by
    rw [Act.run_ofExcept, valid]
  have looked : machine.find.run s = (access machine.environment (machine.disk s), s) := rfl
  change (Act.ofExcept config.validate >>= fun _ => machine.find >>= fun found =>
    run (machine.reach found) options config).run s = _
  rw [Act.run_bind_ok validated]
  cases known : access machine.environment (machine.disk s) with
  | error failure => exact Act.run_bind_error (looked.trans (by rw [known]))
  | ok found => exact Act.run_bind_ok (looked.trans (by rw [known]))

end ensure

def Asks (plain : StateM σ α) (noted : StateM (Noted σ) α) (s : σ)
    (gate : List Effect → Prop) : Prop :=
  ∃ trace, (trace ≠ [] → gate trace) ∧
    ∀ log, noted (s, log) = ((plain s).1, (plain s).2, log ++ trace)

private theorem Asks.silent {plain : StateM σ α} {noted : StateM (Noted σ) α} {s : σ}
    {gate : List Effect → Prop} (same : ∀ log, noted (s, log) = ((plain s).1, (plain s).2, log)) :
    Asks plain noted s gate := by
  refine ⟨[], fun some => absurd rfl some, ?_⟩
  intro log
  rw [same, List.append_nil]

private theorem Asks.imp {plain : StateM σ α} {noted : StateM (Noted σ) α} {s : σ}
    {gate wider : List Effect → Prop} (asks : Asks plain noted s gate)
    (widen : ∀ trace, gate trace → wider trace) : Asks plain noted s wider := by
  obtain ⟨trace, opened, same⟩ := asks
  exact ⟨trace, fun some => widen trace (opened some), same⟩

/-- What is asked after a first part that asks nothing. -/
private theorem Asks.onward {plain next : StateM σ α} {noted nextNoted : StateM (Noted σ) α}
    {s after : σ}
    {gate : List Effect → Prop} (asks : Asks next nextNoted after gate)
    (same : plain s = next after) (sameNoted : ∀ log, noted (s, log) = nextNoted (after, log)) :
    Asks plain noted s gate := by
  obtain ⟨trace, opened, adds⟩ := asks
  refine ⟨trace, opened, ?_⟩
  intro log
  rw [sameNoted, adds, same]

section gates

variable (machine : Machine σ)

def Open (options : Options) (config : Config) (s : σ) (trace : List Effect) : Prop :=
  config.validate = .ok () ∧ ∃ found, access machine.environment (machine.disk s) = .ok found ∧
    trace = Bootstrap.effects (machine.reach found) options config s

private theorem ensure_asks (options : Options) (config : Config) (s : σ) :
    Asks (machine.host.ensure options config).run (machine.noted.host.ensure options config).run s
      (Open machine options config s) := by
  cases valid : config.validate with
  | error failure =>
    refine .silent ?_
    intro log
    rw [ensure_invalid machine options config s valid,
      ensure_invalid machine.noted options config (s, log) valid]
  | ok _ =>
    have plain := ensure_valid machine options config s valid
    have noted (log : List Effect) := ensure_valid machine.noted options config (s, log) valid
    cases known : access machine.environment (machine.disk s) with
    | error failure =>
      refine .silent ?_
      intro log
      rw [plain, noted, Machine.noted, known]
    | ok found =>
      refine ⟨_, fun _ => ⟨valid, found, known, rfl⟩, ?_⟩
      intro log
      rw [plain, noted, Machine.noted, known]
      exact run_noted (machine.reach found) options config s log

def ended (before : String) (logged : Option String) : Except Failure Outcome → Report
  | .ok outcome => ⟨0, before ++ printed (successLines outcome), "", logged⟩
  | .error failure =>
    ⟨1, before, complaint s!"CRI proxy bootstrap failed: {failure.message}", logged⟩

theorem handOver_eq (host : Host σ) (settings : Settings) (before : String)
    (logged : Option String) (s : σ) :
    let done := (host.ensure settings.bootstrapOptions settings.bootstrapConfig).run s
    handOver host settings before logged s = (ended before logged done.1, done.2) := by
  intro done
  rcases ran : done with ⟨failure | outcome, after⟩
  · exact bind_of_ran ran _
  · exact bind_of_ran ran _

theorem bootstrap_eq (host : Host σ) (settings : Settings) (s : σ) :
    bootstrap host settings s = match startLog host settings s with
      | (.broken fault, after) =>
        (⟨101, "", host.panicked fault.message, none⟩, after)
      | (.refused failure, after) =>
        handOver host settings (printed [s!"Failed to initialize logging: {failure.message}"]) none
          after
      | (.started, after) =>
        let shown := logs host.environment settings.logLevel .info
        handOver host settings "" (if shown then some settings.bootstrapConfig.shown else none)
          after := by
  rcases ran : startLog host settings s with ⟨_ | failure | fault, after⟩
  · exact bind_of_ran ran _
  · exact bind_of_ran ran _
  · exact bind_of_ran ran _

theorem startLog_eq (host : Host σ) (settings : Settings) (s : σ) :
    startLog host settings s =
      match settings.logFile.map fun path => LogFile.ofPath (.ofString path) with
      | none => (.started, s)
      | some (.error failure) => (.refused failure, s)
      | some (.ok file) => match host.openLog file s with
        | (.ok (), after) => (.started, after)
        | (.error fault, after) => (.broken fault, after) := by
  unfold startLog
  cases settings.logFile with
  | none => rfl
  | some path =>
    dsimp only [Option.map]
    cases LogFile.ofPath (.ofString path) with
    | error failure => rfl
    | ok file =>
      dsimp only
      rcases opened : host.openLog file s with ⟨fault | _, after⟩
      · exact bind_of_ran opened _
      · exact bind_of_ran opened _

private theorem startLog_noted (settings : Settings) (s : σ) (log : List Effect) :
    startLog machine.noted.host settings (s, log) =
      ((startLog machine.host settings s).1, (startLog machine.host settings s).2, log) := by
  have opens (file : LogFile) : machine.noted.host.openLog file (s, log) =
      ((machine.host.openLog file s).1, (machine.host.openLog file s).2, log) := rfl
  rw [startLog_eq, startLog_eq]
  rcases settings.logFile.map fun path => LogFile.ofPath (.ofString path) with _ | failure | file
  · rfl
  · rfl
  · simp only [opens]
    rcases machine.host.openLog file s with ⟨fault | _, after⟩
    · rfl
    · rfl

/-- Settings are read and nothing else happens. -/
private theorem loadSettings_eq (flags : Flags) (s : σ) :
    loadSettings machine.host flags s =
      (match flags.get? "settings" with
      | none => flags.override {}
      | some path =>
        match Settings.load (machine.disk s) (.ofString path) with
        | .ok settings => flags.override settings
        | .error failure =>
          .error s!"reading settings file {path}: {failure.message}: {failure.detail}", s) := by
  unfold loadSettings
  cases flags.get? "settings" with
  | none => rfl
  | some path =>
    have read : machine.host.text (.ofString path) s =
      ((machine.disk s).text (.ofString path), s) := rfl
    refine (bind_of_ran read _).trans ?_
    dsimp only [Settings.load]
    cases ofFile ((machine.disk s).text (.ofString path)) <;> rfl

private theorem loadSettings_keeps (flags : Flags) (s : σ) :
    loadSettings machine.host flags s = ((loadSettings machine.host flags s).1, s) := by
  rw [loadSettings_eq]

theorem loadSettings_noted (flags : Flags) (s : σ) (log : List Effect) :
    loadSettings machine.noted.host flags (s, log) =
      ((loadSettings machine.host flags s).1, s, log) := by
  rw [loadSettings_eq, loadSettings_eq]
  rfl

private theorem showSaved_exit (path : String) (s : σ) :
    (showSaved machine.host path s).1.exit =
      if (loadConfiguration (machine.disk s) (.ofString path)).isOk then 0 else 1 := by
  have read : machine.host.text (.ofString path) s = ((machine.disk s).text (.ofString path), s) :=
    rfl
  unfold showSaved loadConfiguration
  rw [bind_of_ran read]
  cases configurationIn (.ofString path) ((machine.disk s).text (.ofString path)) <;> rfl

private theorem showSaved_noted (path : String) (s : σ) (log : List Effect) :
    showSaved machine.noted.host path (s, log) =
      ((showSaved machine.host path s).1, (showSaved machine.host path s).2, log) := by
  have read : machine.host.text (.ofString path) s = ((machine.disk s).text (.ofString path), s) :=
    rfl
  have noted : machine.noted.host.text (.ofString path) (s, log) =
      ((machine.disk s).text (.ofString path), s, log) := rfl
  unfold showSaved
  rw [bind_of_ran read, bind_of_ran noted]
  cases configurationIn (.ofString path) ((machine.disk s).text (.ofString path)) <;> rfl

private theorem handOver_asks (settings : Settings) (before : String) (logged : Option String)
    (s : σ) :
    Asks (handOver machine.host settings before logged)
      (handOver machine.noted.host settings before logged) s
      (Open machine settings.bootstrapOptions settings.bootstrapConfig s) := by
  obtain ⟨trace, opened, same⟩ :=
    ensure_asks machine settings.bootstrapOptions settings.bootstrapConfig s
  refine ⟨trace, opened, ?_⟩
  intro log
  rw [handOver_eq, handOver_eq]
  simp only [ExceptT.run] at same ⊢
  rw [same]

/-- What is asked of the world outside is asked by a run in the state in which logging began. -/
private theorem bootstrap_asks (settings : Settings) (s : σ) :
    Asks (bootstrap machine.host settings) (bootstrap machine.noted.host settings) s
      (Open machine settings.bootstrapOptions settings.bootstrapConfig
        (startLog machine.host settings s).2) := by
  have began (log : List Effect) := startLog_noted machine settings s log
  rcases ran : startLog machine.host settings s with ⟨_ | failure | fault, after⟩
  · rw [ran] at began
    refine (handOver_asks machine settings _ _ after).onward (by rw [bootstrap_eq, ran]) ?_
    intro log
    rw [bootstrap_eq, began]
    rfl
  · rw [ran] at began
    refine (handOver_asks machine settings _ _ after).onward (by rw [bootstrap_eq, ran]) ?_
    intro log
    rw [bootstrap_eq, began]
  · rw [ran] at began
    refine .silent ?_
    intro log
    rw [bootstrap_eq, bootstrap_eq, began, ran]
    rfl

section program

variable (host : Host σ) {arguments : List String}

private theorem program_version (asked : Sets arguments "version") (s : σ) :
    program host arguments s = (⟨0, printed [versionText host.build], "", none⟩, s) := by
  have given := (get?_isSome_iff arguments "version").mpr asked
  rw [program, Flags.has, if_pos given]
  rfl

private theorem program_saved (versionless : ¬ Sets arguments "version") {path : String}
    (asked : (Flags.ofArguments arguments).get? "show-saved" = some path) :
    program host arguments = showSaved host path := by
  have missing := mt (get?_isSome_iff arguments "version").mp versionless
  rw [program, Flags.has, if_neg missing, asked]

theorem program_plain (versionless : ¬ Sets arguments "version")
    (unsaved : ¬ Sets arguments "show-saved") (s : σ) :
    program host arguments s = match loadSettings host (.ofArguments arguments) s with
      | (.ok settings, after) => bootstrap host settings after
      | (.error words, after) => (⟨1, "", complaint words, none⟩, after) := by
  have missing := mt (get?_isSome_iff arguments "version").mp versionless
  have none := Option.not_isSome_iff_eq_none.mp
    (mt (get?_isSome_iff arguments "show-saved").mp unsaved)
  rw [program, Flags.has, if_neg missing, none]
  rcases loaded : loadSettings host (.ofArguments arguments) s with ⟨words | settings, after⟩
  · exact bind_of_ran loaded _
  · exact bind_of_ran loaded _

end program

section loaded

variable {machine} {arguments : List String} {s : σ} (versionless : ¬ Sets arguments "version")
  (unsaved : ¬ Sets arguments "show-saved")

include versionless unsaved

private theorem program_refused {words : String}
    (refused : (loadSettings machine.host (.ofArguments arguments) s).1 = .error words) :
    program machine.host arguments s = (⟨1, "", complaint words, none⟩, s) := by
  rw [program_plain machine.host versionless unsaved, loadSettings_keeps, refused]

theorem program_loaded {settings : Settings}
    (loaded : (loadSettings machine.host (.ofArguments arguments) s).1 = .ok settings) :
    program machine.host arguments s = bootstrap machine.host settings s := by
  rw [program_plain machine.host versionless unsaved, loadSettings_keeps, loaded]

end loaded

private theorem program_asks (arguments : List String) (s : σ) :
    Asks (program machine.host arguments) (program machine.noted.host arguments) s fun trace =>
      ¬ Sets arguments "version" ∧ ¬ Sets arguments "show-saved" ∧ ∃ settings,
        (loadSettings machine.host (.ofArguments arguments) s).1 = .ok settings ∧
        Open machine settings.bootstrapOptions settings.bootstrapConfig
          (startLog machine.host settings s).2 trace := by
  by_cases asked : Sets arguments "version"
  · refine .silent ?_
    intro log
    rw [program_version _ asked, program_version _ asked]
    rfl
  cases saved : (Flags.ofArguments arguments).get? "show-saved" with
  | some path =>
    refine .silent ?_
    intro log
    rw [program_saved _ asked saved, program_saved _ asked saved, showSaved_noted]
  | none =>
    have unsaved : ¬ Sets arguments "show-saved" := by
      rw [← get?_isSome_iff, saved]
      exact Bool.false_ne_true
    have noted (log : List Effect) :=
      congrArg Prod.fst (loadSettings_noted machine (.ofArguments arguments) s log)
    cases loaded : (loadSettings machine.host (.ofArguments arguments) s).1 with
    | error words =>
      refine .silent ?_
      intro log
      rw [program_refused asked unsaved loaded,
        program_refused asked unsaved ((noted log).trans loaded)]
    | ok settings =>
      have asks := (bootstrap_asks machine settings s).onward
        (program_loaded asked unsaved loaded)
        (fun log => program_loaded asked unsaved ((noted log).trans loaded))
      refine asks.imp ?_
      intro trace opened
      exact ⟨asked, unsaved, settings, rfl, opened⟩

private theorem bootstrap_exit (settings : Settings) (s : σ)
    (openable : ∀ fault, (startLog machine.host settings s).1 ≠ .broken fault) :
    (bootstrap machine.host settings s).1.exit =
      if ((machine.host.ensure settings.bootstrapOptions settings.bootstrapConfig).run
        (startLog machine.host settings s).2).1.isOk then 0 else 1 := by
  have exits (before : String) (logged : Option String) (after : σ) :
      (handOver machine.host settings before logged after).1.exit =
        if ((machine.host.ensure settings.bootstrapOptions settings.bootstrapConfig).run
          after).1.isOk then 0 else 1 := by
    rw [handOver_eq]
    cases ((machine.host.ensure settings.bootstrapOptions settings.bootstrapConfig).run after).1 <;>
      rfl
  rw [bootstrap_eq]
  rcases began : startLog machine.host settings s with ⟨_ | failure | fault, after⟩
  · exact exits _ _ _
  · exact exits _ _ _
  · rw [began] at openable
    exact absurd rfl (openable fault)

end gates

/-- The gates of the program. The world outside is asked for something only if neither a version
nor a saved configuration is asked for, the settings are loaded and valid and the way to the
cluster's API is found; then by a run from where logging began. -/
theorem program_gated (machine : Machine σ) (arguments : List String) (s : σ) :
    let ended := program machine.host arguments s
    let trace := machine.effects arguments s
    let loaded := (loadSettings machine.host (.ofArguments arguments) s).1
    program machine.noted.host arguments (s, []) = (ended.1, ended.2, trace) ∧
    (trace ≠ [] → ¬ Sets arguments "version" ∧ ¬ Sets arguments "show-saved" ∧
      ∃ settings found, loaded = .ok settings ∧ settings.bootstrapConfig.validate = .ok () ∧
        access machine.environment (machine.disk (startLog machine.host settings s).2) =
          .ok found ∧
        trace = Bootstrap.effects (machine.reach found) settings.bootstrapOptions
          settings.bootstrapConfig (startLog machine.host settings s).2) ∧
    (Sets arguments "version" → ended.1.exit = 0) ∧
    (¬ Sets arguments "version" → Sets arguments "show-saved" →
      ∃ path, (Flags.ofArguments arguments).get? "show-saved" = some path ∧
        ended.1.exit =
          if (loadConfiguration (machine.disk s) (.ofString path)).isOk then 0 else 1) ∧
    (¬ Sets arguments "version" → ¬ Sets arguments "show-saved" →
      (∀ words, loaded = .error words → ended.1.exit = 1) ∧
      ∀ settings, loaded = .ok settings →
        (∀ fault, (startLog machine.host settings s).1 ≠ .broken fault) →
        ended.1.exit =
          if ((machine.host.ensure settings.bootstrapOptions settings.bootstrapConfig).run
            (startLog machine.host settings s).2).1.isOk then 0 else 1) ∧
    (∀ options config there,
      (∀ failure, config.validate = .error failure →
        (machine.host.ensure options config).run there = (.error failure, there)) ∧
      (∀ failure, config.validate = .ok () →
        access machine.environment (machine.disk there) = .error failure →
        (machine.host.ensure options config).run there = (.error failure, there))) := by
  intro ended trace loaded
  obtain ⟨noticed, opened, same⟩ := program_asks machine arguments s
  have all : trace = noticed := by
    change (program machine.noted.host arguments (s, [])).2.2 = noticed
    rw [same, List.nil_append]
  rw [all]
  refine ⟨same [], ?_, ?_, ?_, ?_, ?_⟩
  · intro some
    obtain ⟨versionless, unsaved, settings, isLoaded, valid, found, known, asked⟩ := opened some
    exact ⟨versionless, unsaved, settings, found, isLoaded, valid, known, asked⟩
  · intro asked
    exact congrArg (·.1.exit) (program_version machine.host asked s)
  · intro versionless asked
    obtain ⟨path, saved⟩ := Option.isSome_iff_exists.mp ((get?_isSome_iff _ _).mpr asked)
    refine ⟨path, saved, ?_⟩
    rw [← showSaved_exit, ← program_saved machine.host versionless saved]
  · intro versionless unsaved
    constructor
    · intro words refused
      exact congrArg (·.1.exit) (program_refused versionless unsaved refused)
    · intro settings isLoaded openable
      rw [← bootstrap_exit machine settings s openable]
      exact congrArg (·.1.exit) (program_loaded versionless unsaved isLoaded)
  · intro options config there
    constructor
    · intro failure invalid
      exact ensure_invalid machine options config there invalid
    · intro failure valid unknown
      rw [ensure_valid machine options config there valid, unknown]

end RuntimeHandover.CommandLine
