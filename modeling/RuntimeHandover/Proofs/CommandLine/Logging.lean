import Mathlib
import RuntimeHandover.Proofs.CommandLine.Gates
import RuntimeHandover.Proofs.Rehearsal.Veil

/-! What a log file changes about the handover. One that can be opened stands behind a veil over the
disk, where no run looks. -/
namespace RuntimeHandover.Rehearsal
open Files Files.Tree Files.Veil Settings

section opening

variable {veil : Veil} {saved : Name} {start disk opened : Disk} {path : Path}

/-- A file that is opened for writing, made or not, has a hidden name. -/
private theorem followToWrite_hidden {tree : Tree} {links : Nat} {here : Spot} {names : List Name}
    {slash : Bool} {spot : Spot} (hidden : veil.Hidden names)
    (closed : ∀ directory name target, veil.names name →
      tree.at? (directory ++ [name]) = some (.link target) → veil.Hidden target.parts)
    (found : SetupStep.followToWrite tree links here names slash = .ok spot) :
    ∃ directory name, veil.names name ∧ spot = directory ++ [name] := by
  match names with
  | [] =>
    unfold SetupStep.followToWrite at found
    cases found
  | name :: rest =>
    obtain ⟨first, later⟩ := List.forall_mem_cons.mp hidden
    unfold SetupStep.followToWrite at found
    split at found
    next => cases found
    split at found
    next => cases found
    split at found
    next => exact followToWrite_hidden later closed found
    next notDot =>
      split at found
      next => exact followToWrite_hidden later closed found
      next notDots =>
        have veiled := first.resolve_right (not_or.mpr ⟨notDot, notDots⟩)
        split at found
        next => cases found
        split at found
        next =>
          split at found
          next =>
            cases found
            exact ⟨here, name, veiled, rfl⟩
          next => cases found
        next target turned =>
          split at found
          next => cases found
          next =>
            -- What the link leads to is followed before the rest, and is hidden as well.
            have onward : veil.Hidden (target.parts ++ rest) :=
              List.forall_mem_append.mpr ⟨closed _ _ _ veiled turned, later⟩
            exact followToWrite_hidden onward closed found
        next =>
          split at found
          next =>
            split at found
            next => cases found
            next => cases found
            next =>
              cases found
              exact ⟨here, name, veiled, rfl⟩
          next => exact followToWrite_hidden later closed found
termination_by (links, names.length)

private theorem followToWrite_leads {tree : Tree} {links : Nat} {here : Spot} {names : List Name}
    {slash : Bool} {spot : Spot} (leads : veil.Leads tree here names)
    (closed : ∀ directory name target, veil.names name →
      tree.at? (directory ++ [name]) = some (.link target) → veil.Hidden target.parts)
    (found : SetupStep.followToWrite tree links here names slash = .ok spot) :
    ∃ directory name, veil.names name ∧ spot = directory ++ [name] := by
  induction leads with
  | behind hidden => exact followToWrite_hidden hidden closed found
  | stay onward ih =>
    unfold SetupStep.followToWrite at found
    split at found
    next => cases found
    split at found
    next => cases found
    rw [if_pos rfl] at found
    exact ih found
  | down plain unveiled stands onward ih =>
    unfold SetupStep.followToWrite at found
    split at found
    next => cases found
    split at found
    next => cases found
    rw [if_neg plain.1, if_neg plain.2, isDirectory_iff.mp stands] at found
    split at found
    next => cases found
    dsimp only at found
    split at found
    next => cases found
    next => exact ih found

private theorem openForMore_behind (behind : Behind veil saved start disk)
    (reaches : veil.Reaches start path) (ok : World.openForMore disk path = .ok opened) :
    Behind veil saved start opened := by
  unfold World.openForMore at ok
  obtain ⟨spot, found, ok⟩ := bind_eq_ok_iff.mp ok
  obtain ⟨_, _, found⟩ := bind_eq_ok_iff.mp found
  obtain ⟨directory, name, veiled, rfl⟩ :=
    followToWrite_leads (reaches.shown behind.disks) behind.closed found
  split at ok
  next =>
    cases ok
    exact behind
  next =>
    cases ok
    exact behind.put veiled directory (by simp)

/-- A log file is opened behind the veil. -/
private theorem openLog_behind (behind : Behind veil saved start disk) {file : LogFile}
    (directory : veil.Reaches start file.directory)
    (whole : veil.Reaches start (file.directory.join ⟨file.name⟩)) :
    Behind veil saved start (World.openLog file disk).2 := by
  unfold World.openLog
  dsimp only
  split
  next opened ok => exact openForMore_behind behind whole ok
  next =>
    have made := behind.makeDirectories noMishap directory
    split
    next failed => rwa [failed] at made
    next ready =>
      rw [ready] at made
      split
      next opened ok => exact openForMore_behind made whole ok
      next => exact made

/-- The names of a log file are those of the path that it is given by. -/
private theorem hidden_logFile {file : LogFile} (named : LogFile.ofPath path = .ok file)
    (hidden : veil.Hidden path.parts) :
    veil.Hidden file.directory.parts ∧ veil.Hidden (file.directory.join ⟨file.name⟩).parts := by
  unfold LogFile.ofPath Path.fileName? at named
  split at named
  next => cases named
  next name isName =>
    split at isName
    next parent last cut =>
      split at isName
      next => cases isName
      next plain =>
        cases isName
        cases named
        obtain ⟨inside, alone⟩ := Path.last_of_split cut (not_or.mp plain).1
        -- The directory is written with the path's first parts, or as a dot if there are none.
        have directory : veil.Hidden
            ((path.parent?.filter fun parent => !parent.isEmpty).getD ⟨dot⟩).parts := by
          rw [Path.parent?, cut, Option.map_some, Option.filter_some]
          split
          next =>
            have upper := List.Subset.trans (Path.parent_of_split cut).2.subset
              (List.dropLast_subset _)
            exact fun part within => hidden part (upper within)
          next =>
            have here : (Files.Path.mk dot).parts = [dot] := by decide
            intro part within
            rw [Option.getD_none, here, List.mem_singleton] at within
            exact .inr (.inl within)
        refine ⟨directory, ?_⟩
        intro part within
        rcases Path.mem_join within with before | itself
        · exact directory part before
        · change part ∈ Path.partsOf name at itself
          rw [alone, List.mem_singleton] at itself
          rw [itself]
          exact hidden name inside
    next => cases isName

end opening

end RuntimeHandover.Rehearsal

namespace RuntimeHandover.CommandLine
open Bootstrap Cluster Files Files.Veil Rehearsal Settings Text

section machines

variable {σ τ : Type} {leeway : Leeway} {world : σ → τ → Prop} {machine : Machine σ}
  {other : Machine τ}

structure MachinesAlike (leeway : Leeway) (world : σ → τ → Prop) (config : Config)
    (machine : Machine σ) (other : Machine τ) : Prop where
  find : ∀ s t, world s t →
    access machine.environment (machine.disk s) = access other.environment (other.disk t)
  reach : ∀ found, Alike leeway world config (machine.reach found) (other.reach found)

private theorem MachinesAlike.noted {config : Config}
    (machines : MachinesAlike leeway world config machine other) :
    MachinesAlike leeway (leeway.Noted world) config machine.noted other.noted where
  find s t start := machines.find s.1 t.1 start.1
  reach found := (machines.reach found).noted

private theorem abreast_ensure {config : Config}
    (machines : MachinesAlike leeway world config machine other) (options : Options) :
    Act.Abreast world Eq (machine.host.ensure options config)
      (other.host.ensure options config) := by
  refine (Act.Abreast.ofExcept (.refl config.validate)).bind fun _ _ _ => ?_
  have found : Act.Abreast world Eq machine.find other.find := by
    intro s t start
    exact ⟨.of_eq (machines.find s t start), start⟩
  refine found.bind ?_
  rintro access _ rfl
  exact (machines.reach access).run options

private theorem abreast_handOver {settings : Settings}
    (machines : MachinesAlike leeway world settings.bootstrapConfig machine other)
    (before : String) (logged : Option String) :
    Abreast world Eq (handOver machine.host settings before logged)
      (handOver other.host settings before logged) := by
  intro s t start
  obtain ⟨paired, after⟩ := abreast_ensure machines settings.bootstrapOptions s t start
  rw [handOver_eq, handOver_eq]
  exact ⟨congrArg (ended before logged) paired.eq, after⟩

end machines

section starting

def shownBy (environment : String → Option String) (settings : Settings) : Option String :=
  if logs environment settings.logLevel .info then some settings.bootstrapConfig.shown else none

variable {σ : Type} (host : Host σ) (settings : Settings) (s : σ)

/-- Without a log file the handover begins at once. -/
private theorem bootstrap_unlogged :
    bootstrap host {settings with logFile := none} s =
      handOver host settings "" (shownBy host.environment settings) s := by
  rw [bootstrap_eq, startLog_eq]
  rfl

variable {log : String}

private theorem bootstrap_refused {failure : Failure}
    (refused : LogFile.ofPath (.ofString log) = .error failure) :
    bootstrap host {settings with logFile := some log} s =
      handOver host settings (printed [s!"Failed to initialize logging: {failure.message}"]) none
        s := by
  rw [bootstrap_eq, startLog_eq]
  dsimp only [Option.map]
  rw [refused]
  rfl

variable {file : LogFile} {after : σ}

private theorem bootstrap_started (named : LogFile.ofPath (.ofString log) = .ok file)
    (opened : host.openLog file s = (.ok (), after)) :
    bootstrap host {settings with logFile := some log} s =
      handOver host settings "" (shownBy host.environment settings) after := by
  rw [bootstrap_eq, startLog_eq]
  dsimp only [Option.map]
  rw [named]
  dsimp only
  rw [opened]
  rfl

private theorem bootstrap_broken (named : LogFile.ofPath (.ofString log) = .ok file)
    {fault : LogFault}
    (opened : host.openLog file s = (.error fault, after)) :
    bootstrap host {settings with logFile := some log} s =
      (⟨101, "", host.panicked fault.message, none⟩, after) := by
  rw [bootstrap_eq, startLog_eq]
  dsimp only [Option.map]
  rw [named]
  dsimp only
  rw [opened]

private theorem ended_exit (before : String) (logged : Option String)
    (result : Except Failure Outcome) :
    (ended before logged result).exit ≤ 1 := by
  cases result with
  | ok outcome => exact Nat.zero_le 1
  | error failure => exact Nat.le_refl 1

private theorem ended_logged (before : String) (logged : Option String)
    (result : Except Failure Outcome) :
    (ended before logged result).logged = logged := by
  cases result with
  | ok outcome => rfl
  | error failure => rfl

/-- What is told before a handover stands before what the handover tells. -/
private theorem handOver_told (before : String) (logged shown : Option String) :
    let quiet := handOver host settings "" shown s
    handOver host settings before logged s =
      ({quiet.1 with stdout := before ++ quiet.1.stdout, logged}, quiet.2) := by
  rw [handOver_eq, handOver_eq]
  rcases ((host.ensure settings.bootstrapOptions settings.bootstrapConfig).run s).1 with _ | _
  · simp [ended]
  · simp [ended]

end starting

private theorem openLog_noted {σ : Type} {machine : Machine σ} {file : LogFile} {s after : σ}
    {result : Except LogFault Unit} (opening : machine.openLog file s = (result, after)) :
    machine.noted.host.openLog file (s, []) = (result, after, []) := by
  change ((machine.openLog file s).1, (machine.openLog file s).2, []) = _
  rw [opening]

structure HandsOver {σ : Type} (machine : Machine σ) (arguments : List String) (s : σ)
    (settings : Settings) : Prop where
  versionless : ¬ Sets arguments "version"
  unsaved : ¬ Sets arguments "show-saved"
  loaded : (loadSettings machine.host (.ofArguments arguments) s).1 = .ok settings

namespace HandsOver

variable {σ : Type} {machine : Machine σ} {arguments plain : List String} {s after : σ}
  {settings : Settings} {log : String} {file : LogFile}

private theorem noted (handsOver : HandsOver machine arguments s settings) :
    HandsOver machine.noted arguments (s, []) settings where
  versionless := handsOver.versionless
  unsaved := handsOver.unsaved
  loaded := by
    rw [loadSettings_noted]
    exact handsOver.loaded

private theorem bootstraps (handsOver : HandsOver machine arguments s settings) :
    program machine.host arguments s = bootstrap machine.host settings s :=
  program_loaded handsOver.versionless handsOver.unsaved handsOver.loaded

private theorem effects (handsOver : HandsOver machine arguments s settings) :
    machine.effects arguments s = (bootstrap machine.noted.host settings (s, [])).2.2 :=
  congrArg (·.2.2) handsOver.noted.bootstraps

private theorem unlogged (quiet : HandsOver machine arguments s {settings with logFile := none}) :
    let shown := shownBy machine.environment settings
    program machine.host arguments s = handOver machine.host settings "" shown s ∧
    machine.effects arguments s = (handOver machine.noted.host settings "" shown (s, [])).2.2 := by
  refine ⟨quiet.bootstraps.trans (bootstrap_unlogged _ settings s), ?_⟩
  rw [quiet.effects, bootstrap_unlogged]
  rfl

variable (logging : HandsOver machine arguments s {settings with logFile := some log})

include logging

/-- A path without a file name takes the logging away and nothing else. -/
private theorem refused (quiet : HandsOver machine plain s {settings with logFile := none})
    (nameless : (Path.ofString log).fileName? = none) :
    let ended := program machine.host plain s
    let told := printed ["Failed to initialize logging: Configuration error: " ++
      s!"invalid log file path {(Path.ofString log).quoted}"]
    program machine.host arguments s =
      ({ended.1 with stdout := told ++ ended.1.stdout, logged := none}, ended.2) ∧
    machine.effects arguments s = machine.effects plain s := by
  have refused : LogFile.ofPath (.ofString log) =
      .error ⟨.config, s!"invalid log file path {(Path.ofString log).quoted}"⟩ := by
    rw [LogFile.ofPath, nameless]
  obtain ⟨quietly, quietEffects⟩ := quiet.unlogged
  intro ended told
  constructor
  · rw [show ended = _ from quietly]
    exact logging.bootstraps.trans
      ((bootstrap_refused _ settings s refused).trans (handOver_told ..))
  · rw [logging.effects, bootstrap_refused _ settings _ refused, quietEffects,
      handOver_told _ settings _ _ none (shownBy machine.environment settings)]

variable (named : LogFile.ofPath (.ofString log) = .ok file)

include named

private theorem opened (opening : machine.openLog file s = (.ok (), after)) :
    let shown := shownBy machine.environment settings
    program machine.host arguments s = handOver machine.host settings "" shown after ∧
    machine.effects arguments s =
      (handOver machine.noted.host settings "" shown (after, [])).2.2 := by
  have noted := openLog_noted opening
  refine ⟨logging.bootstraps.trans (bootstrap_started _ settings s named opening), ?_⟩
  rw [logging.effects, bootstrap_started _ settings _ named noted]
  rfl

/-- A log file that cannot be opened ends the program before the handover. -/
private theorem broken {fault : LogFault}
    (opening : machine.openLog file s = (.error fault, after)) :
    program machine.host arguments s =
      (⟨101, "", machine.panicked fault.message, none⟩, after) ∧
    machine.effects arguments s = [] := by
  have noted := openLog_noted opening
  refine ⟨logging.bootstraps.trans (bootstrap_broken _ settings s named opening), ?_⟩
  rw [logging.effects, bootstrap_broken _ settings _ named noted]

end HandsOver

section rehearsals

def rehearsed (build : Build) (environment : String → Option String)
    (panicked : String → String) : Machine World :=
  ⟨build, environment, (·.disk), (World.host build environment panicked).openLog, panicked,
    World.clustered⟩

/-- The path of a log file leads down directories that stand there, if at all, and on by names that
no other path of a run has. What links lead to has them only if the links do. -/
structure Secluded (veil : Veil) (settings : Settings) (log : Path) (world : World) : Prop where
  exact : veil.contents = Eq
  log : ∀ file, LogFile.ofPath log = .ok file →
    veil.Reaches world.disk file.directory ∧
      veil.Reaches world.disk (file.directory.join ⟨file.name⟩)
  closed : ∀ directory name target, veil.names name →
    world.disk.tree.at? (directory ++ [name]) = some (.link target) → veil.Hidden target.parts
  links : ∀ spot target, veil.Clear spot → world.disk.tree.at? spot = some (.link target) →
    veil.Clear target.parts
  home : veil.Clear world.disk.home
  below : veil.Clear world.disk.homePath.parts
  account : ∀ name ∈ ["namespace", "ca.crt", "token"], veil.Clear (accountFile name).parts
  backup : veil.Clear settings.bootstrapConfig.savedConfigPath.parts
  siblings : ∀ attempt, veil.Clear (Path.partsOf (Disk.siblingName
    (settings.bootstrapConfig.savedConfigPath.fileName?.getD []) (world.disk.tags attempt)))
  socket : veil.Clear settings.bootstrapConfig.proxySocketPath.parts
  later : ∀ due ∈ world.later, due.2.Clear veil
  replies : ∀ reply ∈ world.docker.replies, ∀ path target,
    reply.2.link = some (path, target) → veil.Clear path.parts ∧ veil.Clear target.parts

section secluded

variable {veil : Veil} {settings : Settings} {log : Path} {world : World}

private theorem Secluded.behind (secluded : Secluded veil settings log world) :
    Behind veil (settings.bootstrapConfig.savedConfigPath.fileName?.getD []) world.disk
      world.disk where
  disks := by
    refine ⟨?_, rfl, rfl, secluded.home, secluded.below, secluded.siblings⟩
    intro spot clear
    exact .refl fun target => secluded.links spot target clear
  closed := secluded.closed

/-- A log file that was opened makes a world that only differs behind the veil. -/
private theorem Secluded.worlds (secluded : Secluded veil settings log world) {file : LogFile}
    (named : LogFile.ofPath log = .ok file) :
    Worlds veil (settings.bootstrapConfig.savedConfigPath.fileName?.getD []) Eq world
      {world with disk := (World.openLog file world.disk).2} := by
  obtain ⟨directory, whole⟩ := secluded.log file named
  exact .mk (openLog_behind secluded.behind directory whole).disks rfl secluded.later
    secluded.replies

private theorem access_congr {environment : String → Option String} {disk other : Disk}
    (same : ∀ name ∈ ["namespace", "ca.crt", "token"],
      disk.text (accountFile name) = other.text (accountFile name)) :
    access environment disk = access environment other := by
  obtain ⟨space, bundle, token⟩ :
      disk.text (accountFile "namespace") = other.text (accountFile "namespace") ∧
      disk.text (accountFile "ca.crt") = other.text (accountFile "ca.crt") ∧
      disk.text (accountFile "token") = other.text (accountFile "token") :=
    ⟨same _ (by simp), same _ (by simp), same _ (by simp)⟩
  unfold access findAccess
  simp only [space, bundle, token]

private theorem abreast_self {σ α : Type} (action : StateM σ α) : Abreast Eq Eq action action := by
  rintro s _ rfl
  exact ⟨rfl, rfl⟩

private theorem Secluded.machines (secluded : Secluded veil settings log world) (build : Build)
    (environment : String → Option String) (panicked : String → String) :
    MachinesAlike .strict
      (Worlds veil (settings.bootstrapConfig.savedConfigPath.fileName?.getD []) Eq)
      settings.bootstrapConfig (rehearsed build environment panicked)
      (rehearsed build environment panicked) where
  find := by
    rintro one _ ⟨disks, -, -, -⟩
    apply access_congr
    intro name inside
    refine disks.text (secluded.account name inside) ?_
    intro first second same
    rwa [secluded.exact] at same
  reach found := by
    refine alike_clustered rfl found secluded.backup rfl secluded.socket ?_
      (fun _ _ => abreast_self _) ?_ ?_
    · rintro live _ rfl
      exact veil.refl _
    · intro record recordOther records
      cases records with
      | forNode node same =>
        cases same
        exact fun _ _ _ => abreast_self _
    · intro introspection base
      exact abreast_fetchLiveConfig (fun _ => abreast_wire (abreast_self _)) base

end secluded

section accounted

def accountSpot : Spot :=
  ["var", "run", "secrets", "kubernetes.io", "serviceaccount"].map bytesOf

/-- A host in a cluster that is out of reach, with a directory in the working directory. -/
def accounted : World where
  disk := ⟨⟨([bytesOf "d"], .directory) ::
    ((accountSpot.inits.map fun spot => (spot, .directory)) ++
      ["namespace", "ca.crt", "token"].map fun name =>
        (accountSpot ++ [bytesOf name], .file 0o644 []))⟩, [], fun n => List.replicate n 0x78⟩
  docker := {name := "docker"}
  roster := ⟨[], toString, 0, [], fun _ _ => none⟩

def served (name : String) : Option String :=
  if name = hostVariable then some "::1" else if name = portVariable then some "443" else none

variable {panicked : String → String}

private theorem handsOver_accounted {arguments : List String} {logFile : Option String}
    (given : (arguments, logFile) ∈ [([], none), (["--log-file=l"], some "l"),
      (["--log-file=.."], some ".."), (["--log-file=d"], some "d")]) :
    HandsOver (rehearsed {} served panicked) arguments accounted
      {({} : Settings) with logFile} := by
  have unset {arguments : List String} {key : String}
      (missing : ((Flags.ofArguments arguments).get? key).isSome = false) :
      ¬ Sets arguments key := by
    rw [← get?_isSome_iff, missing]
    exact Bool.false_ne_true
  simp only [List.mem_cons, Prod.mk.injEq, List.not_mem_nil, or_false] at given
  obtain ⟨rfl, rfl⟩ | ⟨rfl, rfl⟩ | ⟨rfl, rfl⟩ | ⟨rfl, rfl⟩ := given
  all_goals exact ⟨unset (by decide), unset (by decide), by cbv⟩

/-- A run with a valid configuration asks for something. -/
private theorem course_asks {options : Options} {config : Config} {trace : List Effect}
    {result : Except Failure Outcome} (course : Course options config trace result)
    (valid : config.validate = .ok ()) : trace ≠ [] := by
  rintro rfl
  cases course with
  | invalid refused =>
    rw [valid] at refused
    cases refused

/-- Without a log file the kubelet is asked there. -/
private theorem effects_accounted : (rehearsed {} served panicked).effects [] accounted ≠ [] := by
  have loaded : HandsOver (rehearsed {} served panicked) [] accounted
      {({} : Settings) with logFile := none} := handsOver_accounted (List.mem_cons_self ..)
  have valid : ({} : Settings).bootstrapConfig.validate = .ok () := by cbv
  have located : (access served accounted.disk).isOk = true := by cbv
  cases known : access served accounted.disk with
  | error failure =>
    rw [known] at located
    cases located
  | ok found =>
    rw [loaded.effects, bootstrap_unlogged, handOver_eq]
    dsimp only
    rw [ensure_valid (rehearsed {} served panicked).noted _ _ _ valid, Machine.noted, rehearsed]
    dsimp only
    rw [known]
    dsimp only
    rw [run_noted, List.nil_append]
    exact course_asks (run_course _ _ _ _) valid

def alone (name : Name) (named : name ≠ dot) : Veil :=
  ⟨(name = ·), Eq, named, fun _ => rfl⟩

private theorem clear_alone {name : Name} {named : name ≠ dot} {names : List Name}
    (apart : names.contains name = false) : (alone name named).Clear names := by
  rintro _ inside rfl
  rw [List.contains_iff_mem.mpr inside] at apart
  cases apart

private theorem siblings_accounted (attempt : Nat) :
    Path.partsOf (Disk.siblingName
      (({} : Settings).bootstrapConfig.savedConfigPath.fileName?.getD [])
      (accounted.disk.tags attempt)) =
    [bytesOf ".kubelet.conf." ++ List.replicate attempt 0x78 ++ bytesOf ".tmp"] := by
  have lead : dot ++ Disk.shownName
      (({} : Settings).bootstrapConfig.savedConfigPath.fileName?.getD []) ++ dot =
      bytesOf ".kubelet.conf." := by cbv
  have apart : slash ∉ bytesOf ".kubelet.conf." ∧ slash ≠ 0x78 ∧ slash ∉ bytesOf ".tmp" := by
    decide
  rw [Disk.siblingName, lead]
  apply Path.partsOf_name
  · simp only [List.mem_append, List.mem_replicate, apart, accounted]
    simp
  · exact List.append_ne_nil_of_right_ne_nil _ (by decide)

private theorem secluded_accounted {log : String} (given : log = "l" ∨ log = "d") :
    ∃ veil, Secluded veil {} (.ofString log) accounted := by
  have solid (spot : Spot) (target : Path) :
      accounted.disk.tree.at? spot ≠ some (.link target) := by
    intro turned
    unfold Tree.at? at turned
    split at turned
    next => cases turned
    next =>
      have all : (accounted.disk.tree.entries.all fun pair =>
          pair.2 matches .directory | .file ..) = true := by cbv
      cases List.all_eq_true.mp all _ (Tree.mem_of_find? turned)
  obtain ⟨named, single, first, accounts, backup, socket⟩ : bytesOf log ≠ dot ∧
      (Path.ofString log).parts = [bytesOf log] ∧ (bytesOf log).head? ≠ dot.head? ∧
      (["namespace", "ca.crt", "token"].all fun name =>
        !(accountFile name).parts.contains (bytesOf log)) = true ∧
      (Path.ofString defaultSavedConfigPath).parts.contains (bytesOf log) = false ∧
      (Path.ofString defaultSocketPath).parts.contains (bytesOf log) = false := by
    rcases given with rfl | rfl
    · exact ⟨by decide, by cbv, by decide, by cbv, by cbv, by cbv⟩
    · exact ⟨by decide, by cbv, by decide, by cbv, by cbv, by cbv⟩
  refine ⟨alone (bytesOf log) named, rfl, ?_, ?_, ?_, clear_nil, clear_nil, ?_,
    clear_alone backup, ?_, clear_alone socket, by simp [accounted], by simp [accounted]⟩
  · intro file isNamed
    have hidden : (alone (bytesOf log) named).Hidden (Path.ofString log).parts := by
      rw [single]
      simp [Hidden, alone]
    obtain ⟨directory, whole⟩ := hidden_logFile isNamed hidden
    exact ⟨.behind directory, .behind whole⟩
  · exact fun directory name target _ turned => absurd turned (solid _ target)
  · exact fun spot target _ turned => absurd turned (solid spot target)
  · intro name inside
    apply clear_alone
    simpa using List.all_eq_true.mp accounts name inside
  · intro attempt
    -- The name of a sibling begins with a dot, and that of the log does not.
    rw [siblings_accounted]
    rintro _ (_ | ⟨_, ⟨⟩⟩) same
    rw [show bytesOf log = _ from same] at first
    exact first rfl

/-- What a log file changes. A path without a file name is told on the standard output, and the
handover goes on without logging as it would without the path. A log file that is opened changes
nothing but what stands behind its names, as long as the other paths have none of them. But one that
cannot be opened ends the program with what the runtime writes of a panic, and nothing is handed
over. -/
theorem program_with_log_file (build : Build) (environment : String → Option String)
    (panicked : String → String) {arguments plain : List String} {world : World}
    {settings : Settings} {log : String}
    (logging : HandsOver (rehearsed build environment panicked) arguments world
      {settings with logFile := some log})
    (unlogged : HandsOver (rehearsed build environment panicked) plain world
      {settings with logFile := none}) :
    let machine := rehearsed build environment panicked
    let path := Path.ofString log
    let ended := program machine.host arguments world
    let quiet := program machine.host plain world
    (path.fileName? = none →
      let told := printed ["Failed to initialize logging: Configuration error: " ++
        s!"invalid log file path {path.quoted}"]
      ended = ({quiet.1 with stdout := told ++ quiet.1.stdout, logged := none}, quiet.2) ∧
      machine.effects arguments world = machine.effects plain world) ∧
    ∀ file, LogFile.ofPath path = .ok file →
      let opened := World.openLog file world.disk
      (opened.1 = .ok () → ∀ veil, Secluded veil settings path world →
        ended.1 = quiet.1 ∧ machine.effects arguments world = machine.effects plain world ∧
        Worlds veil (settings.bootstrapConfig.savedConfigPath.fileName?.getD []) Eq
          quiet.2 ended.2) ∧
      ∀ fault, opened.1 = .error fault →
        ended = (⟨101, "", panicked fault.message, none⟩, {world with disk := opened.2}) ∧
        machine.effects arguments world = [] := by
  intro machine path ended quiet
  refine ⟨logging.refused unlogged, ?_⟩
  intro file named opened
  have opening : machine.openLog file world = (opened.1, {world with disk := opened.2}) := rfl
  refine ⟨?_, ?_⟩
  · intro ok veil secluded
    rw [ok] at opening
    obtain ⟨loudly, effects⟩ := logging.opened named opening
    obtain ⟨quietly, quietEffects⟩ := unlogged.unlogged
    -- The same machine runs in two worlds that differ behind the veil.
    have alike := secluded.machines build environment panicked
    have start := secluded.worlds named
    obtain ⟨same, after⟩ := abreast_handOver alike "" (shownBy environment settings) _ _ start
    obtain ⟨-, -, traces⟩ := abreast_handOver alike.noted "" (shownBy environment settings)
      (world, []) ({world with disk := opened.2}, []) ⟨start, .nil⟩
    rw [show ended = _ from loudly, show quiet = _ from quietly, effects, quietEffects]
    exact ⟨same.symm, (effects_strict traces).symm, after⟩
  · intro fault failed
    rw [failed] at opening
    exact logging.broken named opening

/-- The rehearsed host with a log file beside all else, with a path that names none, and with one
that is taken by a directory. -/
theorem program_with_log_file_accounted :
    let machine := rehearsed {} served (panicText 16 "appender:156:14")
    let report arguments := (program machine.host arguments accounted).1
    let trace arguments := machine.effects arguments accounted
    let quiet := report []
    let told := printed ["Failed to initialize logging: Configuration error: " ++
      ("invalid log file path " ++ (Path.ofString "..").quoted)]
    (∃ veil, Secluded veil {} (.ofString "l") accounted) ∧ trace [] ≠ [] ∧
    report ["--log-file=l"] = quiet ∧ trace ["--log-file=l"] = trace [] ∧
    report ["--log-file=.."] = {quiet with stdout := told ++ quiet.stdout, logged := none} ∧
    trace ["--log-file=.."] = trace [] ∧
    report ["--log-file=d"] = ⟨101, "", "\nthread 'main' (16) panicked at appender:156:14:\n" ++
      "initializing rolling file appender failed: InitError \x7b context: \"failed to create log " ++
      "file\", source: Os \x7b code: 21, kind: IsADirectory, message: \"Is a directory\" \x7d \x7d\n" ++
      "note: run with `RUST_BACKTRACE=1` environment variable to display a backtrace\n", none⟩ ∧
    trace ["--log-file=d"] = [] := by
  intro machine report trace quiet told
  have unlogged : HandsOver machine [] accounted {({} : Settings) with logFile := none} :=
    handsOver_accounted (List.mem_cons_self ..)
  obtain ⟨veil, secluded⟩ := secluded_accounted (.inl rfl)
  obtain ⟨-, opens⟩ := program_with_log_file {} served (panicText 16 "appender:156:14")
    (handsOver_accounted (.tail _ (.head _))) unlogged
  obtain ⟨same, sameTrace, -⟩ := (opens ⟨⟨dot⟩, bytesOf "l"⟩ (by cbv)).1 (by cbv) veil secluded
  obtain ⟨nameless, -⟩ := program_with_log_file {} served (panicText 16 "appender:156:14")
    (handsOver_accounted (.tail _ (.tail _ (.head _)))) unlogged
  obtain ⟨toldThere, toldTrace⟩ := nameless (by cbv)
  obtain ⟨-, taken⟩ := program_with_log_file {} served (panicText 16 "appender:156:14")
    (handsOver_accounted (.tail _ (.tail _ (.tail _ (.head _))))) unlogged
  obtain ⟨broken, brokenTrace⟩ :=
    (taken ⟨⟨dot⟩, bytesOf "d"⟩ (by cbv)).2 (.file .isDirectory) (by cbv)
  refine ⟨⟨veil, secluded⟩, effects_accounted, same, sameTrace, congrArg Prod.fst toldThere,
    toldTrace, (congrArg Prod.fst broken).trans ?_, brokenTrace⟩
  decide +kernel

/-- A directory in the log file's place ends a program that would have asked the kubelet, although
nothing else is asked of that place. A path that names no file leaves out the log line that the run
without a log file prints. -/
theorem ended_by_log_file :
    let machine := rehearsed {} served (panicText 16 "appender:156:14")
    let report arguments := (program machine.host arguments accounted).1
    let trace arguments := machine.effects arguments accounted
    (∃ veil, Secluded veil {} (.ofString "d") accounted) ∧
    (report ["--log-file=d"]).exit = 101 ∧ (report []).exit ≠ 101 ∧
    trace ["--log-file=d"] = [] ∧ trace [] ≠ [] ∧
    (report ["--log-file=.."]).logged = none ∧ (report []).logged ≠ none := by
  intro machine report trace
  have taken : HandsOver machine ["--log-file=d"] accounted
      {({} : Settings) with logFile := some "d"} :=
    handsOver_accounted (.tail _ (.tail _ (.tail _ (.head _))))
  have nameless : HandsOver machine ["--log-file=.."] accounted
      {({} : Settings) with logFile := some ".."} :=
    handsOver_accounted (.tail _ (.tail _ (.head _)))
  have unlogged : HandsOver machine [] accounted {({} : Settings) with logFile := none} :=
    handsOver_accounted (List.mem_cons_self ..)
  have named : LogFile.ofPath (.ofString "d") = .ok ⟨⟨dot⟩, bytesOf "d"⟩ := by cbv
  have opened : (World.openLog ⟨⟨dot⟩, bytesOf "d"⟩ accounted.disk).1 =
      .error (.file .isDirectory) := by cbv
  obtain ⟨broken, brokenTrace⟩ := taken.broken named (Prod.ext opened rfl)
  obtain ⟨quietly, -⟩ := unlogged.unlogged
  rw [handOver_eq] at quietly
  have refused := (nameless.refused unlogged (by cbv)).1
  refine ⟨secluded_accounted (.inr rfl), congrArg (·.1.exit) broken, ?_, brokenTrace,
    effects_accounted, congrArg (·.1.logged) refused, ?_⟩
  · intro reported
    have same := (congrArg (·.1.exit) quietly).symm.trans reported
    exact absurd (Nat.le_trans (Nat.le_of_eq same.symm) (ended_exit ..)) (by decide)
  · intro reported
    have same := (congrArg (·.1.logged) quietly).symm.trans reported
    dsimp only at same
    have shown : logs served ({} : Settings).logLevel .info = true := by cbv
    rw [ended_logged, show machine.environment = served from rfl, shownBy, if_pos shown] at same
    cases same

end accounted

end rehearsals

end RuntimeHandover.CommandLine
