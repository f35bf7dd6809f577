import RuntimeHandover.Proofs.Bootstrap.Outcome
import RuntimeHandover.Proofs.Files.Document
import RuntimeHandover.Proofs.Files.Way

/-! What stands at the path of the backup, after any number of patches and runs of which any
write may fail at any step: what stood there at first, or the whole configuration of the last
write that succeeded, which was not patched yet. -/
namespace RuntimeHandover.Bootstrap
open Cluster Container Files Kubelet Socket Text

inductive Attempt where
  | patch (live : LiveConfig)
  | run (options : Options) (config : Config)

namespace Attempt

variable {σ : Type}

def act (reach : Surroundings σ) (path : Path) : Attempt → Act σ (PatchOutcome ⊕ Outcome)
  | .patch live => .inl <$> Kubelet.patch (reach.save path) live
  | .run options config =>
    .inr <$> Bootstrap.run reach options {config with savedConfigPath := path}

def Given (effects : List Effect) (live : LiveConfig) : Attempt → Prop
  | .patch given => live = given
  | .run _ config => .fetchLive config.configzBaseUrl (.ok live) ∈ effects

end Attempt

def Effect.saved? : Effect → Option LiveConfig
  | .save _ live (.ok ()) => some live
  | _ => none

def saves (effects : List Effect) : List LiveConfig := effects.filterMap Effect.saved?

def standing (before : Option Entry) (effects : List Effect) : Option Entry :=
  match (saves effects).getLast? with
  | none => before
  | some live => some (.file privateMode (bytesOf live.pretty))

/-- Whether a result says that nothing was saved: the configuration was patched before, or its
backup could not be written and no other call failed in those words. -/
def Spares (effects : List Effect) : Except Failure (PatchOutcome ⊕ Outcome) → Prop
  | .ok (.inl (.alreadyPatched _)) | .ok (.inr .alreadyConfigured)
  | .ok (.inr (.reinstalled _)) => True
  | .ok (.inl (.patched _ _)) | .ok (.inr (.bootstrapped _)) => False
  | .error failure => failure.kind = .persistence ∧
    ∀ effect ∈ effects, effect.stage? ≠ some .backup →
      ∀ other, effect.failure? = some other → other.kind ≠ .persistence

section attempts

variable {effects : List Effect}

private theorem mem_saves {live : LiveConfig} :
    live ∈ saves effects ↔ ∃ saved, .save saved live (.ok ()) ∈ effects := by
  rw [saves, List.mem_filterMap]
  constructor
  · intro inside
    obtain ⟨effect, inside, told⟩ := inside
    unfold Effect.saved? at told
    split at told
    next saved _ =>
      cases told
      exact ⟨saved, inside⟩
    next => cases told
  · intro inside
    obtain ⟨saved, inside⟩ := inside
    exact ⟨_, inside, rfl⟩

private theorem standing_append (before : Option Entry) (first second : List Effect) :
    standing before (first ++ second) = standing (standing before first) second := by
  unfold standing saves
  rw [List.filterMap_append, List.getLast?_append]
  cases (second.filterMap Effect.saved?).getLast? with
  | none => rfl
  | some live => rfl

private theorem saves_eq_nil (unsaved : ∀ effect ∈ effects, effect.stage? ≠ some .backup) :
    saves effects = [] := by
  rw [saves, List.filterMap_eq_nil_iff]
  intro effect inside
  cases effect with
  | save path live answer => exact absurd rfl (unsaved _ inside)
  | _ => rfl

private theorem saves_of_stages {stages : List Stage}
    (same : effects.filterMap Effect.stage? = stages)
    (unsaved : .backup ∉ stages) : saves effects = [] := by
  apply saves_eq_nil
  intro effect inside backup
  apply unsaved
  rw [← same]
  exact List.mem_filterMap.mpr ⟨effect, inside, backup⟩

structure Backs (path : Path) (attempt : Attempt) (effects : List Effect)
    (result : Except Failure (PatchOutcome ⊕ Outcome)) : Prop where
  here (saved : Path) (live : LiveConfig) (answer : Except Failure Unit) :
    .save saved live answer ∈ effects → saved = path
  given (live : LiveConfig) (answer : Except Failure Unit) :
    .save path live answer ∈ effects → live.isPatched = false ∧ attempt.Given effects live
  spared : Spares effects result → saves effects = []

section course

variable {options : Options} {config : Config} {result : Except Failure Outcome}

private theorem course_saves {saved : Path} {live : LiveConfig} {answer : Except Failure Unit}
    (course : Course options config effects result) (saving : .save saved live answer ∈ effects) :
    saved = config.savedConfigPath ∧ live.isPatched = false ∧
      .fetchLive config.configzBaseUrl (.ok live) ∈ effects := by
  obtain ⟨before, after, split⟩ := List.append_of_mem saving
  obtain ⟨path, unpatched, past⟩ := (course_due course).at_split split
  rw [List.nil_append] at past
  rw [split, past]
  exact ⟨path, unpatched, List.mem_cons_self⟩

/-- No stage comes twice, so nothing was saved before a backup that failed. -/
private theorem saves_of_failed_backup {earlier : List Effect} {effect : Effect} {failure : Failure}
    (course : Course options config (earlier ++ [effect]) result)
    (backup : effect.stage? = some .backup) (failed : effect.failure? = some failure) :
    saves (earlier ++ [effect]) = [] := by
  have unsaved : Effect.saved? effect = none := by
    cases effect with
    | save path live answer =>
      cases answer with
      | ok _ => cases failed
      | error failure => rfl
    | _ => rfl
  have stages := (course_stages course).sublist.nodup (by decide)
  rw [List.filterMap_append, List.filterMap_cons_some backup, List.filterMap_nil] at stages
  have once : .backup ∉ earlier.filterMap Effect.stage? := by
    intro inside
    exact (List.nodup_append.mp stages).2.2 _ inside _ List.mem_cons_self rfl
  have nothing := saves_of_stages rfl once
  rw [saves] at nothing ⊢
  rw [List.filterMap_append, nothing, List.filterMap_cons_none unsaved, List.filterMap_nil,
    List.append_nil]

private theorem course_spared (course : Course options config effects result)
    (spares : Spares effects (result.map .inr)) : saves effects = [] := by
  cases valid : config.validate with
  | error failure =>
    rw [course_invalid course valid]
    rfl
  | ok _ =>
    cases result with
    | ok outcome =>
      cases outcome with
      | alreadyConfigured =>
        obtain ⟨live, fetched, overridden, -⟩ := (course_alreadyConfigured course).mp rfl
        have patched := (overridden_iff live).mp overridden
        exact saves_of_stages (course_patched course fetched patched) (by decide)
      | reinstalled id =>
        obtain ⟨live, _, fetched, overridden, -⟩ := (course_reinstalled course id).mp rfl
        have patched := (overridden_iff live).mp overridden
        exact saves_of_stages (course_patched course fetched patched) (by decide)
      | bootstrapped id => cases spares
    | error failure =>
      -- The last call of the run failed with this kind, and only a backup may have.
      obtain ⟨persistence, others⟩ := spares
      cases course_blamed course valid rfl with
      | @stage earlier effect failure failed =>
        have backup : effect.stage? = some .backup := by
          by_contra other
          exact others effect (by simp) other failure failed persistence
        exact saves_of_failed_backup course backup failed
      | unstarted earlier id failure cleanup =>
        have told := others (.start id (.error failure)) (by simp) (by simp [Effect.stage?])
          failure rfl
        exact absurd persistence told
      | nowhere => cases persistence
      | silent => cases persistence

end course

section traced

variable {σ : Type} {reach : Surroundings σ}

private theorem Traced.attempt (path : Path) (attempt : Attempt) :
    Traced reach id (attempt.act reach path) (attempt.act (noted reach) path)
      (Backs path attempt) := by
  cases attempt with
  | patch live =>
    apply Traced.map
    apply (Traced.patch path live).imp
    intro effects result ended
    obtain ⟨patched, rfl, rfl⟩ | ⟨unpatched, answer, rfl, ended⟩ := ended
    · exact ⟨by simp, by simp, fun _ => rfl⟩
    · refine ⟨?_, ?_, ?_⟩
      · intro saved given answer saving
        cases List.mem_singleton.mp saving
        rfl
      · intro given answer saving
        cases List.mem_singleton.mp saving
        exact ⟨unpatched, rfl⟩
      · intro spares
        cases answer with
        | error failure => rfl
        | ok _ =>
          rw [ended] at spares
          cases located : engineEndpoint live.withOverrides with
          | ok endpoint =>
            rw [located] at spares
            cases spares
          | error failure =>
            rw [located] at spares
            obtain ⟨-, rfl⟩ := (engineEndpoint_eq_error_iff _ _).mp located
            cases spares.1
  | run options config =>
    apply Traced.map
    apply (Traced.run options {config with savedConfigPath := path}).imp
    intro effects result course
    refine ⟨?_, ?_, course_spared course⟩
    · intro saved live answer saving
      exact (course_saves course saving).1
    · intro live answer saving
      exact (course_saves course saving).2

end traced

end attempts

section guarded

variable {σ : Type} {reach : Surroundings σ} {disk : σ → Disk} {path : Path} {sound : σ → Prop}

/-- A world in which nobody but the patch touches what stands at a path. A save is a backup
there, which may come to grief at any of its steps. -/
structure Guarded (reach : Surroundings σ) (disk : σ → Disk) (path : Path) (sound : σ → Prop) :
    Prop where
  save (live : LiveConfig) {s : σ} (holds : sound s) :
    sound ((reach.save path live).run s).2 ∧ ∃ mishap, writeBackup mishap path live (disk s) =
      (((reach.save path live).run s).1, disk ((reach.save path live).run s).2)
  call {α : Type} {effect : Except Failure α → Effect} {action : Act σ α}
    (asked : Call reach effect action) (other : ∀ answer, (effect answer).stage? ≠ some .backup)
    {s : σ} (holds : sound s) :
    sound (action.run s).2 ∧ Disk.Untouched path (disk s) (disk (action.run s).2)
  probe (socket : Path) {s : σ} (holds : sound s) :
    sound ((reach.watch socket).probe s).2 ∧
      Disk.Untouched path (disk s) (disk ((reach.watch socket).probe s).2)
  stamp {s : σ} (holds : sound s) :
    sound (reach.stamp s).2 ∧ Disk.Untouched path (disk s) (disk (reach.stamp s).2)
  now (socket : Path) {s : σ} (holds : sound s) :
    sound ((reach.watch socket).now s).2 ∧
      Disk.Untouched path (disk s) (disk ((reach.watch socket).now s).2)
  sleep (socket : Path) (pause : Nat) {s : σ} (holds : sound s) :
    sound ((reach.watch socket).sleep pause s).2 ∧
      Disk.Untouched path (disk s) (disk ((reach.watch socket).sleep pause s).2)

structure Guards (disk : σ → Disk) (path : Path) (sound : σ → Prop) (s : σ)
    (effects : List Effect) (t : σ) : Prop where
  holds : sound t
  apart : (disk t).Apart path
  way : (disk t).way? path = (disk s).way? path
  object : (disk t).object? path = standing ((disk s).object? path) effects

private theorem Guards.append {s middle t : σ} {first second : List Effect}
    (before : Guards disk path sound s first middle)
    (after : Guards disk path sound middle second t) :
    Guards disk path sound s (first ++ second) t := by
  refine ⟨after.holds, after.apart, after.way.trans before.way, ?_⟩
  rw [standing_append, ← before.object]
  exact after.object

private theorem guards_of_untouched {s t : σ} {effects : List Effect} (apart : (disk s).Apart path)
    (unsaved : saves effects = []) (kept : sound t ∧ Disk.Untouched path (disk s) (disk t)) :
    Guards disk path sound s effects t := by
  refine ⟨kept.1, apart.untouched kept.2, kept.2.1, kept.2.2.trans ?_⟩
  unfold standing
  rw [unsaved]
  rfl

private theorem guards_of_save (guarded : Guarded reach disk path sound) {s : σ} (holds : sound s)
    (apart : (disk s).Apart path) (live : LiveConfig) :
    Guards disk path sound s [.save path live ((reach.save path live).run s).1]
      ((reach.save path live).run s).2 := by
  obtain ⟨soundly, mishap, wrote⟩ := guarded.save live holds
  rcases ran : (reach.save path live).run s with ⟨failure | _, after⟩
  · rw [ran] at wrote soundly
    obtain ⟨fault, -, failed⟩ := Disk.writeBackup_eq_error wrote
    exact guards_of_untouched apart rfl ⟨soundly, Disk.untouched_of_failed apart failed⟩
  · rw [ran] at wrote soundly
    obtain ⟨way, object, apart⟩ := Disk.stored_of_written apart (Disk.writeBackup_eq_ok wrote)
    exact ⟨soundly, apart, way, object⟩

private theorem guards_of_call (guarded : Guarded reach disk path sound) {α : Type}
    {effect : Except Failure α → Effect} {action : Act σ α} (asked : Call reach effect action)
    {s : σ} (holds : sound s) (apart : (disk s).Apart path)
    (here : ∀ saved live answer, effect (action.run s).1 = .save saved live answer → saved = path) :
    Guards disk path sound s [effect (action.run s).1] (action.run s).2 := by
  by_cases other : ∀ answer, (effect answer).stage? ≠ some .backup
  · refine guards_of_untouched apart (saves_eq_nil ?_) (guarded.call asked other holds)
    intro effect inside
    rw [List.mem_singleton.mp inside]
    exact other _
  · cases asked with
    | save saved live =>
      obtain rfl := here saved live _ rfl
      exact guards_of_save guarded holds apart live
    | _ => exact absurd (fun _ => by simp [Effect.stage?]) other

private theorem Goes.guards (guarded : Guarded reach disk path sound) {s t : σ}
    {effects : List Effect}
    (goes : Goes reach s effects t)
    (here : ∀ saved live answer, .save saved live answer ∈ effects → saved = path)
    (holds : sound s) (apart : (disk s).Apart path) : Guards disk path sound s effects t := by
  -- On the calls: each adds to the trace what it does to the disk, and leaves the path apart.
  induction goes with
  | still s => exact guards_of_untouched apart rfl ⟨holds, rfl, rfl⟩
  | call asked _ ih =>
    have first := guards_of_call guarded asked holds apart
      fun saved live answer same => here saved live answer (same ▸ List.mem_cons_self)
    have later := fun saved live answer inside => here saved live answer (.tail _ inside)
    exact first.append (ih later first.holds first.apart)
  | @probe socket s _ _ _ ih =>
    have first : Guards disk path sound s [.probe socket ((reach.watch socket).probe s).1] _ :=
      guards_of_untouched apart rfl (guarded.probe socket holds)
    have later := fun saved live answer inside => here saved live answer (.tail _ inside)
    exact first.append (ih later first.holds first.apart)
  | stamp _ ih =>
    have first : Guards disk path sound _ [] _ :=
      guards_of_untouched apart rfl (guarded.stamp holds)
    exact first.append (ih here first.holds first.apart)
  | now socket _ ih =>
    have first : Guards disk path sound _ [] _ :=
      guards_of_untouched apart rfl (guarded.now socket holds)
    exact first.append (ih here first.holds first.apart)
  | sleep socket pause _ ih =>
    have first : Guards disk path sound _ [] _ :=
      guards_of_untouched apart rfl (guarded.sleep socket pause holds)
    exact first.append (ih here first.holds first.apart)

def attemptEach (reach : Surroundings σ) (path : Path) :
    List Attempt → σ → List (Except Failure (PatchOutcome ⊕ Outcome)) × σ :=
  each fun attempt => attempt.act reach path

def attemptEffects (reach : Surroundings σ) (path : Path) (attempts : List Attempt) (s : σ) :
    List Effect :=
  (attemptEach (noted reach) path attempts (s, [])).2.2

/-- Noting changes nothing about attempts, and adds their effects to what was noted. -/
theorem attemptEach_noted (attempts : List Attempt) (s : σ) (log : List Effect) :
    let plain := attemptEach reach path attempts s
    attemptEach (noted reach) path attempts (s, log) =
      (plain.1, plain.2, log ++ attemptEffects reach path attempts s) :=
  (Traced.each (Traced.attempt path) attempts s).2.2 log

private theorem each_saves {attempts : List Attempt} {effects : List Effect}
    {results : List (Except Failure (PatchOutcome ⊕ Outcome))}
    (backs : Each (Backs path) attempts effects results) {saved : Path} {live : LiveConfig}
    {answer : Except Failure Unit} (saving : .save saved live answer ∈ effects) :
    saved = path ∧ live.isPatched = false := by
  induction backs with
  | nil => cases saving
  | cons one rest ih =>
    obtain first | later := List.mem_append.mp saving
    · obtain rfl := one.here saved live answer first
      exact ⟨rfl, (one.given live answer first).1⟩
    · exact ih later

variable {s : σ}

private theorem attemptEach_guards (guarded : Guarded reach disk path sound) (holds : sound s)
    (apart : (disk s).Apart path) (attempts : List Attempt) :
    Guards disk path sound s (attemptEffects reach path attempts s)
      (attemptEach reach path attempts s).2 := by
  obtain ⟨goes, backs, _⟩ := Traced.each (Traced.attempt path) attempts s
  exact goes.guards guarded (fun _ _ _ saving => (each_saves backs saving).1) holds apart

private theorem attempt_backs (reach : Surroundings σ) (path : Path) (attempt : Attempt) (s : σ) :
    Backs path attempt (attemptEffects reach path [attempt] s)
      ((attempt.act reach path).run s).1 := by
  obtain ⟨effects, _, backs, same⟩ := Traced.attempt path attempt s
  have own : attemptEffects reach path [attempt] s = effects := congrArg (·.2.2) (same [])
  rwa [own]

/-- After any attempts what stands at the path of the backup is what stood there before all of
them, or the file of the last configuration that was saved, which is never a patched one. Each
attempt adds to that what it saves itself, the configuration it was given, and one that finds it
patched, or that fails because it cannot be saved, changes nothing there. -/
theorem backup_after_attempts (guarded : Guarded reach disk path sound) (holds : sound s)
    (apart : (disk s).Apart path) (attempts : List Attempt) :
    let reached := (attemptEach reach path attempts s).2
    let trace := attemptEffects reach path attempts s
    (disk reached).way? path = (disk s).way? path ∧
    (disk reached).object? path = standing ((disk s).object? path) trace ∧
    (∀ live ∈ saves trace, live.isPatched = false) ∧
    ∀ attempt : Attempt,
      let ended := (attempt.act reach path).run reached
      let own := attemptEffects reach path [attempt] reached
      (disk ended.2).way? path = (disk s).way? path ∧
      (disk ended.2).object? path = standing ((disk reached).object? path) own ∧
      (∀ live ∈ saves own, live.isPatched = false ∧ attempt.Given own live) ∧
      (Spares own ended.1 → (disk ended.2).object? path = (disk reached).object? path) := by
  intro reached trace
  have all := attemptEach_guards guarded holds apart attempts
  refine ⟨all.way, all.object, ?_, ?_⟩
  · intro live inside
    obtain ⟨saved, saving⟩ := mem_saves.mp inside
    obtain ⟨_, backs, _⟩ := Traced.each (Traced.attempt path) attempts s
    exact (each_saves backs saving).2
  · intro attempt ended own
    have next : Guards disk path sound reached own ended.2 :=
      attemptEach_guards guarded all.holds all.apart [attempt]
    have backs := attempt_backs reach path attempt reached
    refine ⟨next.way.trans all.way, next.object, ?_, ?_⟩
    · intro live inside
      obtain ⟨saved, saving⟩ := mem_saves.mp inside
      obtain rfl := backs.here saved live _ saving
      exact backs.given live _ saving
    · intro spares
      have object := next.object
      unfold standing at object
      rwa [backs.spared spares] at object

end guarded

section answering
open Act Rehearsal

def storage (world : World) : Option Path × List (Nat × SetupStep) × Disk :=
  (world.listens, world.later, world.disk)

def Still (world : World) : Prop := world.listens = none ∧ world.later = []

private theorem untouched_of_same {path : Path} {before after : World}
    (same : storage after = storage before) (still : Still before) :
    Still after ∧ Disk.Untouched path before.disk after.disk := by
  unfold storage at same
  simp only [Prod.mk.injEq] at same
  obtain ⟨listens, later, disk⟩ := same
  unfold Still
  rw [listens, later, disk]
  exact ⟨still, rfl, rfl⟩

private theorem guarded_roster (path : Path) :
    Guarded (World.surroundings World.keepRecord World.rosterConnect) World.disk path Still where
  save live world still := ⟨still, noMishap, rfl⟩
  call := by
    intro α effect action asked other world still
    apply untouched_of_same _ still
    cases asked with
    | fetchLive introspection base =>
      exact Keeps.run_bind (keeps_fetchObject (fun _ _ => rfl) base configPath)
        (fun _ => Keeps.pure _) world
    | save saved live => exact absurd rfl (other (.ok ()))
    | fetchNode introspection base =>
      exact Keeps.run_bind (keeps_fetchObject (fun _ _ => rfl) base statsPath)
        (fun _ => Keeps.pure _) world
    | publish record => exact keeps_keepRecord (fun _ _ => rfl) record world
    | connect endpoint =>
      change storage ((World.rosterConnect endpoint).run world).2 = _
      rw [run_rosterConnect]
      rfl
    | start engine reached id =>
      rw [connected_engine reached, run_start still.1]
      rfl
    | list engine reached | remove engine reached | pull engine reached | create engine reached =>
      rw [connected_engine reached]
      rfl
  probe socket world still := untouched_of_same rfl still
  stamp still := untouched_of_same rfl still
  now socket world still := untouched_of_same rfl still
  sleep socket pause world still := by
    apply untouched_of_same _ still
    change storage (World.pass pause world) = _
    unfold World.pass storage
    rw [still.2]
    rfl

def savedPath : Path := .ofString "saved"

private theorem apart_answering : answering.disk.Apart savedPath := by
  have led : answering.disk.way? savedPath = some ⟨[[]], [bytesOf "saved"]⟩ := by cbv
  intro way same passed
  rw [led] at same
  cases same
  exact absurd passed (by decide)

private theorem effects_answering :
    attemptEffects (World.surroundings World.keepRecord World.rosterConnect) savedPath
      [.patch answered] answering = [.save savedPath answered (.ok ())] := by
  have fine : (((World.surroundings World.keepRecord World.rosterConnect).save savedPath
      answered).run answering).1 = .ok () := by cbv
  have saving : ((noted (World.surroundings World.keepRecord World.rosterConnect)).save savedPath
      answered).run (answering, []) = (.ok (), _, [.save savedPath answered (.ok ())]) :=
    run_note (Prod.ext fine rfl)
  have patched := run_patch_saved (by decide) saving
  have ran := Act.run_map (Sum.inl : PatchOutcome → PatchOutcome ⊕ Outcome)
    (Kubelet.patch ((noted (World.surroundings World.keepRecord World.rosterConnect)).save
      savedPath) answered) (answering, [])
  rw [patched] at ran
  exact congrArg (·.2.2) ran

/-- The host saves a configuration, and a patched one does not take its place. -/
theorem backup_after_attempts_answering :
    let reach := World.surroundings World.keepRecord World.rosterConnect
    let saved := (attemptEach reach savedPath [.patch answered] answering).2
    let again := ((Attempt.patch answered.withOverrides).act reach savedPath).run saved
    saved.disk.object? savedPath = some (.file 0o600 (bytesOf answered.pretty)) ∧
      again.1 = .ok (.inl (.alreadyPatched answered.withOverrides)) ∧
      again.2.disk.object? savedPath = some (.file 0o600 (bytesOf answered.pretty)) := by
  intro reach saved again
  have still : Still answering := ⟨rfl, rfl⟩
  obtain ⟨_, object, _, onward⟩ :=
    backup_after_attempts (guarded_roster savedPath) still apart_answering [.patch answered]
  rw [effects_answering] at object
  have refused : again.1 = .ok (.inl (.alreadyPatched answered.withOverrides)) := by
    change ((Attempt.patch answered.withOverrides).act reach savedPath |>.run saved).1 = _
    unfold Attempt.act
    dsimp only
    rw [Act.run_map, run_patch_patched answered.isPatched_withOverrides]
    rfl
  obtain ⟨_, _, _, spared⟩ := onward (.patch answered.withOverrides)
  refine ⟨object, refused, (spared ?_).trans object⟩
  change Spares _ again.1
  rw [refused]
  trivial

private theorem failed_through_itself (contents : List UInt8) :
    Disk.bare.exists? (.ofString "x/../x") = false ∧
    (Disk.bare.writePrivate noMishap (.ofString "x/../x") contents).1 = .error (.os .isDirectory) ∧
    (Disk.bare.writePrivate noMishap (.ofString "x/../x") contents).2.tree.leadsToDirectory []
      (.ofString "x/../x") = true := by
  refine ⟨?_, ?_, ?_⟩
  · cbv
  · cbv
  · cbv

/-- The path `x/../x` leads through the place `x` that it names. The directory that is made on
the way stays there when the backup fails. -/
theorem touched_by_failed_patch :
    let path := Path.ofString "x/../x"
    let save := fun live => ExceptT.mk (writeBackup noMishap path live)
    let ended := (Kubelet.patch save answered).run Disk.bare
    ended.1 = .error (backupFailure path (.os .isDirectory)) ∧
    (backupFailure path (.os .isDirectory)).kind = .persistence ∧
    Disk.bare.exists? path = false ∧
    ended.2.tree.leadsToDirectory [] path = true := by
  intro path save ended
  obtain ⟨missing, failed, there⟩ := failed_through_itself (bytesOf answered.pretty)
  have saving : (save answered).run Disk.bare = (.error (backupFailure path (.os .isDirectory)),
      (Disk.bare.writePrivate noMishap path (bytesOf answered.pretty)).2) := by
    change ((Disk.bare.writePrivate noMishap path (bytesOf answered.pretty)).1.mapError
      (backupFailure path), _) = _
    rw [failed]
    rfl
  have ran : ended = _ := run_patch_unsaved (by decide) saving
  rw [ran]
  exact ⟨rfl, rfl, missing, there⟩

end answering

end RuntimeHandover.Bootstrap
