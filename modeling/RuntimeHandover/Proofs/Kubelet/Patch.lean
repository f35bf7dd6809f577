import RuntimeHandover.Proofs.Act
import RuntimeHandover.Proofs.Files.Atomic
import RuntimeHandover.Proofs.Kubelet.Overrides

/-! What becomes of a live configuration that is patched, and of its backup. The configuration is
saved as it was before anything else can fail. -/
namespace RuntimeHandover.Kubelet
open Files Text

section patching

variable {σ : Type} {save : LiveConfig → Act σ Unit} {live : LiveConfig} {s saved : σ}

theorem run_patch_patched (patched : live.isPatched = true) :
    (patch save live).run s = (.ok (.alreadyPatched live), s) := by
  unfold patch
  rw [if_pos patched]
  rfl

theorem run_patch_unsaved {failure : Failure} (unpatched : live.isPatched = false)
    (saving : (save live).run s = (.error failure, saved)) :
    (patch save live).run s = (.error failure, saved) := by
  unfold patch
  rw [if_neg (by simp [unpatched])]
  exact Act.run_bind_error saving

theorem run_patch_saved (unpatched : live.isPatched = false)
    (saving : (save live).run s = (.ok (), saved)) :
    (patch save live).run s =
      ((engineEndpoint live).map (.patched live.withOverrides), saved) := by
  unfold patch
  rw [if_neg (by simp [unpatched])]
  refine (Act.run_bind_ok saving).trans ?_
  dsimp only
  rw [engineEndpoint_withOverrides]
  cases engineEndpoint live with
  | error failure => rfl
  | ok endpoint => rfl

end patching

/-- Nothing but directories above the path that were missing is new. A path apart from its way
leads where it led, and the same thing stands there. -/
structure Spared (path : Path) (before after : Disk) : Prop where
  entries (spot : Spot) : after.tree.at? spot = before.tree.at? spot ∨
    Disk.Raised path before after spot
  untouched (apart : before.Apart path) : Disk.Untouched path before after

/-- A configuration stands as it is in a private file, where the path led before. With the
overrides it would be another, and its text too. A path apart from its way leads to that file, and
what is read there is that configuration. -/
structure BackedUp (path : Path) (live : LiveConfig) (before after : Disk) : Prop where
  held : ∃ way, before.way? path = some way ∧
    after.tree.at? way.place = some (.file 0o600 (bytesOf live.pretty)) ∧
    ∀ spot ≠ way.place, after.tree.at? spot = before.tree.at? spot ∨
      Disk.Raised path before after spot
  original : live.withOverrides ≠ live
  texts (sound : live.Sound) : bytesOf live.pretty ≠ bytesOf live.withOverrides.pretty
  object (apart : before.Apart path) :
    after.object? path = some (.file 0o600 (bytesOf live.pretty)) ∧
      after.contents path = .ok (bytesOf live.pretty)
  back (apart : before.Apart path) (sound : live.Sound) :
    after.readJson LiveConfig.parse path = .ok live

section backup

variable {mishap : Mishap} {path : Path} {live : LiveConfig} {disk after : Disk}

private theorem spared_of_failed {contents : List UInt8} {fault : FileFault}
    (failed : disk.writePrivate mishap path contents = (.error fault, after)) :
    Spared path disk after :=
  ⟨(Disk.grows_of_failed failed).entries,
    fun apart => Disk.untouched_of_failed apart failed⟩

private theorem withOverrides_ne (unpatched : live.isPatched = false) :
    live.withOverrides ≠ live := by
  intro same
  have patched := live.isPatched_iff_withOverrides.mpr same
  rw [unpatched] at patched
  cases patched

private theorem pretty_ne_withOverrides (unpatched : live.isPatched = false) (sound : live.Sound) :
    bytesOf live.pretty ≠ bytesOf live.withOverrides.pretty := by
  intro same
  have texts : live.pretty = live.withOverrides.pretty := by
    rw [← Utf8.lossyText_bytesOf live.pretty, same, Utf8.lossyText_bytesOf]
  have back := LiveConfig.parse_pretty sound
  rw [texts, LiveConfig.parse_pretty (LiveConfig.sound_withOverrides sound)] at back
  exact withOverrides_ne unpatched (Except.ok.inj back)

private theorem backedUp_of_written (unpatched : live.isPatched = false)
    (ok : disk.writePrivate mishap path (bytesOf live.pretty) = (.ok (), after)) :
    BackedUp path live disk after := by
  obtain ⟨directory, name, wrote⟩ := Disk.writePrivate_wrote ok
  obtain ⟨through, led⟩ := Disk.way_of_wrote wrote
  refine ⟨⟨_, led, (wrote.entries _).trans (if_pos rfl),
    fun spot other => Disk.entries_of_wrote wrote other⟩, withOverrides_ne unpatched,
    pretty_ne_withOverrides unpatched, ?_, ?_⟩
  · intro apart
    exact ⟨(Disk.stored_of_written apart ok).object, Disk.contents_of_apart apart ok⟩
  · intro apart sound
    have text := Disk.text_of_contents (Disk.contents_of_apart apart ok)
    simp only [Disk.readJson, text, Except.mapError, bind, Except.bind,
      LiveConfig.parse_pretty sound]

private theorem run_patch_unwritten {fault : FileFault} (unpatched : live.isPatched = false)
    (failed : disk.writePrivate mishap path (bytesOf live.pretty) = (.error fault, after)) :
    (patch (fun live => ExceptT.mk (writeBackup mishap path live)) live).run disk =
      (.error (backupFailure path fault), after) := by
  apply run_patch_unsaved unpatched
  change writeBackup mishap path live disk = _
  simp only [writeBackup, failed, Except.mapError]

theorem run_patch_written (unpatched : live.isPatched = false)
    (ok : disk.writePrivate mishap path (bytesOf live.pretty) = (.ok (), after)) :
    (patch (fun live => ExceptT.mk (writeBackup mishap path live)) live).run disk =
      ((engineEndpoint live).map (.patched live.withOverrides), after) := by
  apply run_patch_saved unpatched
  change writeBackup mishap path live disk = _
  simp only [writeBackup, ok, Except.mapError]

/-- What comes of patching a configuration with a file as its backup: it holds the four overrides
and nothing happens; or the backup fails, and the failure says so whatever else is wrong; or the
configuration is backed up, and the failure says that it names no engine; or it is backed up and
patched. Nothing else can come of it. -/
theorem patch_cases (mishap : Mishap) (path : Path) (live : LiveConfig) (disk : Disk) :
    let ended := (patch (fun live => ExceptT.mk (writeBackup mishap path live)) live).run disk
    let wrote := disk.writePrivate mishap path (bytesOf live.pretty)
    let overridden := live.get? "containerRuntime" = some (.string "remote") ∧
      live.get? "enableCRI" = some (.bool true) ∧
      live.get? "remoteRuntimeEndpoint" = some (.string "/run/criproxy.sock") ∧
      live.get? "remoteImageEndpoint" = some (.string "/run/criproxy.sock")
    (∀ config, ended.1 = .ok (.alreadyPatched config) ↔ overridden ∧ config = live) ∧
    (∀ failure, ended.1 = .error failure ∧ failure.kind = .persistence ↔
      ¬ overridden ∧ ∃ fault, wrote.1 = .error fault ∧ failure = backupFailure path fault) ∧
    (∀ failure, ended.1 = .error failure ∧ failure.kind = .missingField ↔
      ¬ overridden ∧ wrote.1 = .ok () ∧
        (∀ endpoint, live.get? "dockerEndpoint" ≠ some (.string endpoint)) ∧
        failure = ⟨.missingField, "failed to retrieve dockerEndpoint from kubelet config"⟩) ∧
    (∀ config endpoint, ended.1 = .ok (.patched config endpoint) ↔
      ¬ overridden ∧ wrote.1 = .ok () ∧ config = live.withOverrides ∧
        live.get? "dockerEndpoint" = some (.string endpoint)) ∧
    (∀ failure, ended.1 = .error failure →
      failure.kind = .persistence ∨ failure.kind = .missingField) ∧
    (overridden → ended.2 = disk) ∧
    (∀ fault, ¬ overridden → wrote.1 = .error fault → Spared path disk ended.2) ∧
    (¬ overridden → wrote.1 = .ok () → BackedUp path live disk ended.2) := by
  intro ended wrote overridden
  have holds : overridden ↔ live.isPatched = true := live.isPatched_iff_get?.symm
  have located (endpoint : String) : live.get? "dockerEndpoint" = some (.string endpoint) ↔
      engineEndpoint live = .ok endpoint := (engineEndpoint_eq_ok_iff live endpoint).symm
  simp only [holds, ne_eq, located]
  cases patched : live.isPatched with
  | true =>
    have ran : ended = (.ok (.alreadyPatched live), disk) := run_patch_patched patched
    rw [ran]
    simp [eq_comm]
  | false =>
    rcases written : wrote with ⟨fault | _, after⟩
    · have ran : ended = (.error (backupFailure path fault), after) :=
        run_patch_unwritten patched written
      have spared := spared_of_failed written
      rw [ran]
      simp [spared, backupFailure, eq_comm]
    · have ran : ended = ((engineEndpoint live).map (.patched live.withOverrides), after) :=
        run_patch_written patched written
      have backed := backedUp_of_written patched written
      rw [ran]
      cases engine : engineEndpoint live with
      | error failure =>
        obtain ⟨-, rfl⟩ := (engineEndpoint_eq_error_iff live failure).mp engine
        simp [Except.map, backed, eq_comm]
      | ok endpoint => simp [Except.map, backed, eq_comm]

/-- The path `x/../x` leads through a directory `x` that is made for it, so the backup fails and
the directory stays. The path `l/../l` leads through the link that the backup replaces, so it
leads nowhere afterwards. -/
theorem patch_cases_through_itself :
    (¬ ∀ (mishap : Mishap) (path : Path) (live : LiveConfig) (disk : Disk) (failure : Failure),
      let ended := (patch (fun live => ExceptT.mk (writeBackup mishap path live)) live).run disk
      ended.1 = .error failure → failure.kind = .persistence →
        ended.2.object? path = disk.object? path) ∧
    ¬ ∀ (mishap : Mishap) (path : Path) (live : LiveConfig) (disk : Disk) (failure : Failure),
      let ended := (patch (fun live => ExceptT.mk (writeBackup mishap path live)) live).run disk
      ended.1 = .error failure → failure.kind = .missingField →
        ended.2.contents path = .ok (bytesOf live.pretty) := by
  let live : LiveConfig := .ofMembers []
  let contents := bytesOf live.pretty
  have unpatched : live.isPatched = false := by decide
  constructor
  · intro same
    have failed : (Disk.bare.writePrivate noMishap (.ofString "x/../x") contents).1 =
        .error (.os .isDirectory) := by cbv
    have there : (Disk.bare.writePrivate noMishap (.ofString "x/../x") contents).2.object?
        (.ofString "x/../x") = some .directory := by cbv
    have missing : Disk.bare.object? (.ofString "x/../x") = none := by cbv
    have ran := run_patch_unwritten unpatched (Prod.ext failed rfl)
    have kept := same noMishap _ live _ _ (congrArg Prod.fst ran) rfl
    rw [ran] at kept
    have clash := there.symm.trans (kept.trans missing)
    cases clash
  · intro held
    have fine : (Disk.linked.writePrivate noMishap (.ofString "l/../l") contents).1 = .ok () := by
      cbv
    have stopped : (Disk.linked.writePrivate noMishap (.ofString "l/../l") contents).2.contents
        (.ofString "l/../l") = .error (.os .notDirectory) := by cbv
    have ran := run_patch_written unpatched (Prod.ext fine rfl)
    have read := held noMishap _ live _ _ (congrArg Prod.fst ran) rfl
    rw [ran] at read
    have clash := stopped.symm.trans read
    cases clash

end backup

end RuntimeHandover.Kubelet
