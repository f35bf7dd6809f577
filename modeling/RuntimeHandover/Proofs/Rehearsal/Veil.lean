import RuntimeHandover.Proofs.Bootstrap.Reached
import RuntimeHandover.Proofs.Rehearsal.Scene
import RuntimeHandover.Rehearsal.World

/-! Rehearsed worlds that differ behind a veil over their disks, and perhaps in what the network
has seen. They answer alike what is asked of them, so a run cannot tell them apart. -/
namespace RuntimeHandover.Rehearsal
open Bootstrap Cluster Container Files Files.Veil Http Kubelet Socket Text

/-- Worlds whose disks are alike and whose networks are in a relation. What is still to happen to
the disks happens in front of the veil. -/
inductive Worlds (veil : Veil) (saved : Name) (net : Network → Network → Prop) (one : World) :
    World → Prop
  | mk {disk : Disk} {network : Network} (disks : veil.Disks saved one.disk disk)
      (networks : net one.network network) (later : ∀ due ∈ one.later, due.2.Clear veil)
      (links : ∀ reply ∈ one.docker.replies, ∀ path target,
        reply.2.link = some (path, target) → veil.Clear path.parts ∧ veil.Clear target.parts) :
      Worlds veil saved net one {one with disk, network}

section worlds

variable {veil : Veil} {saved : Name} {net : Network → Network → Prop}

theorem abreast_wire {trust : Trust} {request requestOther : Request}
    (steady : Abreast net Eq (Network.wire trust request) (Network.wire trust requestOther)) :
    Abreast (Worlds veil saved net) Eq (World.wire trust request)
      (World.wire trust requestOther) := by
  rintro one _ ⟨disks, networks, later, links⟩
  obtain ⟨same, after⟩ := steady _ _ networks
  exact ⟨same, .mk disks after later links⟩

private theorem abreast_backup {path : Path} (open_ : veil.Clear path.parts)
    (named : path.fileName?.getD [] = saved) {live liveOther : LiveConfig}
    (same : veil.contents (bytesOf live.pretty) (bytesOf liveOther.pretty)) :
    Act.Abreast (Worlds veil saved net) Eq
      (World.onDisk (ExceptT.mk (writeBackup noMishap path live)))
      (World.onDisk (ExceptT.mk (writeBackup noMishap path liveOther))) := by
  rintro one _ ⟨disks, networks, later, links⟩
  obtain ⟨ended, after⟩ := disks.writePrivate noMishap open_ named same
  have told := congrArg (Except.mapError (backupFailure path)) ended
  exact ⟨.of_eq told, .mk after networks later links⟩

private theorem abreast_stamp : Abreast (Worlds veil saved net) Eq World.stamp World.stamp := by
  rintro one _ ⟨disks, networks, later, links⟩
  exact ⟨rfl, .mk disks networks later links⟩

private theorem disks_relink {disk diskOther : Disk} (disks : veil.Disks saved disk diskOther)
    {link : Option (Path × Path)} (open_ : ∀ path target, link = some (path, target) →
      veil.Clear path.parts ∧ veil.Clear target.parts) :
    veil.Disks saved (Docker.relink disk link) (Docker.relink diskOther link) := by
  rcases link with _ | ⟨path, target⟩
  · exact disks
  · apply SetupStep.applyAll_veiled disks
    obtain ⟨clear, led⟩ := open_ path target rfl
    simp only [List.forall_mem_cons, List.not_mem_nil, false_implies, implies_true, and_true]
    exact ⟨clear, clear, led⟩

/-- A docker program that is told more keeps the replies that it was told before to every other
command. -/
theorem reply_retold (docker : Docker) (replies : List (String × Reply)) (args : List String) :
    (docker.retold replies).reply args =
      (replies.lookup (Docker.command args)).getD (docker.reply args) := by
  unfold Docker.reply Docker.retold
  rw [List.lookup_append]
  cases replies.lookup (Docker.command args) with
  | none => rfl
  | some reply => rfl

private theorem abreast_docker (args : List String) :
    Abreast (Worlds veil saved net) Eq ((World.dockerProgram "docker").run args)
      ((World.dockerProgram "docker").run args) := by
  rintro one _ ⟨disks, networks, later, links⟩
  unfold World.dockerProgram Docker.spawn
  dsimp only
  split
  next => exact ⟨rfl, .mk disks networks later links⟩
  split
  next =>
    refine ⟨rfl, .mk (disks_relink disks ?_) networks later links⟩
    intro path target linked
    unfold Docker.reply at linked
    cases found : one.docker.replies.lookup (Docker.command args) with
    | none =>
      rw [found] at linked
      cases linked
    | some reply =>
      rw [found] at linked
      obtain ⟨before, after, whole, -⟩ := List.lookup_eq_some_iff.mp found
      exact links (Docker.command args, reply) (by simp [whole]) path target linked
  next => exact ⟨rfl, .mk disks networks later links⟩

private theorem worlds_pass {one other : World} (worlds : Worlds veil saved net one other)
    (pause : Nat) :
    Worlds veil saved net (World.pass pause one) (World.pass pause other) := by
  obtain ⟨disks, networks, later, links⟩ := worlds
  unfold World.pass
  dsimp only
  rw [List.partition_eq_filter_filter]
  refine .mk (SetupStep.applyAll_veiled disks ?_) networks ?_ links
  · intro step isDue
    obtain ⟨due, inside, rfl⟩ := List.mem_map.mp isDue
    exact later due (List.mem_of_mem_filter inside)
  · exact fun due inside => later due (List.mem_of_mem_filter inside)

private theorem watches_rehearsed {path : Path} (open_ : veil.Clear path.parts) :
    Watches (Worlds veil saved net) (World.watch path) (World.watch path) where
  probe := by
    rintro one _ ⟨disks, networks, later, links⟩
    exact ⟨disks.accepts open_, .mk disks networks later links⟩
  now := by
    rintro one _ ⟨disks, networks, later, links⟩
    exact ⟨rfl, .mk disks networks later links⟩
  sleep pause := fun _ _ worlds => ⟨rfl, worlds_pass worlds pause⟩

/-- Records of one name are kept alike, where the network treats the posts of both alike. -/
private theorem abreast_publish (access : Access) {record recordOther : Record}
    (name : record.name = recordOther.name) (space : record.space = recordOther.space)
    (posts : ∀ trust url bearer, Abreast net Eq
      (Network.wire trust ⟨.post, url, bearer, bytesOf record.toConfigMap.compact⟩)
      (Network.wire trust ⟨.post, url, bearer, bytesOf recordOther.toConfigMap.compact⟩)) :
    Act.Abreast (Worlds veil saved net) Eq ((World.api access).publish record)
      ((World.api access).publish recordOther) := by
  have created : Abreast (Worlds veil saved net) Eq ((World.api access).create record)
      ((World.api access).create recordOther) := by
    unfold Api.create
    rw [space]
    dsimp only
    split
    next => exact .pure rfl
    next =>
      split
      next => exact .pure rfl
      next =>
        refine (abreast_wire (posts _ _ _)).bind ?_
        rintro answer _ rfl
        split
        next => exact .pure rfl
        next => exact .pure rfl
  refine (Act.Abreast.liftM created).bind ?_
  rintro answer _ rfl
  rw [name, space]
  split
  next => exact .pure rfl
  next => exact .throw _

/-- A run in the cluster reaches worlds that answer alike. -/
theorem alike_clustered {leeway : Leeway} (stamps : leeway.stamp = Eq) {config : Config}
    (access : Access) (backup : veil.Clear config.savedConfigPath.parts)
    (named : config.savedConfigPath.fileName?.getD [] = saved)
    (socket : veil.Clear config.proxySocketPath.parts)
    (contents : ∀ {live liveOther : LiveConfig}, leeway.live live liveOther →
      veil.contents (bytesOf live.pretty) (bytesOf liveOther.pretty))
    (wired : ∀ trust request,
      Abreast net Eq (Network.wire trust request) (Network.wire trust request))
    (posts : ∀ {record recordOther : Record}, leeway.Records record recordOther →
      ∀ trust url bearer, Abreast net Eq
        (Network.wire trust ⟨.post, url, bearer, bytesOf record.toConfigMap.compact⟩)
        (Network.wire trust ⟨.post, url, bearer, bytesOf recordOther.toConfigMap.compact⟩))
    {fetch fetchOther : Introspection → String → Act World LiveConfig}
    (fetched : ∀ introspection base, Act.Abreast (Worlds veil saved net) leeway.live
      (fetch introspection base) (fetchOther introspection base)) :
    Alike leeway (Worlds veil saved net) config
      {World.clustered access with fetchLive := fetch}
      {World.clustered access with fetchLive := fetchOther} where
  fetchLive := fetched
  save same := abreast_backup backup named (contents same)
  fetchNode introspection base :=
    abreast_fetchNode (fun request => abreast_wire (wired _ request)) base
  publish same := by
    have posted := posts same
    cases same with
    | forNode node same => exact abreast_publish access rfl rfl posted
  connect endpoint := by
    refine abreast_dockerConnect rfl abreast_docker ?_ endpoint
    intro m n stamped
    rwa [stamps] at stamped
  stamp := stamps ▸ abreast_stamp
  watch := watches_rehearsed socket

end worlds

end RuntimeHandover.Rehearsal
