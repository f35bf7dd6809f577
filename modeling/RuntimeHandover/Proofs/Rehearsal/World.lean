import Mathlib
import RuntimeHandover.Proofs.Bootstrap.Containers
import RuntimeHandover.Proofs.Bootstrap.Publishing
import RuntimeHandover.Proofs.Kubelet.Introspection
import RuntimeHandover.Proofs.Text.Utf8
import RuntimeHandover.Rehearsal.World

/-! The engine of a rehearsed world keeps its word: its roster changes as the effects of a
run say, and nothing else that a run reaches touches it. -/
namespace RuntimeHandover.Rehearsal
open Act Bootstrap Container Files Http Kubelet Socket

section wires

variable {σ τ : Type} {part : σ → τ} {wire : Wire σ}

private theorem keeps_follow (kept : ∀ request, Keeps part (wire request)) (origin : Request)
    (left : Nat)
    (url : Url) (authorization : Option String) :
    Keeps part (follow wire origin left url authorization) := by
  induction left generalizing url authorization with
  | zero =>
    unfold follow
    refine (kept _).bind ?_
    intro answered
    split
    · exact .pure _
    · split
      · exact .pure _
      · exact .pure _
  | succ left ih =>
    unfold follow
    refine (kept _).bind ?_
    intro answered
    split
    · exact .pure _
    · split
      · exact .pure _
      · dsimp only
        split
        · exact ih _ _
        · exact .pure _

private theorem keeps_get (kept : ∀ request, Keeps part (wire request)) (url : Url) :
    Keeps part (Http.get wire url) := by
  unfold Http.get
  dsimp only
  split
  · exact keeps_follow kept _ _ _ _
  · exact .pure _

theorem keeps_fetchObject (kept : ∀ request, Keeps part (wire request)) (base suffix : String) :
    Keeps part (fetchObject wire base suffix).run := by
  refine Keeps.run_bind (Keeps.pure _) ?_
  intro url
  refine Keeps.run_bind (Keeps.liftM (keeps_get kept url)) ?_
  intro answered
  split
  · exact Keeps.pure _
  · exact Keeps.pure _

end wires

structure Sound (roster : Roster) : Prop where
  distinct : Function.Injective roster.ids
  unused : ∀ container ∈ roster.containers, ∀ n, roster.made ≤ n → container.id ≠ roster.ids n

def engineRoom (world : World) : Option Path × Roster := (world.listens, world.roster)

def Trusty (world : World) : Prop := world.listens = none ∧ Sound world.roster

def containers (world : World) : List Roster.Member := world.roster.containers

private theorem keeps_onNetwork {α : Type} (action : StateM Network α) :
    Keeps engineRoom (World.onNetwork action) := fun _ => rfl

private theorem keeps_onDisk {α : Type} (action : Act Files.Disk α) :
    Keeps engineRoom (World.onDisk action).run := fun _ => rfl

/-- A record that is kept changes the records only. -/
theorem keeps_keepRecord {τ : Type} {part : World → τ}
    (same : ∀ world records, part {world with records} = part world) (record : Cluster.Record) :
    Keeps part (World.keepRecord record).run := by
  intro world
  unfold World.keepRecord
  rw [Act.run_bind, Act.run_get]
  dsimp only
  split
  · rfl
  · split
    · rfl
    · exact same world _

theorem trusty_of_same {before after : World} (same : engineRoom after = engineRoom before)
    (trusty : Trusty before) : Trusty after ∧ containers after = containers before := by
  obtain ⟨listens, roster⟩ := Prod.mk.injEq .. ▸ same
  unfold Trusty containers
  rw [listens, roster]
  exact ⟨trusty, rfl⟩

/-- A call to the roster is refused, or its work is done. -/
private theorem run_rosterCall {α : Type} (call : EngineCall) (work : Roster → α × Roster)
    (world : World) :
    let noted := {world.roster with calls := world.roster.calls ++ [call]}
    (∃ failure, (World.onRoster (Roster.call call work)).run world =
      (.error failure, {world with roster := noted})) ∨
    (World.onRoster (Roster.call call work)).run world =
      (.ok (work noted).1, {world with roster := (work noted).2}) := by
  intro noted
  cases refused : world.roster.refuse world.roster.calls.length call with
  | some failure =>
    refine .inl ⟨failure, ?_⟩
    simp only [World.onRoster, Roster.call, World.onPart, ExceptT.run, ExceptT.mk, refused, noted]
  | none =>
    refine .inr ?_
    simp only [World.onRoster, Roster.call, World.onPart, ExceptT.run, ExceptT.mk, refused, noted]

section engine

variable {world : World}

/-- A call that leaves the containers of a trusty world as they are, and says so. -/
private theorem idle_call {α : Type} {effect : Except Failure α → Effect} {action : Act World α}
    (kept : Keeps engineRoom action.run)
    (truthful : ∀ answer cs, (effect answer).Truthful cs ∧ (effect answer).change cs = cs)
    (trusty : Trusty world) :
    Trusty (action.run world).2 ∧ (effect (action.run world).1).Truthful (containers world) ∧
      containers (action.run world).2 = (effect (action.run world).1).change (containers world) := by
  obtain ⟨trusty, same⟩ := trusty_of_same (kept world) trusty
  obtain ⟨truthful, unchanged⟩ := truthful (action.run world).1 (containers world)
  exact ⟨trusty, truthful, same.trans unchanged.symm⟩

/-- A call to the engine, given what its work does to a sound roster. -/
private theorem roster_call {α : Type} (effect : Except Failure α → Effect) (call : EngineCall)
    (work : Roster → α × Roster)
    (refused : ∀ failure cs, (effect (.error failure)).Truthful cs ∧
      (effect (.error failure)).change cs = cs)
    (done : ∀ roster, Sound roster → Sound (work roster).2 ∧
      (effect (.ok (work roster).1)).Truthful roster.containers ∧
      (work roster).2.containers = (effect (.ok (work roster).1)).change roster.containers)
    (trusty : Trusty world) :
    let result := (World.onRoster (Roster.call call work)).run world
    Trusty result.2 ∧ (effect result.1).Truthful (containers world) ∧
      containers result.2 = (effect result.1).change (containers world) := by
  obtain ⟨listens, sound⟩ := trusty
  have noted_sound : Sound {world.roster with calls := world.roster.calls ++ [call]} :=
    ⟨sound.distinct, sound.unused⟩
  dsimp only
  obtain ⟨failure, same⟩ | same := run_rosterCall call work world
  · obtain ⟨truthful, unchanged⟩ := refused failure (containers world)
    rw [same]
    exact ⟨⟨listens, noted_sound⟩, truthful, unchanged.symm⟩
  · obtain ⟨soundly, truthful, changed⟩ := done _ noted_sound
    rw [same]
    exact ⟨⟨listens, soundly⟩, truthful, changed⟩

theorem connected_engine {publish : Cluster.Record → Act World Unit} {engine : Engine World}
    (reached : Connected (World.surroundings publish World.rosterConnect) engine) :
    engine = World.rosterEngine := by
  obtain ⟨endpoint, s, given⟩ := reached
  change ((World.rosterConnect endpoint).run s).1 = .ok engine at given
  unfold World.rosterConnect at given
  rw [Act.run_bind] at given
  split at given
  · cases given
    rfl
  · cases given

private theorem sound_without {roster : Roster} (sound : Sound roster) (id : String) :
    Sound (roster.without id) := by
  refine ⟨sound.distinct, ?_⟩
  intro container inside
  exact sound.unused container (List.mem_of_mem_filter inside)

private theorem sound_adding {roster : Roster} (sound : Sound roster) (spec : Spec) :
    Sound (roster.adding spec).2 := by
  refine ⟨sound.distinct, ?_⟩
  intro container inside n later
  have later : roster.made + 1 ≤ n := later
  rcases List.mem_append.mp inside with old | new
  · exact sound.unused container old n (by omega)
  · rw [List.mem_singleton.mp new]
    intro same
    have same := sound.distinct same
    omega

private theorem sound_running {roster : Roster} (sound : Sound roster) (id : String) :
    Sound (roster.running id) := by
  refine ⟨sound.distinct, ?_⟩
  intro container inside
  obtain ⟨before, there, rfl⟩ := List.mem_map.mp inside
  split
  · exact sound.unused before there
  · exact sound.unused before there

private theorem fresh_adding {roster : Roster} (sound : Sound roster) (spec : Spec) :
    (roster.adding spec).1 ∉ roster.containers.map (·.id) := by
  intro inside
  obtain ⟨container, there, same⟩ := List.mem_map.mp inside
  exact sound.unused container there roster.made (Nat.le_refl _) same

private theorem mem_listed (roster : Roster) (label id : String) :
    id ∈ roster.listed label ↔
      ∃ container ∈ roster.containers, container.hasLabel label ∧ container.id = id := by
  simp [Roster.listed, and_assoc]

theorem run_start (deaf : world.listens = none) (id : String) :
    (World.rosterEngine.start id).run world =
      (World.onRoster (Roster.engine.start id)).run world := by
  change (World.onRoster (Roster.engine.start id) >>= fun _ => World.startListening).run world = _
  have started := run_rosterCall (.start id) (fun roster => ((), roster.running id)) world
  obtain ⟨failure, same⟩ | same := started
  · exact (Act.run_bind_error same).trans same.symm
  · refine (Act.run_bind_ok same).trans (Eq.trans ?_ same.symm)
    unfold World.startListening
    rw [Act.run_bind, Act.run_get]
    dsimp only
    rw [deaf]
    rfl

theorem run_rosterConnect (endpoint : String) (world : World) :
    (World.rosterConnect endpoint).run world =
      (((World.onRoster (Roster.connect endpoint)).run world).1.map fun _ => World.rosterEngine,
        ((World.onRoster (Roster.connect endpoint)).run world).2) := by
  unfold World.rosterConnect
  rw [Act.run_bind]
  rcases (World.onRoster (Roster.connect endpoint)).run world with ⟨failure | engine, after⟩
  · rfl
  · rfl

end engine

/-- A rehearsed world with a roster is faithful, whatever its network and its disk are. -/
theorem faithful_roster :
    Faithful (World.surroundings World.keepRecord World.rosterConnect) Trusty containers where
  call := by
    intro α effect action asked world trusty
    cases asked with
    | fetchLive introspection base =>
      refine idle_call ?_ (fun _ _ => ⟨trivial, rfl⟩) trusty
      exact Keeps.run_bind (keeps_fetchObject (fun _ => keeps_onNetwork _) base configPath)
        fun _ => Keeps.pure _
    | save path live => exact idle_call (keeps_onDisk _) (fun _ _ => ⟨trivial, rfl⟩) trusty
    | fetchNode introspection base =>
      refine idle_call ?_ (fun _ _ => ⟨trivial, rfl⟩) trusty
      exact Keeps.run_bind (keeps_fetchObject (fun _ => keeps_onNetwork _) base statsPath)
        fun _ => Keeps.pure _
    | publish record =>
      exact idle_call (keeps_keepRecord (fun _ _ => rfl) record) (fun _ _ => ⟨trivial, rfl⟩) trusty
    | connect endpoint =>
      have called := roster_call (fun answer => .connect endpoint (answer.map fun _ => ()))
        (.connect endpoint) (fun roster => (Roster.engine, roster))
        (fun _ _ => ⟨trivial, rfl⟩) (fun roster sound => ⟨sound, trivial, rfl⟩) trusty
      have ran := run_rosterConnect endpoint world
      change Trusty ((World.rosterConnect endpoint).run world).2 ∧ True ∧
        containers ((World.rosterConnect endpoint).run world).2 = containers world
      rw [ran]
      exact ⟨called.1, trivial, called.2.2⟩
    | list engine reached label =>
      rw [connected_engine reached]
      exact roster_call (.list label) (.list label) (fun roster => (roster.listed label, roster))
        (fun _ _ => ⟨trivial, rfl⟩)
        (fun roster sound => ⟨sound, mem_listed roster label, rfl⟩) trusty
    | remove engine reached id =>
      rw [connected_engine reached]
      exact roster_call (.remove id) (.remove id) (fun roster => ((), roster.without id))
        (fun _ _ => ⟨trivial, rfl⟩)
        (fun roster sound => ⟨sound_without sound id, trivial, rfl⟩) trusty
    | pull engine reached image =>
      rw [connected_engine reached]
      exact roster_call (.pull image) (.pull image) (fun roster => ((), roster))
        (fun _ _ => ⟨trivial, rfl⟩)
        (fun roster sound => ⟨sound, trivial, rfl⟩) trusty
    | create engine reached spec =>
      rw [connected_engine reached]
      exact roster_call (.create spec) (.create spec) (Roster.adding spec)
        (fun _ _ => ⟨trivial, rfl⟩)
        (fun roster sound => ⟨sound_adding sound spec, fresh_adding sound spec, rfl⟩) trusty
    | start engine reached id =>
      rw [connected_engine reached, run_start trusty.1]
      exact roster_call (.start id) (.start id) (fun roster => ((), roster.running id))
        (fun _ _ => ⟨trivial, rfl⟩)
        (fun roster sound => ⟨sound_running sound id, trivial, rfl⟩) trusty
  probe path world trusty := trusty_of_same rfl trusty
  stamp trusty := trusty_of_same rfl trusty
  now path world trusty := trusty_of_same rfl trusty
  sleep path pause world trusty := trusty_of_same rfl trusty

section answering
open Cluster Json Text

def answeringLive : String :=
  "\x7b\"componentconfig\":\x7b\"dockerEndpoint\":\"unix:///d\"\x7d\x7d"

def answeringNode : String := "\x7b\"node\":\x7b\"nodeName\":\"n\"\x7d\x7d"

def answeringMade : String :=
  "\x7b\"apiVersion\":\"v1\",\"kind\":\"ConfigMap\",\"metadata\":\x7b\"name\":\"kubelet-n\"\x7d\x7d"

/-- A host whose kubelet and API answer at every address, with an old proxy that still runs. -/
def answering : World where
  disk := ⟨⟨[([bytesOf "s"], .socket true)]⟩, [], fun n => List.replicate n 0x78⟩
  network := {
    up := true
    routes := [
      ⟨configPath, some ⟨200, [], some (bytesOf answeringLive)⟩⟩,
      ⟨statsPath, some ⟨200, [], some (bytesOf answeringNode)⟩⟩,
      ⟨"/api/v1/namespaces/kube-system/configmaps?",
        some ⟨201, [], some (bytesOf answeringMade)⟩⟩] }
  docker := {name := "docker"}
  roster := ⟨[⟨"old", [(markerLabel, "true")], true, none⟩],
    fun n => String.ofList (List.replicate n 'x'), 0, [], fun _ _ => none⟩

def loopback (path : List String) : Url where
  scheme := "http"
  host := some (.ipv6 [0, 0, 0, 0, 0, 0, 0, 1])
  path := .segments path

theorem get_loopback (path : List String) :
    Request.get (loopback path) = ⟨.get, loopback path, none, []⟩ := by cbv

theorem received_plain (body : List UInt8) :
    received ⟨200, [], some body⟩ = some ⟨200, [], some body⟩ := by
  have taken : received ⟨200, [], some body⟩ =
      some ⟨200, [], some (body.take body.length)⟩ := by cbv
  rw [taken, List.take_length]

theorem fetched_plain {world : World} {trust : Trust} {suffix : String} (path : List String)
    (text : String) {members : List (String × Value)}
    (addressed : address "http://[::1]" suffix = .ok (loopback path))
    (sendable : isSendable (loopback path) = true)
    (answered : (World.wire trust (Request.get (loopback path)) world).1 =
      .ok ⟨200, [], some (bytesOf text)⟩)
    (parsed : parseValue (symbolsOf text) = .ok (.object members)) :
    (fetchObject (World.wire trust) "http://[::1]" suffix).run world =
      (.ok members, (World.wire trust (Request.get (loopback path)) world).2) := by
  apply fetchObject_eq_ok.mpr
  refine ⟨loopback path, ⟨200, [], some (bytesOf text)⟩, addressed, ?_, ?_⟩
  · refine get_of_answered ?_ (Prod.ext answered rfl) (received_plain (bytesOf text)) ?_
    · rw [get_loopback]
      exact sendable
    · rfl
  · rw [← Utf8.symbols_bytesOf] at parsed
    exact answeredObject_eq_ok.mpr ⟨rfl, bytesOf text, rfl, parsed⟩

def answeringConfig : Config :=
  ⟨"http://[::1]", "http://[::1]", .ofString "saved", "p", [], .ofString "/s"⟩

def answeringAccess : Access := ⟨{scheme := some "http", authority := "[::1]"}, [], ""⟩

def answered : LiveConfig := .ofMembers [("dockerEndpoint", .string "unix:///d")]

def answeringAsked : World := (World.wire .all (Request.get (loopback ["configz"])) answering).2

def answeringSaved : World :=
  ((World.onDisk (ExceptT.mk (writeBackup noMishap answeringConfig.savedConfigPath answered))).run
    answeringAsked).2

def answeringNamed : World :=
  (World.wire .all (Request.get (loopback ["stats", "summary"])) answeringSaved).2

def answeringRecord : Record := .forNode ⟨"n", by decide⟩ answered.withOverrides

def answeringKept : World :=
  {answeringNamed with records := answeringNamed.records ++ [answeringRecord]}

def AnsweringNetwork (network : Network) : Prop :=
  ∃ seen, network = {answering.network with seen}

theorem AnsweringNetwork.wire {network : Network} (answers : AnsweringNetwork network)
    (trust : Trust) (request : Request) :
    AnsweringNetwork (Network.wire trust request network).2 := by
  obtain ⟨seen, rfl⟩ := answers
  unfold Network.wire
  split
  · exact ⟨_, rfl⟩
  · exact ⟨seen, rfl⟩

/-- The worlds that a run goes through on the way to the record, as long as the kubelet is that
one. -/
def asking (world : World) : World :=
  (World.wire .all (Request.get (loopback ["configz"])) world).2

def saving (world : World) : World :=
  ((World.onDisk (ExceptT.mk (writeBackup noMishap answeringConfig.savedConfigPath answered))).run
    (asking world)).2

def naming (world : World) : World :=
  (World.wire .all (Request.get (loopback ["stats", "summary"])) (saving world)).2

/-- Its answers lead every run that can save them to publishing, whatever engine there is. -/
theorem approach_of_answers (publish : Record → Act World Unit) (connect : Connector World)
    {world : World} (answers : AnsweringNetwork world.network)
    (writes : (writeBackup noMishap answeringConfig.savedConfigPath answered world.disk).1 =
      .ok ()) :
    Approach (World.surroundings publish connect) {} answeringConfig world answered
      ⟨"n", by decide⟩ (asking world) (saving world) (naming world) where
  valid := by decide
  fetching := by
    obtain ⟨seen, network⟩ := answers
    refine fetchLiveConfig_eq_ok.mpr
      ⟨[("componentconfig", .object [("dockerEndpoint", .string "unix:///d")])],
        fetched_plain ["configz"] answeringLive (by cbv) (by cbv) ?_ (by cbv), rfl⟩
    change (Network.wire .all _ world.network).1 = _
    rw [network]
    cbv
  unpatched := by decide
  saving := Prod.ext writes rfl
  located := ⟨"unix:///d", by cbv⟩
  naming := by
    obtain ⟨seen, network⟩ := answers
    refine fetchNode_eq_ok.mpr ⟨[("node", .object [("nodeName", .string "n")])],
      fetched_plain ["stats", "summary"] answeringNode (by cbv) (by cbv) ?_ (by cbv), by cbv⟩
    change (Network.wire .all _ (Network.wire .all _ world.network).2).1 = _
    rw [network]
    cbv

theorem writes_answering :
    (writeBackup noMishap answeringConfig.savedConfigPath answered answering.disk).1 = .ok () := by
  cbv

/-- The kubelet's answers lead the run on that host to publishing. -/
theorem answering_approach :
    Approach (World.surroundings World.keepRecord World.rosterConnect) {} answeringConfig answering
      answered ⟨"n", by decide⟩ answeringAsked answeringSaved answeringNamed :=
  approach_of_answers World.keepRecord World.rosterConnect ⟨[], rfl⟩ writes_answering

theorem trusty_answering : Trusty answering := by
  refine ⟨rfl, ?_, ?_⟩
  · intro n m same
    have same := congrArg (fun text => text.toList.length) same
    simpa [answering] using same
  · intro container inside n _ same
    have same := congrArg String.toList same
    rw [List.mem_singleton.mp inside] at same
    have letters : "old".toList = List.replicate n 'x' := same.trans String.toList_ofList
    have first : 'o' ∈ List.replicate n 'x' := letters ▸ by decide
    exact absurd (List.eq_of_mem_replicate first) (by decide)

end answering

end RuntimeHandover.Rehearsal
