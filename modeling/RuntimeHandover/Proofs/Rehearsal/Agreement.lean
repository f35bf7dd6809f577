import RuntimeHandover.Proofs.Bootstrap.Publishing
import RuntimeHandover.Proofs.Cluster.Record
import RuntimeHandover.Proofs.Files.Document
import RuntimeHandover.Proofs.Kubelet.Introspection
import RuntimeHandover.Proofs.Rehearsal.World

/-! The backup of a configuration and its record in the cluster. A run that publishes has
saved what the kubelet answered, and its record is that with the overrides. -/
namespace RuntimeHandover.Rehearsal
open Act Bootstrap Cluster Container Files Http Json Kubelet Text

/-- A kubelet answers a fetch of its live configuration with an object that has it as a
member. -/
def Answers (wire : Wire World) (base : String) (world : World) (live : LiveConfig) : Prop :=
  ∃ url answer body members after, address base configPath = .ok url ∧
    Http.get wire url world = (.ok answer, after) ∧ answer.body = some body ∧
    parseValue (Utf8.symbols body) = .ok (.object members) ∧
    Members.get? "componentconfig" members = some live.toValue

section stages

variable {wire : Wire World} {base : String} {world after : World} {live : LiveConfig}

private theorem answers_of_fetched
    (fetched : (fetchLiveConfig wire base).run world = (.ok live, after)) :
    live.Sound ∧ Answers wire base world live := by
  obtain ⟨members, fetched, found⟩ := fetchLiveConfig_eq_ok.mp fetched
  obtain ⟨url, answer, addressed, got, answered⟩ := fetchObject_eq_ok.mp fetched
  obtain ⟨_, body, whole, parsed⟩ := answeredObject_eq_ok.mp answered
  obtain ⟨readable, member⟩ := LiveConfig.liveConfigIn_eq_ok parsed found
  exact ⟨LiveConfig.sound_of_readable readable, url, answer, body, members, after, addressed, got,
    whole, parsed, member⟩

private theorem keeps_disk {α : Type} {trust : Trust} {suffix : String}
    {read : List (String × Value) → Except Failure α} :
    Keeps World.disk (do Act.ofExcept (read (← fetchObject (World.wire trust) base suffix)) :
      Act World α).run :=
  (keeps_fetchObject (fun _ _ => rfl) base suffix).run_bind fun _ => .pure _

private theorem saved_filed {path : Path}
    (saved : (World.onDisk (ExceptT.mk (writeBackup noMishap path live))).run world =
      (.ok (), after)) :
    Disk.Filed noMishap world.disk after.disk path live.pretty := by
  have both := Prod.mk.inj saved
  obtain ⟨fine, rfl⟩ := both
  exact Disk.filed_written (Disk.writeBackup_eq_ok (Prod.ext fine rfl))

end stages

section posting

/-- A record can be posted: the token can stand in a header, and the API is reached. -/
def CanPost (access : Access) (network : Network) : Prop :=
  isHeaderText ("Bearer " ++ access.token) = true ∧
    network.reaches (.anchors access.anchors) (below access.root recordsPlace) = true

structure Posts (access : Access) (record : Record) (request : Request) : Prop where
  posted : request.method = .post
  place : request.url = below access.root recordsPlace
  body : request.body = bytesOf record.toConfigMap.compact

def World.told (world : World) (request : Request) : World :=
  {world with network := {world.network with seen := world.network.seen ++ [request]}}

def Makes (network : Network) (request : Request) : Prop :=
  ∃ answer whole, network.respond request = .ok answer ∧ received answer = some whole ∧
    published whole = .ok ()

private theorem wire_reached {trust : Trust} {request : Request} {world : World}
    (reached : world.network.reaches trust request.url = true) :
    World.wire trust request world =
      (world.network.respond request, world.told (Network.noted request)) := by
  change ((Network.wire trust request world.network).1,
    {world with network := (Network.wire trust request world.network).2}) = _
  unfold Network.wire
  rw [if_pos reached]
  rfl

private theorem wire_unreached {trust : Trust} {request : Request} {world : World}
    (unreached : ¬ world.network.reaches trust request.url = true) :
    World.wire trust request world = (.error .unreachable, world) := by
  change ((Network.wire trust request world.network).1,
    {world with network := (Network.wire trust request world.network).2}) = _
  unfold Network.wire
  rw [if_neg unreached]

variable {access : Access} {record : Record} {world : World}

private theorem api_bearer (access : Access) :
    ((World.api access).bearer?.map isHeaderText).getD true =
      isHeaderText ("Bearer " ++ access.token) := rfl

private theorem create_unposted (spaced : record.space = recordNamespace)
    (cannot : ¬ CanPost access world.network) :
    ∃ fault, (World.api access).create record world = (.error fault, world) := by
  have found : recordsTarget record.space = .ok recordsPlace :=
    spaced ▸ recordsTarget_namespace
  cases header : isHeaderText ("Bearer " ++ access.token) with
  | false => exact ⟨_, create_unsent found ((api_bearer access).trans header) world⟩
  | true =>
    have unreached : (World.api access).wire ((World.api access).making record recordsPlace)
        world = (.error .unreachable, world) :=
      wire_unreached fun reached => cannot ⟨header, reached⟩
    refine ⟨.wire .unreachable, ?_⟩
    rw [create_sent found ((api_bearer access).trans header) world, unreached]

private theorem respond_noted (network : Network) (request : Request) :
    network.respond (Network.noted request) = network.respond request := rfl

private theorem create_posted (spaced : record.space = recordNamespace)
    (can : CanPost access world.network) :
    ∃ request, Posts access record request ∧
      ((World.api access).create record world).2 = world.told request ∧
      (((World.api access).create record world).1 = .ok () ↔ Makes world.network request) := by
  have found : recordsTarget record.space = .ok recordsPlace :=
    spaced ▸ recordsTarget_namespace
  obtain ⟨header, reached⟩ := can
  let making := (World.api access).making record recordsPlace
  have answered : (World.api access).wire making world =
      (world.network.respond making, world.told (Network.noted making)) := wire_reached reached
  refine ⟨Network.noted making, ⟨rfl, rfl, rfl⟩, ?_⟩
  rw [create_sent found ((api_bearer access).trans header) world, answered]
  refine ⟨rfl, ?_⟩
  unfold Makes
  rw [respond_noted]
  dsimp only
  cases world.network.respond making with
  | error fault => simp
  | ok answer => cases whole : received answer with
    | none => simp [whole]
    | some _ => simp [whole]

/-- The API is asked once, for nothing else than to make the record, and publishing succeeds when
it answers with one. When it cannot be asked, publishing fails. -/
private theorem publish_posts (spaced : record.space = recordNamespace) (access : Access)
    (world : World) :
    let ended := ((World.api access).publish record).run world
    (CanPost access world.network ∧ ∃ request, Posts access record request ∧
      ended.2 = world.told request ∧ (ended.1 = .ok () ↔ Makes world.network request)) ∨
    ¬ CanPost access world.network ∧ (∃ failure, ended.1 = .error failure) ∧ ended.2 = world := by
  intro ended
  have ran : ended = _ := run_publish (World.api access) record world
  rw [ran]
  by_cases can : CanPost access world.network
  · obtain ⟨request, posts, told, makes⟩ := create_posted spaced can
    refine .inl ⟨can, request, posts, told, ?_⟩
    rw [← makes]
    cases ((World.api access).create record world).1 with
    | error fault => simp [Except.mapError]
    | ok _ => simp [Except.mapError]
  · obtain ⟨fault, failed⟩ := create_unposted spaced can
    rw [failed]
    exact .inr ⟨can, ⟨_, rfl⟩, rfl⟩

end posting

/-- Whenever a run publishes, the backup holds the configuration that the kubelet answered, and
the record of the node holds it with the overrides, which change their own keys only. That record
is what an API is asked for, once, and publishing succeeds when it answers with one; an API that
cannot be asked makes it fail. -/
theorem backup_and_record_agree {publish : Record → Act World Unit} {connect : Connector World}
    {options : Options} {config : Config} {world : World} {record : Record}
    {answer : Except Failure Unit}
    (published : .publish record answer ∈
      effects (World.surroundings publish connect) options config world) :
    ∃ live node fetched saved there,
      Approach (World.surroundings publish connect) options config world live node fetched saved
        there ∧ answer = ((publish record).run there).1 ∧
      Answers (World.wire (World.trustOf options.introspection)) config.configzBaseUrl world live ∧
      (∃ text, Disk.Filed noMishap world.disk there.disk config.savedConfigPath text ∧
        LiveConfig.parse text = .ok live) ∧
      Carries (bytesOf record.toConfigMap.compact) node.name live.withOverrides ∧
      (∀ key ∉ Members.keys Overrides.table, live.withOverrides.get? key = live.get? key) ∧
      (∀ entry ∈ Overrides.table, live.withOverrides.get? entry.1 = some entry.2) ∧
      live.keys <+: live.withOverrides.keys ∧
      ∀ access, let ended := ((World.api access).publish record).run there
        (CanPost access there.network ∧ ∃ request, Posts access record request ∧
          ended.2 = there.told request ∧ (ended.1 = .ok () ↔ Makes there.network request)) ∨
        ¬ CanPost access there.network ∧ (∃ failure, ended.1 = .error failure) ∧
          ended.2 = there := by
  obtain ⟨live, node, fetched, saved, named, approach, rfl, told⟩ := approach_of_publish published
  obtain ⟨sound, answers⟩ := answers_of_fetched approach.fetching
  have filed := saved_filed approach.saving
  have before : fetched.disk = world.disk := keeps_disk.same approach.fetching
  have after : named.disk = saved.disk := keeps_disk.same approach.naming
  rw [before, ← after] at filed
  refine ⟨live, node, fetched, saved, named, approach, told, answers,
    ⟨live.pretty, filed, LiveConfig.parse_pretty sound⟩,
    forNode_carries (LiveConfig.sound_withOverrides sound) node, ?_, ?_,
    LiveConfig.keys_withOverrides live, ?_⟩
  · intro key absent
    exact LiveConfig.get?_withOverrides_of_not_mem absent live
  · intro entry inside
    exact LiveConfig.get?_withOverrides_of_mem inside live
  · intro access
    exact publish_posts rfl access named

section answering

def answeringPlace : Url where
  scheme := "http"
  host := some (.ipv6 [0, 0, 0, 0, 0, 0, 0, 1])
  path := .plain "/api/v1/namespaces/kube-system/configmaps"
  query := some ""

private theorem below_answering : below answeringAccess.root recordsPlace = answeringPlace := by
  decide +kernel

private theorem canPost_answering {network : Network} (answers : AnsweringNetwork network) :
    CanPost answeringAccess network := by
  obtain ⟨seen, rfl⟩ := answers
  refine ⟨by cbv, ?_⟩
  rw [below_answering]
  rfl

private theorem makes_answering {network : Network} {request : Request}
    (answers : AnsweringNetwork network) (place : request.url = answeringPlace) :
    Makes network request := by
  obtain ⟨seen, rfl⟩ := answers
  have target : answeringPlace.target = "/api/v1/namespaces/kube-system/configmaps?" := by decide
  let made : Answer := ⟨201, [], some (bytesOf answeringMade)⟩
  have whole : received made = some made := by decide +kernel
  have read : (Cluster.published made).isOk = true := by decide +kernel
  refine ⟨made, made, ?_, whole, ?_⟩
  · unfold Network.respond
    rw [place, target]
    rfl
  · cases answer : Cluster.published made with
    | error fault =>
      rw [answer] at read
      cases read
    | ok _ => rfl

private theorem publish_answering {world : World} (answers : AnsweringNetwork world.network) :
    (((World.api answeringAccess).publish answeringRecord).run world).1 = .ok () := by
  have spaced : answeringRecord.space = recordNamespace := rfl
  obtain ⟨-, request, posts, -, made⟩ | ⟨cannot, -⟩ := publish_posts spaced answeringAccess world
  · exact made.mpr (makes_answering answers (posts.place.trans below_answering))
  · exact absurd (canPost_answering answers) cannot

/-- The run of a host whose kubelet answers saves what it answered, and posts it to the API. -/
theorem backup_and_record_agree_answering :
    let publish := (World.api answeringAccess).publish
    let run := effects (World.surroundings publish World.rosterConnect) {} answeringConfig answering
    ∃ record, .publish record (.ok ()) ∈ run ∧
      ∃ (live : LiveConfig) (node : NodeIdentity) (there : World) (text : String)
        (request : Request),
        Disk.Filed noMishap answering.disk there.disk answeringConfig.savedConfigPath text ∧
        LiveConfig.parse text = .ok live ∧ request.method = .post ∧
        Carries request.body node.name live.withOverrides ∧
        ((publish record).run there).2.network.seen = there.network.seen ++ [request] := by
  intro publish run
  have approach := approach_of_answers publish World.rosterConnect ⟨[], rfl⟩ writes_answering
  have answers : AnsweringNetwork answeringNamed.network :=
    (AnsweringNetwork.wire ⟨[], rfl⟩ .all (Request.get (loopback ["configz"]))).wire .all
      (Request.get (loopback ["stats", "summary"]))
  have ok : ((publish answeringRecord).run answeringNamed).1 = .ok () := publish_answering answers
  have published : Effect.publish answeringRecord ((publish answeringRecord).run answeringNamed).1 ∈
      run := approach.mem_effects
  rw [ok] at published
  obtain ⟨live, node, _, _, there, -, told, -, ⟨text, filed, parsed⟩, carries, -, -, -, posting⟩ :=
    backup_and_record_agree published
  obtain ⟨-, request, posts, seen, -⟩ | ⟨-, ⟨failure, failed⟩, -⟩ := posting answeringAccess
  · exact ⟨_, published, live, node, there, text, request, filed, parsed, posts.posted,
      posts.body ▸ carries, by rw [seen]; rfl⟩
  · rw [show ((publish answeringRecord).run there).1 = _ from failed] at told
    cases told

end answering

end RuntimeHandover.Rehearsal
