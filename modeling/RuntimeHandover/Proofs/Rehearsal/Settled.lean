import RuntimeHandover.Proofs.Rehearsal.Agreement

/-! Runs after one that published. Once the kubelet serves what was published, every later run
finds it patched and leaves the node alone. -/
namespace RuntimeHandover.Rehearsal
open Act Bootstrap Cluster Container Files Http Json Kubelet Socket Text

section quiet

variable {σ : Type} {reach : Surroundings σ} {options : Options} {config : Config}
  {live : LiveConfig} {s fetched : σ}

def Answering (reach : Surroundings σ) (options : Options) (config : Config) (s : σ) : Prop :=
  options.verifyProxyLiveness = true → ((reach.watch config.proxySocketPath).probe s).1 = true

def asked (reach : Surroundings σ) (options : Options) (config : Config) (s : σ) : σ :=
  if options.verifyProxyLiveness then ((reach.watch config.proxySocketPath).probe s).2 else s

private theorem verifyInstalled_quiet (answering : Answering reach options config s) :
    (verifyInstalled reach options config live).run s =
      (.ok .alreadyConfigured, asked reach options config s) := by
  unfold verifyInstalled asked
  cases checked : options.verifyProxyLiveness with
  | false => rfl
  | true =>
    have ready := answering checked
    simp only [Bool.not_true, Bool.false_eq_true, if_false, if_true]
    rw [Act.run_bind, Act.run_liftM, ready]
    rfl

/-- A kubelet that is patched, and whose proxy answers if it has to, is left alone. -/
private theorem run_quiet (valid : config.validate = .ok ())
    (fetching : (reach.fetchLive options.introspection config.configzBaseUrl).run s =
      (.ok live, fetched))
    (patched : live.isPatched = true) (answering : Answering reach options config fetched) :
    (run reach options config).run s =
      (.ok .alreadyConfigured, asked reach options config fetched) := by
  rw [run_patched valid fetching patched]
  exact verifyInstalled_quiet answering

/-- The proxy is asked for nothing but an answer, and the engine, the cluster and the disk
for nothing at all. -/
private theorem effects_quiet (valid : config.validate = .ok ())
    (fetching : (reach.fetchLive options.introspection config.configzBaseUrl).run s =
      (.ok live, fetched))
    (patched : live.isPatched = true) (answering : Answering reach options config fetched) :
    effects reach options config s = .fetchLive config.configzBaseUrl (.ok live) ::
      if options.verifyProxyLiveness then [.probe config.proxySocketPath true] else [] := by
  have quiet : Answering (noted reach) options config
      (fetched, [.fetchLive config.configzBaseUrl (.ok live)]) := answering
  unfold effects
  rw [run_quiet valid (run_note fetching) patched quiet]
  unfold asked
  cases checked : options.verifyProxyLiveness with
  | false => rfl
  | true => exact congrArg (fun ready => [_, Effect.probe _ ready]) (answering checked)

end quiet

structure Visit where
  others : World → World := id
  publish : Record → Act World Unit
  connect : Connector World
  options : Options
  config : Config

namespace Visit

variable (visit : Visit)

def reach : Surroundings World := World.surroundings visit.publish visit.connect

def run (world : World) : Except Failure Outcome × World :=
  (Bootstrap.run visit.reach visit.options visit.config).run (visit.others world)

/-- The run is given what it needs, the kubelet serves the value, and the proxy takes
connections if it has to. -/
structure Finds (value : Value) (world : World) : Prop where
  valid : visit.config.validate = .ok ()
  serves : Serves (World.wire (World.trustOf visit.options.introspection))
    visit.config.configzBaseUrl value (visit.others world)
  accepts : visit.options.verifyProxyLiveness = true →
    (visit.others world).disk.accepts visit.config.proxySocketPath = true

/-- The run finds everything done. It asks for the configuration, and for the proxy if it has
to, and changes nothing on the disk, in the engine or in the cluster. -/
structure LeavesAlone (live : LiveConfig) (world : World) : Prop where
  outcome : (visit.run world).1 = .ok .alreadyConfigured
  effects : effects visit.reach visit.options visit.config (visit.others world) =
    .fetchLive visit.config.configzBaseUrl (.ok live) ::
      if visit.options.verifyProxyLiveness then [.probe visit.config.proxySocketPath true] else []
  disk : (visit.run world).2.disk = (visit.others world).disk
  roster : (visit.run world).2.roster = (visit.others world).roster
  docker : (visit.run world).2.docker.ran = (visit.others world).docker.ran
  records : (visit.run world).2.records = (visit.others world).records

def after (world : World) (visits : List Visit) : World :=
  visits.foldl (fun world visit => (visit.run world).2) world

def Throughout (holds : Visit → World → Prop) (world : World) : List Visit → Prop
  | [] => True
  | visit :: later => holds visit world ∧ Throughout holds (visit.run world).2 later

private theorem Throughout.imp {holds weaker : Visit → World → Prop}
    (weaken : ∀ visit world, holds visit world → weaker visit world) {world : World}
    {visits : List Visit} (throughout : Throughout holds world visits) :
    Throughout weaker world visits := by
  induction visits generalizing world with
  | nil => trivial
  | cons visit later ih => exact ⟨weaken visit world throughout.1, ih throughout.2⟩

private def untouched (world : World) :=
  (world.disk, world.roster, world.docker.ran, world.records)

private theorem keeps_untouched {trust : Trust} {suffix : String}
    {read : List (String × Value) → Except Failure LiveConfig} :
    Keeps untouched (do Act.ofExcept (read (← fetchObject (World.wire trust) base suffix)) :
      Act World LiveConfig).run :=
  (keeps_fetchObject (fun _ _ => rfl) base suffix).run_bind fun _ => .pure _

variable {visit} {live : LiveConfig} {world : World}

private theorem leavesAlone_of_finds (patched : live.isPatched = true)
    (finds : visit.Finds live.toValue world) : visit.LeavesAlone live world := by
  obtain ⟨fetched, fetching⟩ : ∃ fetched,
      (visit.reach.fetchLive visit.options.introspection visit.config.configzBaseUrl).run
        (visit.others world) = (.ok live, fetched) := fetched_of_serves finds.serves
  have kept : untouched fetched = untouched (visit.others world) := keeps_untouched.same fetching
  have answering : Answering visit.reach visit.options visit.config fetched := by
    intro checked
    -- Who takes connections is a matter of the disk.
    have disk : fetched.disk = (visit.others world).disk := congrArg Prod.fst kept
    have ready := finds.accepts checked
    rw [← disk] at ready
    exact ready
  have ran : visit.run world = (.ok .alreadyConfigured, fetched) := by
    refine (run_quiet finds.valid fetching patched answering).trans ?_
    unfold asked
    split
    · rfl
    · rfl
  have noticed := effects_quiet finds.valid fetching patched answering
  simp only [untouched, Prod.mk.injEq] at kept
  obtain ⟨disk, roster, docker, records⟩ := kept
  exact ⟨by rw [ran], noticed, by rw [ran, disk], by rw [ran, roster], by rw [ran, docker],
    by rw [ran, records]⟩

private theorem disk_after {visits : List Visit}
    (alone : Throughout (LeavesAlone · live) world visits)
    (kept : ∀ visit ∈ visits, ∀ world, (visit.others world).disk = world.disk) :
    (after world visits).disk = world.disk := by
  induction visits generalizing world with
  | nil => rfl
  | cons visit later ih =>
    obtain ⟨here, kept⟩ := List.forall_mem_cons.mp kept
    exact (ih alone.2 kept).trans (alone.1.disk.trans (here world))

end Visit

theorem payload_forNode (node : NodeIdentity) (config : LiveConfig) :
    (Record.forNode node config).payload? = some config.compact := rfl

/-- What was published may stand in an answer as it is, and whenever the kubelet serves it,
whatever is around it, runs leave the node alone: none patches, saves or publishes again, and
none asks the engine for anything. -/
theorem settled_after_publishing {publish : Record → Act World Unit} {connect : Connector World}
    {options : Options} {config : Config} {world : World} {record : Record}
    (published : .publish record (.ok ()) ∈
      effects (World.surroundings publish connect) options config world) :
    ∃ payload live, record.payload? = some payload ∧ LiveConfig.parse payload = .ok live ∧
      Written (depthLimit - 1) payload.toList live.toValue ∧
      ∀ (start : World) (visits : List Visit),
        Visit.Throughout (Visit.Finds · live.toValue) start visits →
        Visit.Throughout (Visit.LeavesAlone · live) start visits ∧
        ((∀ visit ∈ visits, ∀ world, (visit.others world).disk = world.disk) →
          (Visit.after start visits).disk = start.disk) := by
  obtain ⟨live, node, fetched, _, _, approach, rfl, _⟩ := approach_of_publish published
  have readable : Readable (depthLimit - 1) live.withOverrides.toValue :=
    LiveConfig.readable_withOverrides (readable_of_fetched approach.fetching)
  refine ⟨live.withOverrides.compact, live.withOverrides, payload_forNode _ _,
    LiveConfig.parse_compact (LiveConfig.sound_of_readable readable), ?_, ?_⟩
  · have written := readable.written .tight 0
    rw [← printValue_eq] at written
    unfold LiveConfig.compact Value.compact
    rwa [String.toList_ofList]
  · intro start visits finds
    have alone := finds.imp fun _ _ => Visit.leavesAlone_of_finds live.isPatched_withOverrides
    exact ⟨alone, Visit.disk_after alone⟩

section answering

def serving (text : String) : Network where
  up := true
  routes := [⟨configPath, some ⟨200, [], some (bytesOf text)⟩⟩]

theorem get_serving {text : String} {world : World} (network : world.network = serving text) :
    Http.get (World.wire .all) (loopback ["configz"]) world =
      (.ok ⟨200, [], some (bytesOf text)⟩,
        (World.wire .all (Request.get (loopback ["configz"])) world).2) := by
  refine get_of_answered ?_ (Prod.ext ?_ rfl) (received_plain (bytesOf text)) ?_
  · rw [get_loopback]
    cbv
  · change (Network.wire .all (Request.get (loopback ["configz"])) world.network).1 = _
    rw [get_loopback, network]
    rfl
  · rfl

def restarted (text : String) (world : World) : World :=
  {world with disk := answering.disk, network := serving text}

theorem address_answering : address answeringConfig.configzBaseUrl configPath =
    .ok (loopback ["configz"]) := by cbv

def overriddenValue : Value :=
  .object [("kind", .string "KubeletConfiguration"),
    ("componentconfig", answered.withOverrides.toValue)]

private theorem readable_answered : Readable (depthLimit - 1) answered.withOverrides.toValue := by
  have whole : Readable (depthLimit - 1) (.object [("dockerEndpoint", .string "unix:///d")]) := by
    refine .object (by decide) (by decide) ?_
    intro member inside
    rw [List.mem_singleton.mp inside]
    exact .string _
  exact LiveConfig.readable_withOverrides whole

theorem holding_overridden :
    Holding answered.withOverrides.toValue (layValue .lined 0 overriddenValue) := by
  have readable : Readable depthLimit overriddenValue := by
    refine .object (by decide) (by decide) ?_
    simp only [List.forall_mem_cons, List.not_mem_nil, false_implies, implies_true, and_true]
    exact ⟨.string _, readable_answered⟩
  have held := Holding.mk .nil .nil (readable.written .lined 0) rfl
  rwa [List.nil_append, List.append_nil] at held

theorem pretty_overridden :
    overriddenValue.pretty = String.ofList (layValue .lined 0 overriddenValue) := by
  unfold Value.pretty
  rw [prettyValue_eq]

theorem serves_overridden {world : World}
    (network : world.network = serving overriddenValue.pretty) :
    Serves (World.wire .all) answeringConfig.configzBaseUrl answered.withOverrides.toValue world :=
  ⟨_, _, _, _, address_answering, get_serving network, rfl,
    congrArg (fun text => some (bytesOf text)) pretty_overridden, holding_overridden⟩

def laterRun (verify : Bool) : Visit where
  others := restarted overriddenValue.pretty
  publish := World.keepRecord
  connect := World.rosterConnect
  options := {verifyProxyLiveness := verify}
  config := answeringConfig

private theorem finds_restarted (verify : Bool) (world : World) :
    (laterRun verify).Finds answered.withOverrides.toValue world where
  valid := answering_approach.valid
  serves := serves_overridden rfl
  accepts := by
    intro _
    change answering.disk.accepts answeringConfig.proxySocketPath = true
    cbv

theorem approach_answering (connect : Connector World) :
    Approach (World.surroundings World.keepRecord connect) {} answeringConfig answering answered
      ⟨"n", by decide⟩ answeringAsked answeringSaved answeringNamed :=
  approach_of_answers World.keepRecord connect ⟨[], rfl⟩ writes_answering

theorem keeping_answering :
    (World.keepRecord answeringRecord).run answeringNamed = (.ok (), answeringKept) :=
  Prod.ext (by cbv) rfl

theorem published_answering (connect : Connector World) :
    Effect.publish answeringRecord (.ok ()) ∈
      effects (World.surroundings World.keepRecord connect) {} answeringConfig answering := by
  have published : Effect.publish answeringRecord
      ((World.keepRecord answeringRecord).run answeringNamed).1 ∈ _ :=
    (approach_answering connect).mem_effects
  rwa [keeping_answering] at published

theorem parsed_answering {payload : String} {live : LiveConfig}
    (holds : answeringRecord.payload? = some payload)
    (parsed : LiveConfig.parse payload = .ok live) :
    live = answered.withOverrides := by
  have given : some answered.withOverrides.compact = some payload := holds
  have sound := LiveConfig.sound_of_readable readable_answered
  rw [← Option.some.inj given, LiveConfig.parse_compact sound] at parsed
  exact (Except.ok.inj parsed).symm

/-- After the run on that host has published, runs that find the kubelet restarted leave it
alone. -/
theorem settled_after_publishing_answering :
    Effect.publish answeringRecord (.ok ()) ∈
      effects (World.surroundings World.keepRecord World.rosterConnect) {} answeringConfig
        answering ∧
    Visit.Throughout (Visit.Finds · answered.withOverrides.toValue) answeringKept
      [laterRun false, laterRun true] ∧
    Visit.Throughout (Visit.LeavesAlone · answered.withOverrides) answeringKept
      [laterRun false, laterRun true] := by
  have finds : Visit.Throughout (Visit.Finds · answered.withOverrides.toValue) answeringKept
      [laterRun false, laterRun true] :=
    ⟨finds_restarted false _, finds_restarted true _, trivial⟩
  refine ⟨published_answering _, finds, ?_⟩
  obtain ⟨payload, live, holds, parsed, _, settles⟩ :=
    settled_after_publishing (published_answering World.rosterConnect)
  rw [parsed_answering holds parsed] at settles
  exact (settles answeringKept _ finds).1

def markedText : String :=
  "\x7b\"$serde_json::private::Number\":true" ++
    (",\"componentconfig\":" ++ answered.withOverrides.compact ++ "\x7d")

private theorem parse_marked : ∃ fault, parseValue (symbolsOf markedText) = .error fault := by
  let member : Member :=
    { lead := []
      quoted := numberMark.toList
      key := numberMark
      gap := []
      item := ⟨[], ['t', 'r', 'u', 'e'], [], .bool true⟩ }
  have quotes : Quotes numberMark.toList numberMark.toList := quotes_escaped numberMark.toList
  have keyed : member.Keyed := ⟨.nil, quotes, .nil, .nil, .nil⟩
  unfold symbolsOf markedText
  rw [String.toList_append]
  exact parseValue_unmarked keyed rfl rfl rfl (by decide) _

/-- The kubelet answers with success, and with an object that has what was published as its
configuration, but the next run gets no configuration out of it. -/
theorem unsettled_by_mark :
    Effect.publish answeringRecord (.ok ()) ∈
      effects (World.surroundings World.keepRecord World.rosterConnect) {} answeringConfig
        answering ∧
    answeringRecord.payload? = some answered.withOverrides.compact ∧
    address answeringConfig.configzBaseUrl configPath = .ok (loopback ["configz"]) ∧
    (Http.get (World.wire .all) (loopback ["configz"]) (restarted markedText answeringKept)).1 =
      .ok ⟨200, [], some (bytesOf markedText)⟩ ∧
    answeringConfig.validate = .ok () ∧
    ∃ detail, ((run (World.surroundings World.keepRecord World.rosterConnect) {}
      answeringConfig).run (restarted markedText answeringKept)).1 =
        .error ⟨.decode, detail⟩ := by
  have got : Http.get _ _ (restarted markedText answeringKept) = _ := get_serving rfl
  obtain ⟨fault, refused⟩ := parse_marked
  rw [← Utf8.symbols_bytesOf] at refused
  have wrong : answeredObject (loopback ["configz"]).text
      ⟨200, [], some (bytesOf markedText)⟩ = .error _ := answeredObject_unparsed rfl rfl refused
  have fetched := fetchObject_answered address_answering got
  rw [wrong] at fetched
  have unfetched : ((World.surroundings World.keepRecord World.rosterConnect).fetchLive {}
      answeringConfig.configzBaseUrl).run (restarted markedText answeringKept) = _ :=
    Act.run_bind_error fetched
  refine ⟨published_answering _, payload_forNode _ _, address_answering, by rw [got],
    answering_approach.valid, ?_⟩
  rw [run_unfetched answering_approach.valid unfetched]
  exact ⟨_, rfl⟩

end answering

end RuntimeHandover.Rehearsal
