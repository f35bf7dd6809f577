import RuntimeHandover.Proofs.Bootstrap.Recovery

/-! Two runs of a node whose kubelet answers the same both times. A run that comes to the engine
has left a record in the cluster, and the recorder makes no second one of the same name. -/
namespace RuntimeHandover.Bootstrap
open Act Cluster Container Files Http Kubelet Rehearsal Socket

/-- A recorder that works as long as the names of its records are known. It makes a record unless
there is one of its name, and nothing else changes the records. -/
structure Keeper {σ : Type} (reach : Surroundings σ) (names? : σ → Option (List String)) :
    Prop where
  taken {record : Record} {s : σ} {names : List String} (known : names? s = some names)
    (there : record.name ∈ names) : ∃ detail after,
      (reach.publish record).run s = (.error ⟨.publish, detail⟩, after) ∧ names? after = some names
  free {record : Record} {s : σ} {names : List String} (known : names? s = some names)
    (missing : record.name ∉ names) : ∃ after,
      (reach.publish record).run s = (.ok (), after) ∧ names? after = some (names ++ [record.name])
  other {α : Type} {effect : Except Failure α → Effect} {action : Act σ α}
    (asked : Call reach effect action)
    (unrecorded : ∀ answer, (effect answer).stage? ≠ some .record) : Keeps names? action.run
  probe (path : Path) : Keeps names? (reach.watch path).probe
  stamp : Keeps names? reach.stamp
  now (path : Path) : Keeps names? (reach.watch path).now
  sleep (path : Path) (pause : Nat) : Keeps names? ((reach.watch path).sleep pause)

section records

variable {σ : Type} {reach : Surroundings σ} {names? : σ → Option (List String)} {s t : σ}
  {names : List String}

/-- A call takes no record away, and the one that it makes is there. -/
private theorem Keeper.call (keeper : Keeper reach names?) {α : Type}
    {effect : Except Failure α → Effect}
    {action : Act σ α} (asked : Call reach effect action) (known : names? s = some names) :
    ∃ later, names? (action.run s).2 = some later ∧ names ⊆ later ∧
      ∀ record, effect (action.run s).1 = .publish record (.ok ()) → record.name ∈ later := by
  have untouched (unrecorded : ∀ answer, (effect answer).stage? ≠ some .record) :
      ∃ later, names? (action.run s).2 = some later ∧ names ⊆ later ∧
        ∀ record, effect (action.run s).1 = .publish record (.ok ()) → record.name ∈ later := by
    refine ⟨names, (keeper.other asked unrecorded s).trans known, List.Subset.refl _, ?_⟩
    intro record published
    exact absurd (congrArg Effect.stage? published) (unrecorded _)
  cases asked with
  | publish record =>
    by_cases there : record.name ∈ names
    · obtain ⟨detail, after, refused, same⟩ := keeper.taken known there
      rw [refused]
      exact ⟨names, same, List.Subset.refl _, nofun⟩
    · obtain ⟨after, made, more⟩ := keeper.free known there
      rw [made]
      refine ⟨_, more, List.subset_append_left _ _, ?_⟩
      intro record same
      cases same
      simp
  | _ => exact untouched fun _ => by simp [Effect.stage?]

/-- A record that was made stays to the end. -/
private theorem Keeper.goes (keeper : Keeper reach names?) {effects : List Effect}
    (goes : Goes reach s effects t) (known : names? s = some names) :
    ∃ later, names? t = some later ∧ names ⊆ later ∧
      ∀ record, .publish record (.ok ()) ∈ effects → record.name ∈ later := by
  induction goes generalizing names with
  | still s => exact ⟨names, known, List.Subset.refl _, by simp⟩
  | call asked _ ih =>
    obtain ⟨between, kept, more, made⟩ := keeper.call asked known
    obtain ⟨later, known, grown, there⟩ := ih kept
    refine ⟨later, known, List.Subset.trans more grown, ?_⟩
    intro record published
    rcases List.mem_cons.mp published with first | rest
    · exact grown (made record first.symm)
    · exact there record rest
  | probe path _ ih =>
    obtain ⟨later, known, grown, there⟩ := ih ((keeper.probe path _).trans known)
    exact ⟨later, known, grown, by simpa using there⟩
  | stamp _ ih => exact ih ((keeper.stamp _).trans known)
  | now path _ ih => exact ih ((keeper.now path _).trans known)
  | sleep path pause _ ih => exact ih ((keeper.sleep path pause _).trans known)

end records

section runs

variable {σ : Type} {reach : Surroundings σ} {options : Options} {config : Config}
  {s fetched saved named : σ} {live : LiveConfig} {node : NodeIdentity} {endpoint : String}

/-- A run finds a kubelet that answers with the configuration and the node, and can save the
configuration. -/
structure Finds (reach : Surroundings σ) (options : Options) (config : Config) (s : σ)
    (live : LiveConfig) (node : NodeIdentity) (fetched saved named : σ) : Prop where
  valid : config.validate = .ok ()
  fetching : (reach.fetchLive options.introspection config.configzBaseUrl).run s =
    (.ok live, fetched)
  saving : (reach.save config.savedConfigPath live).run fetched = (.ok (), saved)
  naming : (reach.fetchNode options.introspection config.statsBaseUrl).run saved =
    (.ok node, named)

private theorem Finds.approach (finds : Finds reach options config s live node fetched saved named)
    (unpatched : live.isPatched = false) (located : engineEndpoint live = .ok endpoint) :
    Approach reach options config s live node fetched saved named :=
  ⟨finds.valid, finds.fetching, unpatched, finds.saving, ⟨endpoint, located⟩, finds.naming⟩

private theorem Approach.finds
    (approach : Approach reach options config s live node fetched saved named) :
    Finds reach options config s live node fetched saved named :=
  ⟨approach.valid, approach.fetching, approach.saving, approach.naming⟩

/-- A run of an unpatched node that comes to the engine, or to the socket, has left its record. -/
private theorem recorded_of_raising {names? : σ → Option (List String)} {names : List String}
    (keeper : Keeper reach names?) (known : names? s = some names)
    (fetching : .fetchLive config.configzBaseUrl (.ok live) ∈ effects reach options config s)
    (unpatched : live.isPatched = false)
    (raising : ∃ effect ∈ effects reach options config s, effect.stage? = none) :
    ∃ node endpoint kept, engineEndpoint live = .ok endpoint ∧
      .fetchNode config.statsBaseUrl (.ok node) ∈ effects reach options config s ∧
      names? ((run reach options config).run s).2 = some kept ∧
      (Record.forNode node live.withOverrides).name ∈ kept := by
  obtain ⟨_, last, _, more⟩ := keeper.goes (run_goes reach options config s) known
  have course := run_course reach options config s
  generalize effects reach options config s = trace at *
  generalize ((run reach options config).run s).1 = result at course
  obtain ⟨rest, rfl⟩ := course_fetched course fetching
  obtain ⟨effect, inside, engine⟩ := raising
  cases course with
  | @bootstrapping _ _ _ endpoint located node _ _ raising =>
    rw [engineEndpoint_withOverrides] at located
    exact ⟨node, endpoint, _, located, by simp, last, more _ (by simp)⟩
  | _ =>
    -- All that the other courses of such a node ask for belongs to a stage.
    cases effect with
    | _ => simp_all [Effect.stage?]

private theorem Finds.known (finds : Finds reach options config s live node fetched saved named)
    {names? : σ → Option (List String)} (keeper : Keeper reach names?) :
    names? named = names? s := by
  have naming := keeper.other (.fetchNode options.introspection config.statsBaseUrl)
    (fun _ => by simp [Effect.stage?])
  have saving := keeper.other (.save config.savedConfigPath live) (fun _ => by simp [Effect.stage?])
  have fetching := keeper.other (.fetchLive options.introspection config.configzBaseUrl)
    (fun _ => by simp [Effect.stage?])
  exact (naming.same finds.naming).trans
    ((saving.same finds.saving).trans (fetching.same finds.fetching))

end runs

section retrying

variable {σ : Type} {reach : Surroundings σ} {sound : σ → Prop}
  {containers : σ → List Roster.Member} {options : Options} {config : Config}
  {s fetched saved named : σ} {live : LiveConfig} {node : NodeIdentity} {endpoint : String}

/-- A run was turned away by the recorder. It came to no engine, and no container is other than
it was. -/
structure TurnedAway (reach : Surroundings σ) (containers : σ → List Roster.Member)
    (options : Options) (config : Config) (live : LiveConfig) (node : NodeIdentity) (s : σ) :
    Prop where
  refused : ∃ detail, ((run reach options config).run s).1 = .error ⟨.publish, detail⟩ ∧
    effects reach options config s = leading config live node (.error ⟨.publish, detail⟩)
  untouched : containers ((run reach options config).run s).2 = containers s

/-- Once the record is made, no call to the engine fails, and the socket is answered in time after
the proxy was started. -/
structure Willing (reach : Surroundings σ) (options : Options) (config : Config)
    (record : Record) (endpoint : String) (s named : σ) : Prop where
  accepts : ∀ effect ∈ effects reach options config s, effect.stage? = none → effect.failed = false
  answered : ∀ id raised,
    (raise reach config endpoint).run ((reach.publish record).run named).2 = (.ok id, raised) →
      InTime (reach.watch config.proxySocketPath) options.readiness raised

/-- A run got through. One container has the label, which runs, made for the engine of the
endpoint. -/
def HandedOver (reach : Surroundings σ) (containers : σ → List Roster.Member) (options : Options)
    (config : Config) (endpoint : String) (s : σ) : Prop :=
  ∃ id suffix, let spec := Spec.proxy endpoint config.proxyPath config.proxyArgs suffix
    ((run reach options config).run s).1 = .ok (.bootstrapped id) ∧
    labelled (containers ((run reach options config).run s).2) =
      [⟨id, spec.labels, true, some spec⟩]

private theorem turnedAway_of_approach (faithful : Faithful reach sound containers)
    (holds : sound s)
    (approach : Approach reach options config s live node fetched saved named)
    {detail : String} {after : σ}
    (refused : (reach.publish (.forNode node live.withOverrides)).run named =
      (.error ⟨.publish, detail⟩, after)) :
    TurnedAway reach containers options config live node s := by
  obtain ⟨ran, noticed⟩ := approach.ends refused
  obtain ⟨_, told_after⟩ := (run_goes reach options config s).told faithful holds
  refine ⟨⟨detail, congrArg Prod.fst ran, noticed⟩, ?_⟩
  rw [told_after, noticed]
  rfl

private theorem handedOver_of_approach (faithful : Faithful reach sound containers)
    (holds : sound s)
    (approach : Approach reach options config s live node fetched saved named)
    (located : engineEndpoint live = .ok endpoint) {after : σ}
    (made : (reach.publish (.forNode node live.withOverrides)).run named = (.ok (), after))
    (willing : Willing reach options config (.forNode node live.withOverrides) endpoint s named) :
    HandedOver reach containers options config endpoint s := by
  obtain ⟨raising, ran, noticed⟩ := approach.raises located made
  obtain ⟨told, told_after⟩ := (run_goes reach options config s).told faithful holds
  have accepts := willing.accepts
  have answered := willing.answered
  rw [made] at answered
  rw [noticed] at told told_after accepts
  obtain ⟨id, raised⟩ := installAndWait_in_time rfl
    (fun effect inside => accepts effect (List.mem_append_right _ inside)) answered
  rw [raised] at raising ran
  -- What a run does before it raises the proxy leaves the containers alone.
  obtain ⟨suffix, _, only⟩ := raising_labelled raising (along_append.mp told).2
  refine ⟨id, suffix, congrArg Prod.fst ran, ?_⟩
  rw [told_after, afterwards_append]
  exact only

/-- A run that came to the engine, or to the socket, and failed there can be made up for once the
record that it left is gone. As long as the record is there, every later run that finds the same
kubelet is turned away. -/
theorem retried_once_unrecorded {names? : σ → Option (List String)} {names : List String}
    (keeper : Keeper reach names?) (known : names? s = some names)
    (fetching : .fetchLive config.configzBaseUrl (.ok live) ∈ effects reach options config s)
    (unpatched : live.isPatched = false)
    (raising : ∃ effect ∈ effects reach options config s, effect.stage? = none) :
    ∃ node endpoint kept, let record := Record.forNode node live.withOverrides
      engineEndpoint live = .ok endpoint ∧
      .fetchNode config.statsBaseUrl (.ok node) ∈ effects reach options config s ∧
      names? ((run reach options config).run s).2 = some kept ∧ record.name ∈ kept ∧
      ∀ {τ : Type} {later : Surroundings τ} {laterNames? : τ → Option (List String)}
        {sound : τ → Prop} {containers : τ → List Roster.Member} {laterOptions : Options}
        {laterConfig : Config} {t fetched saved named : τ} {there : List String},
        Keeper later laterNames? → Faithful later sound containers →
        laterNames? t = some there → sound t →
        Finds later laterOptions laterConfig t live node fetched saved named →
        (record.name ∈ there → TurnedAway later containers laterOptions laterConfig live node t) ∧
        (record.name ∉ there → Willing later laterOptions laterConfig record endpoint t named →
          HandedOver later containers laterOptions laterConfig endpoint t) := by
  obtain ⟨node, endpoint, kept, located, named, last, recorded⟩ :=
    recorded_of_raising keeper known fetching unpatched raising
  refine ⟨node, endpoint, kept, located, named, last, recorded, ?_⟩
  intro τ later laterNames? sound containers laterOptions laterConfig t fetched saved named there
    keeper faithful known holds finds
  have approach := finds.approach unpatched located
  have known : laterNames? named = some there := (finds.known keeper).trans known
  constructor
  · intro present
    obtain ⟨detail, after, refused, _⟩ := keeper.taken known present
    exact turnedAway_of_approach faithful holds approach refused
  · intro missing willing
    obtain ⟨after, made, _⟩ := keeper.free known missing
    exact handedOver_of_approach faithful holds approach located made willing

end retrying

section hesitant

def recordNames (world : World) : Option (List String) :=
  match world.recorderFault with
  | some _ => none
  | none => some (world.records.map (·.name))

private theorem keeps_recordNames_onRoster {α : Type} (action : Act Roster α) :
    Keeps recordNames (World.onRoster action).run := fun _ => rfl

private theorem keeps_recordNames_startListening : Keeps recordNames World.startListening.run := by
  intro world
  unfold World.startListening
  rw [Act.run_bind, Act.run_get]
  dsimp only
  split
  · rfl
  · rfl

private theorem run_keepRecord {world : World} (works : world.recorderFault = none)
    (record : Record) :
    (World.keepRecord record).run world =
      if world.records.any (·.name == record.name) then
        (.error ⟨.publish, s!"{record.name} already exists"⟩, world)
      else (.ok (), {world with records := world.records ++ [record]}) := by
  unfold World.keepRecord
  rw [Act.run_bind, Act.run_get]
  dsimp only
  rw [works]
  dsimp only
  split
  · rfl
  · rfl

private theorem recordNames_eq_some {world : World} {names : List String}
    (known : recordNames world = some names) :
    world.recorderFault = none ∧ names = world.records.map (·.name) := by
  unfold recordNames at known
  split at known
  · cases known
  · exact ⟨‹_›, (Option.some.inj known).symm⟩

/-- A rehearsed world keeps its records. -/
private theorem keeper_rehearsed :
    Keeper (World.surroundings World.keepRecord World.rosterConnect) recordNames where
  taken {record world names} known there := by
    obtain ⟨works, rfl⟩ := recordNames_eq_some known
    have present : world.records.any (·.name == record.name) = true := by simpa using there
    exact ⟨s!"{record.name} already exists", world,
      (run_keepRecord works record).trans (if_pos present), known⟩
  free {record world names} known missing := by
    obtain ⟨works, rfl⟩ := recordNames_eq_some known
    have absent : ¬ world.records.any (·.name == record.name) = true := by simpa using missing
    refine ⟨_, (run_keepRecord works record).trans (if_neg absent), ?_⟩
    simp [recordNames, works]
  other asked unrecorded := by
    cases asked with
    | fetchLive introspection base =>
      exact Keeps.run_bind (keeps_fetchObject (fun _ _ => rfl) base configPath)
        fun _ => Keeps.pure _
    | save path live => exact fun _ => rfl
    | fetchNode introspection base =>
      exact Keeps.run_bind (keeps_fetchObject (fun _ _ => rfl) base statsPath)
        fun _ => Keeps.pure _
    | publish record => exact absurd rfl (unrecorded (.ok ()))
    | connect endpoint =>
      exact Keeps.run_bind (keeps_recordNames_onRoster _) fun _ => Keeps.pure _
    | list engine reached label | remove engine reached id | pull engine reached image
    | create engine reached spec =>
      rw [connected_engine reached]
      exact keeps_recordNames_onRoster _
    | start engine reached id =>
      rw [connected_engine reached]
      exact Keeps.run_bind (keeps_recordNames_onRoster _) fun _ => keeps_recordNames_startListening
  probe _ _ := rfl
  stamp _ := rfl
  now _ _ := rfl
  sleep _ _ _ := rfl

def hesitant : World := {answering with
  roster := {answering.roster with
    refuse := fun n _ => if n = 0 then some ⟨.engineUnreachable, "connection refused"⟩ else none}}

private theorem located_unpatched : engineEndpoint answered = .ok "unix:///d" := rfl

def hesitated (records : List Record) : World := {naming hesitant with
  roster := {hesitant.roster with calls := [.connect "unix:///d"]}
  records := records}

private theorem approach_hesitant :
    Approach (World.surroundings World.keepRecord World.rosterConnect) {} answeringConfig hesitant
      answered ⟨"n", by decide⟩ (asking hesitant) (saving hesitant) (naming hesitant) :=
  approach_of_answers World.keepRecord World.rosterConnect ⟨[], rfl⟩ writes_answering

private theorem approach_hesitated (records : List Record) :
    Approach (World.surroundings World.keepRecord World.rosterConnect) {} answeringConfig
      (hesitated records) answered ⟨"n", by decide⟩ (asking (hesitated records))
      (saving (hesitated records)) (naming (hesitated records)) := by
  have answers : AnsweringNetwork (hesitated records).network :=
    (AnsweringNetwork.wire ⟨[], rfl⟩ .all (Request.get (loopback ["configz"]))).wire .all
      (Request.get (loopback ["stats", "summary"]))
  have writes : (writeBackup noMishap answeringConfig.savedConfigPath answered
      (saving hesitant).disk).1 = .ok () := by cbv
  exact approach_of_answers World.keepRecord World.rosterConnect answers writes

private theorem refused_hesitant :
    (run (World.surroundings World.keepRecord World.rosterConnect) {} answeringConfig).run
        hesitant =
      (.error ⟨.engineUnreachable, "connection refused"⟩, hesitated [answeringRecord]) ∧
    effects (World.surroundings World.keepRecord World.rosterConnect) {} answeringConfig hesitant =
      leading answeringConfig answered ⟨"n", by decide⟩ (.ok ()) ++
        [.connect "unix:///d" (.error ⟨.engineUnreachable, "connection refused"⟩)] := by
  have made : (World.keepRecord answeringRecord).run (naming hesitant) =
      (.ok (), {naming hesitant with records := [answeringRecord]}) := run_keepRecord rfl _
  obtain ⟨_, ran, noticed⟩ := approach_hesitant.raises located_unpatched made
  exact ⟨ran, noticed⟩

private theorem trusty_hesitated (records : List Record) : Trusty (hesitated records) := by
  obtain ⟨deaf, sound⟩ := trusty_answering
  exact ⟨deaf, sound.distinct, sound.unused⟩

def recorded : World := {naming (hesitated []) with records := [answeringRecord]}

private theorem made_hesitated :
    (World.keepRecord answeringRecord).run (naming (hesitated [])) = (.ok (), recorded) :=
  run_keepRecord rfl _

def recordedEffects : List Effect :=
  ((installAndWait (noted (World.surroundings World.keepRecord World.rosterConnect)) {}
    answeringConfig "unix:///d").run (recorded, [])).2.2

private theorem recorded_accepts : ∀ effect ∈ recordedEffects, effect.failed = false :=
  accepted_of_all (by cbv)

private theorem willing_hesitated :
    Willing (World.surroundings World.keepRecord World.rosterConnect) {} answeringConfig
      answeringRecord "unix:///d" (hesitated []) (naming (hesitated [])) where
  accepts := by
    intro effect inside engine
    obtain ⟨_, _, noticed⟩ := (approach_hesitated []).raises located_unpatched made_hesitated
    rw [noticed] at inside
    rcases List.mem_append.mp inside with early | late
    · simp only [leading, List.mem_cons, List.not_mem_nil, or_false] at early
      rcases early with rfl | rfl | rfl | rfl
      all_goals rfl
    · exact recorded_accepts effect late
  answered := by
    intro id raised ran
    change (raise _ _ _).run ((World.keepRecord answeringRecord).run _).2 = _ at ran
    rw [made_hesitated] at ran
    have there : ((raise (World.surroundings World.keepRecord World.rosterConnect) answeringConfig
      "unix:///d").run recorded).2 = raised := congrArg Prod.snd ran
    rw [← there]
    have tries : mostTries ({} : Options).readiness = 100 + 1 := by decide
    unfold InTime
    rw [tries]
    exact .now (by cbv)

/-- Two runs of a node whose engine cannot be reached at first, and one more after the record was
removed. -/
theorem retried_once_unrecorded_hesitant :
    let reach := World.surroundings World.keepRecord World.rosterConnect
    ((run reach {} answeringConfig).run hesitant).1 =
      .error ⟨.engineUnreachable, "connection refused"⟩ ∧
    TurnedAway reach Rehearsal.containers {} answeringConfig answered ⟨"n", by decide⟩
      ((run reach {} answeringConfig).run hesitant).2 ∧
    HandedOver reach Rehearsal.containers {} answeringConfig "unix:///d"
      {((run reach {} answeringConfig).run hesitant).2 with records := []} := by
  intro reach
  obtain ⟨ran, noticed⟩ := refused_hesitant
  have fetching : .fetchLive answeringConfig.configzBaseUrl (.ok answered) ∈
      effects reach {} answeringConfig hesitant := noticed ▸ by simp [leading]
  have raising : ∃ effect ∈ effects reach {} answeringConfig hesitant, effect.stage? = none :=
    ⟨.connect "unix:///d" (.error ⟨.engineUnreachable, "connection refused"⟩),
      noticed ▸ by simp, rfl⟩
  obtain ⟨node, endpoint, kept, located, named, last, recorded, onward⟩ :=
    retried_once_unrecorded keeper_rehearsed rfl fetching (by decide) raising
  obtain rfl : "unix:///d" = endpoint := Except.ok.inj (located_unpatched.symm.trans located)
  obtain rfl : node = ⟨"n", by decide⟩ := by
    rw [noticed] at named
    simpa [leading] using named
  rw [ran] at last ⊢
  refine ⟨rfl, ?_, ?_⟩
  · have again := onward keeper_rehearsed faithful_roster last (trusty_hesitated _)
      (approach_hesitated [answeringRecord]).finds
    exact again.1 recorded
  · have again := onward keeper_rehearsed faithful_roster rfl (trusty_hesitated [])
      (approach_hesitated []).finds
    exact again.2 List.not_mem_nil willing_hesitated

/-- The second run could save the configuration, would reach the engine, and the socket takes
connections, but it gets no further than the record that the first one made. -/
theorem not_retried_hesitant :
    let reach := World.surroundings World.keepRecord World.rosterConnect
    let first := (run reach {} answeringConfig).run hesitant
    first.1 = .error ⟨.engineUnreachable, "connection refused"⟩ ∧
    Finds reach {} answeringConfig first.2 answered ⟨"n", by decide⟩ (asking first.2)
      (saving first.2) (naming first.2) ∧
    (∀ later call, first.2.roster.refuse (first.2.roster.calls.length + later) call = none) ∧
    first.2.disk.accepts answeringConfig.proxySocketPath = true ∧
    ((run reach {} answeringConfig).run first.2).1 =
      .error ⟨.publish, "kubelet-n already exists"⟩ := by
  intro reach first
  obtain ⟨ran, _⟩ := refused_hesitant
  have left : first = (.error _, hesitated [answeringRecord]) := ran
  have approach := approach_hesitated [answeringRecord]
  have refused : (World.keepRecord answeringRecord).run (naming (hesitated [answeringRecord])) =
      (.error ⟨.publish, "kubelet-n already exists"⟩, naming (hesitated [answeringRecord])) := by
    rw [run_keepRecord rfl]
    rfl
  obtain ⟨again, _⟩ := approach.ends refused
  rw [left]
  refine ⟨rfl, approach.finds, ?_, ?_, congrArg Prod.fst again⟩
  · intro later call
    have counted : (hesitated [answeringRecord]).roster.calls.length + later ≠ 0 := by
      simp [hesitated]
    exact if_neg counted
  · change (saving hesitant).disk.accepts _ = true
    cbv

end hesitant

end RuntimeHandover.Bootstrap
