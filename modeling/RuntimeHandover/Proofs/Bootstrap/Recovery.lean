import RuntimeHandover.Proofs.Bootstrap.Installs
import RuntimeHandover.Proofs.Bootstrap.Outcome
import RuntimeHandover.Proofs.Rehearsal.Settled

/-! A run that published and then could not raise the proxy, and the run after it. The second one
takes the engine's endpoint from what the first one published, and makes the container that the
first one made or would have made. -/
namespace RuntimeHandover.Bootstrap
open Cluster Container Files Http Json Kubelet Rehearsal Socket Text

section waiting

variable {σ : Type} {watch : Watch σ} {deadline interval : Nat}

inductive ReadyBy (watch : Watch σ) (deadline interval : Nat) : Nat → σ → Prop
  | now {tries : Nat} {s : σ} (ready : (watch.probe s).1 = true) :
      ReadyBy watch deadline interval (tries + 1) s
  | later {tries : Nat} {s : σ} (silent : (watch.probe s).1 = false)
      (early : (watch.now (watch.probe s).2).1 < deadline)
      (onward : ReadyBy watch deadline interval tries
        (watch.sleep (min interval (deadline - (watch.now (watch.probe s).2).1))
          (watch.now (watch.probe s).2).2).2) :
      ReadyBy watch deadline interval (tries + 1) s

private theorem poll_ready {tries : Nat} {s : σ} (ready : ReadyBy watch deadline interval tries s) :
    (poll watch deadline interval tries s).1 = some true := by
  induction ready with
  | now ready =>
    unfold poll
    refine (congrArg Prod.fst (bind_of_ran (Prod.ext ready rfl) _)).trans ?_
    rfl
  | later silent early onward ih =>
    unfold poll
    refine (congrArg Prod.fst (bind_of_ran (Prod.ext silent rfl) _)).trans ?_
    refine (congrArg Prod.fst (bind_of_ran (Prod.ext rfl rfl) _)).trans ?_
    rw [if_neg (Nat.not_le.mpr early)]
    exact ih

def InTime (watch : Watch σ) (readiness : Readiness) (s : σ) : Prop :=
  ReadyBy watch ((watch.now s).1 + readiness.timeout) readiness.pollInterval (mostTries readiness)
    (watch.now s).2

private theorem wait_in_time {readiness : Readiness} {s : σ} (ready : InTime watch readiness s)
    (path : Path) : ((wait watch path readiness).run s).1 = .ok () := by
  have polled := poll_ready ready
  unfold wait
  rw [Act.run_bind, Act.run_liftM]
  dsimp only
  rw [Act.run_bind, Act.run_liftM]
  dsimp only
  rw [polled]
  rfl

end waiting

section raising

namespace Effect

def endpoint? : Effect → Option String
  | .connect endpoint _ => some endpoint
  | _ => none

def spec? : Effect → Option Spec
  | .create spec _ => some spec
  | _ => none

end Effect

def endpoints (trace : List Effect) : List String := trace.filterMap Effect.endpoint?

def specs (trace : List Effect) : List Spec := trace.filterMap Effect.spec?

def unnamed (spec : Spec) : Spec := {spec with name := ""}

variable {endpoint proxyPath : String} {args : List String} {effects : List Effect}
  {result : Except Failure String}

private theorem endpoints_append (first second : List Effect) :
    endpoints (first ++ second) = endpoints first ++ endpoints second := List.filterMap_append

private theorem specs_append (first second : List Effect) :
    specs (first ++ second) = specs first ++ specs second := List.filterMap_append

private theorem builds_removals (ids : List String) :
    endpoints (removals ids) = [] ∧ specs (removals ids) = [] := by
  simp [endpoints, specs, removals, Effect.endpoint?, Effect.spec?]

private theorem builds_refusals (path : Path) (n : Nat) :
    endpoints (refusals path n) = [] ∧ specs (refusals path n) = [] := by
  simp [endpoints, specs, refusals, Effect.endpoint?, Effect.spec?]

private theorem builds_cleared (endpoint : String) (ids : List String) :
    endpoints (cleared endpoint ids) = [endpoint] ∧ specs (cleared endpoint ids) = [] := by
  obtain ⟨none_asked, none_made⟩ := builds_removals ids
  exact ⟨congrArg (endpoint :: ·) none_asked, none_made⟩

private theorem builds_replaced (endpoint : String) (ids : List String) (spec : Spec)
    (id : String) :
    endpoints (replaced endpoint ids spec id) = [endpoint] ∧
      specs (replaced endpoint ids spec id) = [spec] := by
  obtain ⟨asked, none_made⟩ := builds_cleared endpoint ids
  rw [replaced, pulled, endpoints_append, endpoints_append, specs_append, specs_append, asked,
    none_made]
  exact ⟨rfl, rfl⟩

/-- Whatever becomes of an installation, it asks for one engine, and makes its container, if it
gets there, from one spec. -/
private theorem installation_builds
    (installation : Installation endpoint proxyPath args effects result) :
    endpoints effects = [endpoint] ∧
      ∀ spec ∈ specs effects, ∃ suffix, spec = Spec.proxy endpoint proxyPath args suffix := by
  cases installation with
  | unreachable failure => exact ⟨rfl, by simp [specs, Effect.spec?]⟩
  | unlisted failure => exact ⟨rfl, by simp [specs, Effect.spec?]⟩
  | stuck gone id rest failure =>
    obtain ⟨none_asked, none_made⟩ := builds_removals gone
    rw [endpoints_append, specs_append]
    refine ⟨congrArg (endpoint :: · ++ []) none_asked, ?_⟩
    intro spec inside
    have nowhere : spec ∈ specs (removals gone) ++ [] := inside
    rw [none_made] at nowhere
    cases nowhere
  | unpulled ids failure =>
    obtain ⟨asked, none_made⟩ := builds_cleared endpoint ids
    rw [endpoints_append, specs_append, asked, none_made]
    exact ⟨rfl, by simp [specs, Effect.spec?]⟩
  | uncreated ids suffix failure =>
    obtain ⟨asked, none_made⟩ := builds_cleared endpoint ids
    rw [pulled, endpoints_append, endpoints_append, specs_append, specs_append, asked, none_made]
    refine ⟨rfl, ?_⟩
    intro spec inside
    exact ⟨suffix, List.mem_singleton.mp inside⟩
  | unstarted ids suffix id failure cleanup =>
    obtain ⟨asked, one_made⟩ :=
      builds_replaced endpoint ids (Spec.proxy endpoint proxyPath args suffix) id
    rw [endpoints_append, specs_append, asked, one_made]
    refine ⟨rfl, ?_⟩
    intro spec inside
    exact ⟨suffix, List.mem_singleton.mp inside⟩
  | installed ids suffix id =>
    obtain ⟨asked, one_made⟩ :=
      builds_replaced endpoint ids (Spec.proxy endpoint proxyPath args suffix) id
    rw [endpoints_append, specs_append, asked, one_made]
    refine ⟨rfl, ?_⟩
    intro spec inside
    exact ⟨suffix, List.mem_singleton.mp inside⟩

private theorem raising_builds {options : Options} {config : Config}
    (raising : Raising options config endpoint effects result) :
    endpoints effects = [endpoint] ∧ ∀ spec ∈ specs effects, ∃ suffix,
      spec = Spec.proxy endpoint config.proxyPath config.proxyArgs suffix := by
  cases raising with
  | failed installation => exact installation_builds installation
  | late n installation =>
    obtain ⟨none_asked, none_made⟩ := builds_refusals config.proxySocketPath (n + 1)
    rw [endpoints_append, specs_append, none_asked, none_made, List.append_nil, List.append_nil]
    exact installation_builds installation
  | ready n installation =>
    obtain ⟨none_asked, none_made⟩ := builds_refusals config.proxySocketPath n
    have end_asks : endpoints [.probe config.proxySocketPath true] = [] := rfl
    have end_makes : specs [.probe config.proxySocketPath true] = [] := rfl
    rw [endpoints_append, endpoints_append, specs_append, specs_append, none_asked, none_made,
      end_asks, end_makes]
    simp only [List.append_nil]
    exact installation_builds installation

/-- After the proxy was raised, the container that was made is the only one with the label. -/
theorem raising_labelled {options : Options} {config : Config} {id : String}
    {containers : List Roster.Member}
    (raising : Raising options config endpoint effects (.ok id))
    (told : Told containers effects) :
    ∃ suffix, let spec := Spec.proxy endpoint config.proxyPath config.proxyArgs suffix
      specs effects = [spec] ∧
        labelled (afterwards containers effects) = [⟨id, spec.labels, true, some spec⟩] := by
  cases raising with
  | ready n installation =>
    cases installation with
    | installed ids suffix id =>
      refine ⟨suffix, ?_, ?_⟩
      · rw [List.append_assoc, specs_append, specs_append, (builds_replaced _ _ _ _).2,
          specs_append, (builds_refusals _ _).2]
        rfl
      · rw [List.append_assoc] at told
        have told := (along_append.mp told).1
        have listed : (Effect.list markerLabel (.ok ids)).Truthful containers := told.2.1
        rw [afterwards_append, afterwards_append, afterwards_refusals, afterwards_installed told]
        exact labelled_replaced listed rfl

/-- An installation none of whose calls fails succeeds. -/
private theorem installation_accepted {failure : Failure}
    (installation : Installation endpoint proxyPath args effects (.error failure)) :
    ∃ effect ∈ effects, effect.stage? = none ∧ effect.failed = true := by
  cases installation with
  | unreachable => exact ⟨_, List.mem_cons_self, rfl, rfl⟩
  | unlisted failure => exact ⟨.list markerLabel (.error failure), by simp, rfl, rfl⟩
  | stuck gone id rest failure => exact ⟨.remove id (.error failure), by simp, rfl, rfl⟩
  | unpulled ids failure => exact ⟨.pull proxyImage (.error failure), by simp, rfl, rfl⟩
  | uncreated ids suffix failure =>
    exact ⟨.create (Spec.proxy endpoint proxyPath args suffix) (.error failure),
      List.mem_append_right _ List.mem_cons_self, rfl, rfl⟩
  | unstarted ids suffix id failure cleanup =>
    exact ⟨.start id (.error failure), by simp, rfl, rfl⟩

/-- Whether no call of a trace failed can be computed. -/
theorem accepted_of_all {trace : List Effect}
    (smooth : (trace.all fun effect => !effect.failed) = true) :
    ∀ effect ∈ trace, effect.failed = false := by
  simpa using smooth

end raising

section runs

variable {σ : Type} {reach : Surroundings σ} {options : Options} {config : Config} {s : σ}
  {live : LiveConfig} {endpoint : String}

def raise (reach : Surroundings σ) (config : Config) (endpoint : String) : Act σ String :=
  install reach.connect reach.stamp endpoint config.proxyPath config.proxyArgs

/-- The proxy is raised when no call of it fails and its socket is ready in time. -/
theorem installAndWait_in_time {effects : List Effect}
    (noticed : ((installAndWait (noted reach) options config endpoint).run (s, [])).2.2 = effects)
    (accepted : ∀ effect ∈ effects, effect.stage? = none → effect.failed = false)
    (ready : ∀ id raised, (raise reach config endpoint).run s = (.ok id, raised) →
      InTime (reach.watch config.proxySocketPath) options.readiness raised) :
    ∃ id, ((installAndWait reach options config endpoint).run s).1 = .ok id := by
  rcases raising : (raise reach config endpoint).run s with ⟨failure | id, raised⟩
  · obtain ⟨first, _, installation, same⟩ :=
      Traced.install endpoint config.proxyPath config.proxyArgs s
    change Installation _ _ _ first ((raise reach config endpoint).run s).1 at installation
    have ran : (raise (noted reach) config endpoint).run (s, []) =
        (((raise reach config endpoint).run s).1.map id,
          ((raise reach config endpoint).run s).2, [] ++ first) := same []
    rw [raising] at installation ran
    have whole : (installAndWait (noted reach) options config endpoint).run (s, []) = _ :=
      Act.run_bind_error ran
    -- The effects are those of the installation, and one of them failed.
    rw [whole] at noticed
    have first_effects : first = effects := noticed
    obtain ⟨effect, inside, engine, failed⟩ := installation_accepted installation
    rw [accepted effect (first_effects ▸ inside) engine] at failed
    cases failed
  · have waited := wait_in_time (ready id raised raising) config.proxySocketPath
    refine ⟨id, ?_⟩
    have onward : (installAndWait reach options config endpoint).run s = _ :=
      Act.run_bind_ok raising
    rw [onward, Act.run_bind]
    rcases ran : (wait (reach.watch config.proxySocketPath) config.proxySocketPath
      options.readiness).run raised with ⟨failure | _, after⟩
    · rw [ran] at waited
      cases waited
    · rfl

def fetchedFrom (reach : Surroundings σ) (options : Options) (config : Config) (s : σ) : σ :=
  ((reach.fetchLive options.introspection config.configzBaseUrl).run s).2

private theorem run_reinstalls {fetched : σ} (valid : config.validate = .ok ())
    (fetching : (reach.fetchLive options.introspection config.configzBaseUrl).run s =
      (.ok live, fetched))
    (patched : live.isPatched = true) (checked : options.verifyProxyLiveness = true)
    (silent : ((reach.watch config.proxySocketPath).probe fetched).1 = false)
    (located : engineEndpoint live = .ok endpoint) :
    (run reach options config).run s =
      (.reinstalled <$> installAndWait reach options config endpoint : Act σ Outcome).run
        ((reach.watch config.proxySocketPath).probe fetched).2 := by
  rw [run_patched valid fetching patched]
  unfold verifyInstalled
  rw [checked]
  simp only [Bool.not_true, Bool.false_eq_true, if_false]
  rw [Act.run_bind, Act.run_liftM, silent]
  dsimp only
  rw [located]
  rfl

/-- What such a run asks for is what raising the proxy asks for, after the configuration and
the proxy. -/
private theorem effects_reinstalls {fetched : σ} (valid : config.validate = .ok ())
    (fetching : (reach.fetchLive options.introspection config.configzBaseUrl).run s =
      (.ok live, fetched))
    (patched : live.isPatched = true) (checked : options.verifyProxyLiveness = true)
    (silent : ((reach.watch config.proxySocketPath).probe fetched).1 = false)
    (located : engineEndpoint live = .ok endpoint) :
    let probed := ((reach.watch config.proxySocketPath).probe fetched).2
    let rest := ((installAndWait (noted reach) options config endpoint).run (probed, [])).2.2
    Raising options config endpoint rest
        ((installAndWait reach options config endpoint).run probed).1 ∧
      effects reach options config s = .fetchLive config.configzBaseUrl (.ok live) ::
        .probe config.proxySocketPath false :: rest := by
  intro probed rest
  obtain ⟨raised, _, raising, same⟩ := Traced.installAndWait options config endpoint probed
  have all : rest = raised := congrArg (·.2.2) (same [])
  rw [all]
  refine ⟨raising, ?_⟩
  have unanswered : (((noted reach).watch config.proxySocketPath).probe
      (fetched, [.fetchLive config.configzBaseUrl (.ok live)])).1 = false := silent
  unfold effects
  rw [run_reinstalls valid (run_note fetching) patched checked unanswered located, Act.run_map]
  have silence : (((noted reach).watch config.proxySocketPath).probe
      (fetched, [.fetchLive config.configzBaseUrl (.ok live)])).2 =
        (probed, [.fetchLive config.configzBaseUrl (.ok live),
          .probe config.proxySocketPath false]) :=
    congrArg (fun ready => (probed, [_, Effect.probe _ ready])) silent
  rw [silence, same]
  rfl

end runs

section recovery

variable {σ : Type} {reach : Surroundings σ} {wire : Introspection → Wire σ} {sound : σ → Prop}
  {containers : σ → List Roster.Member} {options : Options} {config : Config} {s : σ}
  {live : LiveConfig} {endpoint : String}

def FetchesOver (wire : Introspection → Wire σ) (reach : Surroundings σ) : Prop :=
  ∀ introspection base, reach.fetchLive introspection base =
    fetchLiveConfig (wire introspection) base

/-- What a run finds that has to put the proxy back, and can: the kubelet serves the
configuration, no one answers at the socket, no call to the engine fails, and the socket is
answered in time once the proxy was started. -/
structure Recoverable (reach : Surroundings σ) (wire : Introspection → Wire σ) (options : Options)
    (config : Config) (live : LiveConfig) (endpoint : String) (s : σ) : Prop where
  valid : config.validate = .ok ()
  checked : options.verifyProxyLiveness = true
  fetches : FetchesOver wire reach
  serves : Serves (wire options.introspection) config.configzBaseUrl live.toValue s
  silent : ((reach.watch config.proxySocketPath).probe (fetchedFrom reach options config s)).1 =
    false
  willing : ∀ effect ∈ effects reach options config s, effect.stage? = none → effect.failed = false
  answered : ∀ id raised,
    (raise reach config endpoint).run
        ((reach.watch config.proxySocketPath).probe (fetchedFrom reach options config s)).2 =
      (.ok id, raised) →
    InTime (reach.watch config.proxySocketPath) options.readiness raised

/-- A run put the proxy back: it went to one engine, made one container there, which is the only
one with the label and runs, and came to no stage but that of the configuration. -/
structure PutBack (reach : Surroundings σ) (containers : σ → List Roster.Member)
    (options : Options) (config : Config) (endpoint : String) (spec : Spec) (s : σ) : Prop where
  outcome : ∃ id, ((run reach options config).run s).1 = .ok (.reinstalled id) ∧
    labelled (containers ((run reach options config).run s).2) =
      [⟨id, spec.labels, true, some spec⟩]
  engine : endpoints (effects reach options config s) = [endpoint]
  made : specs (effects reach options config s) = [spec]
  stages : (effects reach options config s).filterMap Effect.stage? = [.live]

private theorem putBack_of_recoverable (faithful : Faithful reach sound containers)
    (holds : sound s)
    (patched : live.isPatched = true) (located : engineEndpoint live = .ok endpoint)
    (recoverable : Recoverable reach wire options config live endpoint s) :
    ∃ suffix, PutBack reach containers options config endpoint
      (Spec.proxy endpoint config.proxyPath config.proxyArgs suffix) s := by
  obtain ⟨fetched, fetching⟩ := fetched_of_serves recoverable.serves
  rw [← recoverable.fetches] at fetching
  have silent := recoverable.silent
  have answered := recoverable.answered
  have there : fetchedFrom reach options config s = fetched := congrArg Prod.snd fetching
  rw [there] at silent answered
  obtain ⟨raising, noticed⟩ :=
    effects_reinstalls recoverable.valid fetching patched recoverable.checked silent located
  have ran :=
    run_reinstalls recoverable.valid fetching patched recoverable.checked silent located
  have course := run_course reach options config s
  obtain ⟨told, told_after⟩ := (run_goes reach options config s).told faithful holds
  have willing := recoverable.willing
  have stages := course_patched course (noticed ▸ List.mem_cons_self) patched
  rw [noticed] at told told_after willing
  obtain ⟨id, raised⟩ := installAndWait_in_time rfl
    (fun effect inside => willing effect (.tail _ (.tail _ inside))) answered
  rw [raised] at raising
  obtain ⟨suffix, built, only⟩ := raising_labelled raising told.2.2
  refine ⟨suffix, ⟨id, ?_, ?_⟩, ?_, ?_, stages⟩
  · rw [ran, Act.run_map, raised]
    rfl
  · rw [told_after]
    exact only
  · rw [noticed]
    exact (raising_builds raising).1
  · rw [noticed]
    exact built

/-- What a run published tells a later run all that it needs to raise the proxy of the first
one, whether or not the first one got there. The later run may find any containers, and meets the
same engine with the same spec but for its name. -/
theorem reinstalled_after_publishing (fetches : FetchesOver wire reach) {record : Record}
    (published : .publish record (.ok ()) ∈ effects reach options config s) :
    ∃ payload live endpoint, record.payload? = some payload ∧
      LiveConfig.parse payload = .ok live ∧
      live.get? "dockerEndpoint" = some (.string endpoint) ∧
      endpoints (effects reach options config s) = [endpoint] ∧
      ∀ {τ : Type} {later : Surroundings τ} {laterWire : Introspection → Wire τ}
        {sound : τ → Prop} {containers : τ → List Roster.Member} {laterOptions : Options}
        {laterConfig : Config} {t : τ},
        Faithful later sound containers → sound t →
        laterConfig.proxyPath = config.proxyPath → laterConfig.proxyArgs = config.proxyArgs →
        Recoverable later laterWire laterOptions laterConfig live endpoint t →
        ∃ spec, PutBack later containers laterOptions laterConfig endpoint spec t ∧
          (∀ earlier ∈ specs (effects reach options config s), unnamed earlier = unnamed spec) ∧
          ∀ suffix, unnamed (Spec.proxy endpoint config.proxyPath config.proxyArgs suffix) =
            unnamed spec := by
  obtain ⟨live, node, fetched, _, _, approach, rfl, _⟩ := approach_of_publish published
  have fetching := approach.fetching
  rw [fetches] at fetching
  have sound : live.withOverrides.Sound :=
    LiveConfig.sound_of_readable (LiveConfig.readable_withOverrides (readable_of_fetched fetching))
  obtain ⟨begun, noticed⟩ := approach.publishes
  have course := run_course reach options config s
  obtain ⟨_, _, unpublished⟩ | ⟨endpoint, _, raised, _, located, noted, _, raising⟩ :=
    course_of_unpatched course (noticed ▸ List.mem_cons_self) approach.unpatched
  · exact absurd published (unpublished _)
  obtain ⟨asked, built⟩ := raising_builds raising
  -- The first run found the endpoint before it overrode anything, and overriding keeps it.
  rw [← engineEndpoint_withOverrides] at located
  refine ⟨live.withOverrides.compact, live.withOverrides, endpoint, payload_forNode _ _,
    LiveConfig.parse_compact sound, (engineEndpoint_eq_ok_iff _ _).mp located, ?_, ?_⟩
  · rw [noted]
    exact asked
  intro τ later laterWire sound containers laterOptions laterConfig t faithful holds same_path
    same_args recoverable
  obtain ⟨suffix, putBack⟩ :=
    putBack_of_recoverable faithful holds live.isPatched_withOverrides located recoverable
  rw [same_path, same_args] at putBack
  refine ⟨_, putBack, ?_, fun _ => rfl⟩
  intro earlier inside
  rw [noted] at inside
  obtain ⟨_, rfl⟩ := built earlier inside
  rfl

end recovery

section deserted

def refusingConnect : Connector World := fun _ =>
  throw ⟨.engineUnreachable, "connection refused"⟩

/-- A host that was left with an old container and no socket. Someone listens there as soon as
time passes. -/
def deserted (network : Network) : World where
  disk := ⟨⟨[]⟩, [], fun n => List.replicate n 0x78⟩
  network := network
  later := [(0, .listen answeringConfig.proxySocketPath)]
  docker := {name := "docker"}
  roster := answering.roster

def insisting : Options := {verifyProxyLiveness := true}

def introspected (network : Network) : Network :=
  (Network.wire .all (Request.get (loopback ["configz"])) network).2

private theorem wired_deserted (network : Network) :
    (World.wire .all (Request.get (loopback ["configz"])) (deserted network)).2 =
      deserted (introspected network) := rfl

private theorem fetching_deserted :
    ((World.surroundings World.keepRecord World.rosterConnect).fetchLive insisting.introspection
      answeringConfig.configzBaseUrl).run (deserted (serving overriddenValue.pretty)) =
      (.ok answered.withOverrides, deserted (introspected (serving overriddenValue.pretty))) := by
  have got : Http.get _ _ (deserted (serving overriddenValue.pretty)) = _ := get_serving rfl
  rw [wired_deserted] at got
  have fetched : (fetchLiveConfig (World.wire .all) answeringConfig.configzBaseUrl).run
      (deserted (serving overriddenValue.pretty)) = _ :=
    fetched_of_holding address_answering got rfl
      (congrArg (fun text => some (bytesOf text)) pretty_overridden) holding_overridden
  exact fetched

private theorem fetchedFrom_deserted :
    fetchedFrom (World.surroundings World.keepRecord World.rosterConnect) insisting answeringConfig
      (deserted (serving overriddenValue.pretty)) =
      deserted (introspected (serving overriddenValue.pretty)) := by
  rw [fetchedFrom, fetching_deserted]

private theorem located_answered : engineEndpoint answered.withOverrides = .ok "unix:///d" := by
  rw [engineEndpoint_withOverrides]
  rfl

variable (network : Network)

private theorem silent_deserted :
    (((World.surroundings World.keepRecord World.rosterConnect).watch
      answeringConfig.proxySocketPath).probe (deserted network)).1 = false := by
  cbv

private theorem asked_deserted :
    (((World.surroundings World.keepRecord World.rosterConnect).watch
      answeringConfig.proxySocketPath).probe (deserted network)).2 = deserted network := rfl

def raisedEffects : List Effect :=
  ((installAndWait (noted (World.surroundings World.keepRecord World.rosterConnect)) insisting
    answeringConfig "unix:///d").run (deserted network, [])).2.2

private theorem deserted_willing : ∀ effect ∈ raisedEffects network, effect.failed = false :=
  accepted_of_all (by cbv)

def raisedWorld : World :=
  ((raise (World.surroundings World.keepRecord World.rosterConnect) answeringConfig "unix:///d").run
    (deserted network)).2

private theorem deserted_answered :
    InTime (World.watch answeringConfig.proxySocketPath) insisting.readiness
      (raisedWorld network) := by
  let watch := World.watch answeringConfig.proxySocketPath
  have tries : mostTries insisting.readiness = 99 + 2 := by decide
  have early : decide ((watch.now (watch.probe (watch.now (raisedWorld network)).2).2).1 <
      (watch.now (raisedWorld network)).1 + insisting.readiness.timeout) = true := by cbv
  unfold InTime
  rw [tries]
  refine .later ?_ (of_decide_eq_true early) (.now ?_)
  · cbv
  · cbv

private theorem effects_deserted :
    effects (World.surroundings World.keepRecord World.rosterConnect) insisting answeringConfig
        (deserted (serving overriddenValue.pretty)) =
      .fetchLive answeringConfig.configzBaseUrl (.ok answered.withOverrides) ::
        .probe answeringConfig.proxySocketPath false ::
        raisedEffects (introspected (serving overriddenValue.pretty)) := by
  have both : _ ∧ effects (World.surroundings World.keepRecord World.rosterConnect) insisting
      answeringConfig (deserted (serving overriddenValue.pretty)) = _ :=
    effects_reinstalls answering_approach.valid fetching_deserted
      answered.isPatched_withOverrides rfl (silent_deserted _) located_answered
  have noticed := both.2
  rw [asked_deserted] at noticed
  exact noticed

private theorem trusty_deserted :
    Trusty (deserted network) := (trusty_of_same rfl trusty_answering).1

private theorem recoverable_deserted :
    Recoverable (World.surroundings World.keepRecord World.rosterConnect)
      (fun introspection => World.wire (World.trustOf introspection)) insisting answeringConfig
      answered.withOverrides "unix:///d" (deserted (serving overriddenValue.pretty)) where
  valid := answering_approach.valid
  checked := rfl
  fetches _ _ := rfl
  serves := serves_overridden rfl
  silent := by
    rw [fetchedFrom_deserted]
    exact silent_deserted _
  willing := by
    intro effect inside engine
    rw [effects_deserted] at inside
    rcases inside with _ | ⟨_, _ | ⟨_, inside⟩⟩
    · cases engine
    · rfl
    · exact deserted_willing _ effect inside
  answered := by
    intro id raised ran
    rw [fetchedFrom_deserted, asked_deserted] at ran
    have there : raisedWorld _ = raised := congrArg Prod.snd ran
    rw [← there]
    exact deserted_answered _

private theorem failed_refused :
    ((run (World.surroundings World.keepRecord refusingConnect) {} answeringConfig).run
      answering).1 = .error ⟨.engineUnreachable, "connection refused"⟩ := by
  have way := approach_answering refusingConnect
  have ran := run_published way.valid way.fetching way.unpatched way.saving
    ((engineEndpoint_withOverrides _).symm.trans located_answered) way.naming keeping_answering
  rw [ran]
  rfl

/-- A run that could not reach the engine, and the one that makes up for it. -/
theorem reinstalled_after_publishing_refused :
    Effect.publish answeringRecord (.ok ()) ∈
      effects (World.surroundings World.keepRecord refusingConnect) {} answeringConfig answering ∧
    ((run (World.surroundings World.keepRecord refusingConnect) {} answeringConfig).run
      answering).1 = .error ⟨.engineUnreachable, "connection refused"⟩ ∧
    ∃ spec, PutBack (World.surroundings World.keepRecord World.rosterConnect) Rehearsal.containers
      insisting answeringConfig "unix:///d" spec (deserted (serving overriddenValue.pretty)) := by
  refine ⟨published_answering _, failed_refused, ?_⟩
  have fetches : FetchesOver (fun introspection => World.wire (World.trustOf introspection))
      (World.surroundings World.keepRecord refusingConnect) := fun _ _ => rfl
  obtain ⟨payload, live, endpoint, holds, parsed, located, -, onward⟩ :=
    reinstalled_after_publishing fetches (published_answering refusingConnect)
  obtain rfl := parsed_answering holds parsed
  obtain rfl : "unix:///d" = endpoint :=
    Except.ok.inj (located_answered.symm.trans ((engineEndpoint_eq_ok_iff _ _).mpr located))
  obtain ⟨spec, putBack, -⟩ :=
    onward faithful_roster (trusty_deserted _) rfl rfl recoverable_deserted
  exact ⟨spec, putBack⟩

end deserted

end RuntimeHandover.Bootstrap
