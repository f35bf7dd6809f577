import RuntimeHandover.Proofs.Bootstrap.Containers
import RuntimeHandover.Proofs.Bootstrap.Gating
import RuntimeHandover.Proofs.Rehearsal.World

/-! What the outcome of a run says of the world it ran in. Each success means that every
stage up to it succeeded, and the other way round. -/
namespace RuntimeHandover.Bootstrap
open Cluster Container Files Kubelet Socket

structure Overridden (live : LiveConfig) : Prop where
  runtime : live.get? "containerRuntime" = some (.string "remote")
  interface : live.get? "enableCRI" = some (.bool true)
  runtimeEndpoint : live.get? "remoteRuntimeEndpoint" = some (.string "/run/criproxy.sock")
  imageEndpoint : live.get? "remoteImageEndpoint" = some (.string "/run/criproxy.sock")

structure Installed (config : Config) (trace : List Effect) (endpoint id : String) : Prop where
  reached : .connect endpoint (.ok ()) ∈ trace
  cleared : ∃ ids, .list markerLabel (.ok ids) ∈ trace ∧
    ∀ stale ∈ ids, .remove stale (.ok ()) ∈ trace
  pulled : .pull proxyImage (.ok ()) ∈ trace
  created : ∃ suffix,
    .create (Spec.proxy endpoint config.proxyPath config.proxyArgs suffix) (.ok id) ∈ trace
  started : .start id (.ok ()) ∈ trace

/-- One container has the label, the new one, and it runs. The others are as they were,
if no two had the same id. -/
structure Replaced (spec : Spec) (id : String) (before after : List Roster.Member) : Prop where
  only : after.filter (·.hasLabel markerLabel) = [⟨id, spec.labels, true, some spec⟩]
  others : (before.map (·.id)).Nodup →
    after.filter (!·.hasLabel markerLabel) = before.filter (!·.hasLabel markerLabel)

namespace Effect

def ready? : Effect → Option Bool
  | .probe _ ready => some ready
  | _ => none

def failure? : Effect → Option Failure
  | .fetchLive _ (.error failure) | .save _ _ (.error failure) | .fetchNode _ (.error failure)
  | .publish _ (.error failure) | .connect _ (.error failure) | .list _ (.error failure)
  | .create _ (.error failure) | .start _ (.error failure) => some failure
  | .remove id (.error failure) => some (staleFailure id failure)
  | .pull image (.error failure) => some (pullFailure image failure)
  | _ => none

end Effect

def firstProbe? (trace : List Effect) : Option Bool :=
  trace.findSome? Effect.ready?

inductive Blamed (options : Options) (config : Config) : List Effect → Failure → Prop
  | stage (earlier : List Effect) {effect : Effect} {failure : Failure}
      (failed : effect.failure? = some failure) :
      Blamed options config (earlier ++ [effect]) failure
  | unstarted (earlier : List Effect) (id : String) (failure : Failure)
      (cleanup : Except Failure Unit) :
      Blamed options config (earlier ++ [.start id (.error failure), .remove id cleanup]) failure
  | nowhere (live : LiveConfig) (next : Effect)
      (unlocated : ∀ endpoint, live.get? "dockerEndpoint" ≠ some (.string endpoint)) :
      Blamed options config [.fetchLive config.configzBaseUrl (.ok live), next]
        ⟨.missingField, "failed to retrieve dockerEndpoint from kubelet config"⟩
  | silent (earlier : List Effect) (id : String) (n : Nat) :
      Blamed options config
        (earlier ++ .start id (.ok ()) :: refusals config.proxySocketPath (n + 1))
        (notReady config.proxySocketPath options.readiness)

section raising

variable {options : Options} {config : Config} {endpoint : String} {effects : List Effect}

theorem overridden_iff (live : LiveConfig) : Overridden live ↔ live.isPatched = true := by
  rw [LiveConfig.isPatched_iff_get?]
  constructor
  · intro held
    exact ⟨held.runtime, held.interface, held.runtimeEndpoint, held.imageEndpoint⟩
  · intro held
    exact ⟨held.1, held.2.1, held.2.2.1, held.2.2.2⟩

private theorem installed_of_installation {id : String}
    (installation : Installation endpoint config.proxyPath config.proxyArgs effects (.ok id)) :
    Installed config effects endpoint id := by
  cases installation with
  | installed ids suffix id =>
    refine ⟨?_, ⟨ids, ?_, ?_⟩, ?_, ⟨suffix, ?_⟩, ?_⟩
    all_goals simp [replaced, Bootstrap.pulled, Bootstrap.cleared, removals]

private theorem Installed.weaken {id : String} {trace : List Effect}
    (installed : Installed config effects endpoint id) (inside : effects ⊆ trace) :
    Installed config trace endpoint id := by
  obtain ⟨ids, listed, removed⟩ := installed.cleared
  obtain ⟨suffix, created⟩ := installed.created
  exact ⟨inside installed.reached,
    ⟨ids, inside listed, fun stale among => inside (removed stale among)⟩,
    inside installed.pulled, ⟨suffix, inside created⟩, inside installed.started⟩

private theorem Installed.later {id : String} (installed : Installed config effects endpoint id)
    (earlier : List Effect) : Installed config (earlier ++ effects) endpoint id :=
  installed.weaken (List.subset_append_right earlier effects)

private theorem installation_probes {result : Except Failure String} {path : Path} {ready : Bool}
    (installation : Installation endpoint config.proxyPath config.proxyArgs effects result) :
    .probe path ready ∉ effects := by
  cases installation with
  | _ => simp [replaced, Bootstrap.pulled, Bootstrap.cleared, removals]

private theorem installation_started {id made : String}
    (installation : Installation endpoint config.proxyPath config.proxyArgs effects (.ok made))
    (started : .start id (.ok ()) ∈ effects) : id = made := by
  cases installation with
  | installed ids suffix made =>
    simpa [replaced, Bootstrap.pulled, Bootstrap.cleared, removals] using started

private theorem raising_succeeds {result : Except Failure String} {id : String}
    (raising : Raising options config endpoint effects result)
    (started : .start id (.ok ()) ∈ effects)
    (answered : .probe config.proxySocketPath true ∈ effects) : result = .ok id := by
  cases raising with
  | failed installation => exact absurd answered (installation_probes installation)
  | late n installation =>
    rcases List.mem_append.mp answered with inside | tried
    · exact absurd inside (installation_probes installation)
    · cases List.eq_of_mem_replicate tried
  | ready n installation =>
    rw [List.append_assoc] at started
    rcases List.mem_append.mp started with inside | tried
    · rw [installation_started installation inside]
    · simp [refusals] at tried

private theorem raising_installed {id : String}
    (raising : Raising options config endpoint effects (.ok id)) :
    Installed config effects endpoint id ∧ .probe config.proxySocketPath true ∈ effects := by
  cases raising with
  | ready n installation =>
    refine ⟨(installed_of_installation installation).weaken ?_, ?_⟩
    · rw [List.append_assoc]
      exact List.subset_append_left _ _
    · exact List.mem_append_right _ List.mem_cons_self

private theorem raising_replaced {id : String} {containers : List Roster.Member}
    (raising : Raising options config endpoint effects (.ok id))
    (told : Told containers effects) :
    effects.getLast? = some (.probe config.proxySocketPath true) ∧ ∃ suffix,
      Replaced (Spec.proxy endpoint config.proxyPath config.proxyArgs suffix) id containers
        (afterwards containers effects) := by
  cases raising with
  | ready n installation =>
    refine ⟨List.getLast?_concat, ?_⟩
    cases installation with
    | installed ids suffix id =>
      refine ⟨suffix, ?_⟩
      rw [List.append_assoc] at told
      have told := (along_append.mp told).1
      have listed : (Effect.list markerLabel (.ok ids)).Truthful containers := told.2.1
      rw [afterwards_append, afterwards_append, afterwards_refusals, afterwards_installed told]
      exact ⟨labelled_replaced listed rfl, fun distinct => unlabelled_replaced listed distinct rfl⟩

private theorem blamed_last (earlier rest : List Effect) {effect : Effect} {failure : Failure}
    (failed : effect.failure? = some failure) :
    Blamed options config (earlier ++ (rest ++ [effect])) failure := by
  rw [← List.append_assoc]
  exact .stage _ failed

private theorem raising_blamed {failure : Failure} (earlier : List Effect)
    (raising : Raising options config endpoint effects (.error failure)) :
    Blamed options config (earlier ++ effects) failure := by
  cases raising with
  | @late _ id n installation =>
    obtain ⟨before, rfl⟩ := installation_ends installation
    have blamed : Blamed options config _ _ := .silent (earlier ++ before) id n
    simpa using blamed
  | failed installation =>
    cases installation with
    | unreachable failure => exact .stage earlier rfl
    | unlisted failure => exact blamed_last earlier [.connect endpoint (.ok ())] rfl
    | stuck gone id rest failure =>
      exact blamed_last earlier (.connect endpoint (.ok ()) ::
        .list markerLabel (.ok (gone ++ id :: rest)) :: removals gone) rfl
    | unpulled ids failure => exact blamed_last earlier (cleared endpoint ids) rfl
    | uncreated ids suffix failure => exact blamed_last earlier (pulled endpoint ids) rfl
    | unstarted ids suffix id failure cleanup =>
      rw [← List.append_assoc]
      exact .unstarted _ id failure cleanup

end raising

section course

variable {options : Options} {config : Config} {effects : List Effect}
  {result : Except Failure Outcome} {base : String} {live : LiveConfig}

/-- How a run goes on once the configuration is known to be patched. -/
private theorem course_of_patched (course : Course options config effects result)
    (fetched : .fetchLive base (.ok live) ∈ effects) (patched : live.isPatched = true) :
    (options.verifyProxyLiveness = false ∧ firstProbe? effects = none ∧
      result = .ok .alreadyConfigured) ∨
    (options.verifyProxyLiveness = true ∧ firstProbe? effects = some true ∧
      result = .ok .alreadyConfigured) ∨
    (options.verifyProxyLiveness = true ∧ ∃ rest raised,
      effects = .fetchLive config.configzBaseUrl (.ok live) ::
        .probe config.proxySocketPath false :: rest ∧
      result = raised.map .reinstalled ∧
      ((∃ failure, engineEndpoint live = .error failure ∧ rest = [] ∧ raised = .error failure) ∨
        ∃ endpoint, engineEndpoint live = .ok endpoint ∧
          Raising options config endpoint rest raised)) := by
  obtain ⟨rest, rfl⟩ := course_fetched course fetched
  cases course with
  | untouched _ _ _ trusted => exact .inl ⟨trusted, rfl, rfl⟩
  | answering _ _ _ checked => exact .inr (.inl ⟨checked, rfl, rfl⟩)
  | deaf _ _ _ checked nowhere =>
    exact .inr (.inr ⟨checked, [], .error _, rfl, rfl, .inl ⟨_, nowhere, rfl, rfl⟩⟩)
  | reinstalling _ _ _ checked located raising =>
    exact .inr (.inr ⟨checked, _, _, rfl, rfl, .inr ⟨_, located, raising⟩⟩)
  | _ => simp_all

/-- How a run goes on once the configuration is known not to be patched. -/
theorem course_of_unpatched (course : Course options config effects result)
    (fetched : .fetchLive base (.ok live) ∈ effects) (unpatched : live.isPatched = false) :
    (∃ failure, result = .error failure ∧ ∀ record, .publish record (.ok ()) ∉ effects) ∨
    ∃ endpoint node rest raised, engineEndpoint live = .ok endpoint ∧
      effects = .fetchLive config.configzBaseUrl (.ok live) ::
        .save config.savedConfigPath live (.ok ()) ::
        .fetchNode config.statsBaseUrl (.ok node) ::
        .publish (Record.forNode node live.withOverrides) (.ok ()) :: rest ∧
      result = raised.map .bootstrapped ∧ Raising options config endpoint rest raised := by
  obtain ⟨rest, rfl⟩ := course_fetched course fetched
  cases course with
  | unsaved _ _ _ failure => exact .inl ⟨failure, rfl, by simp⟩
  | unlocated _ _ _ nowhere => exact .inl ⟨_, rfl, by simp⟩
  | unnamed _ _ _ _ failure => exact .inl ⟨failure, rfl, by simp⟩
  | unpublished _ _ _ _ node failure => exact .inl ⟨failure, rfl, by simp⟩
  | bootstrapping _ _ _ located node raising =>
    rw [engineEndpoint_withOverrides] at located
    exact .inr ⟨_, node, _, _, located, rfl, rfl, raising⟩
  | _ => simp_all

private theorem course_succeeded {outcome : Outcome} (course : Course options config effects result)
    (ok : result = .ok outcome) : ∃ live, .fetchLive config.configzBaseUrl (.ok live) ∈ effects := by
  cases course with
  | invalid refused => cases ok
  | unfetched valid failure => cases ok
  | _ => exact ⟨_, List.mem_cons_self⟩

theorem course_alreadyConfigured (course : Course options config effects result) :
    result = .ok .alreadyConfigured ↔ ∃ live,
      .fetchLive config.configzBaseUrl (.ok live) ∈ effects ∧ Overridden live ∧
      (options.verifyProxyLiveness = false ∨ firstProbe? effects = some true) := by
  simp only [overridden_iff]
  constructor
  · intro same
    obtain ⟨live, fetched⟩ := course_succeeded course same
    refine ⟨live, fetched, ?_⟩
    cases patched : live.isPatched with
    | true =>
      obtain ⟨trusted, _⟩ | ⟨_, answered, _⟩ | ⟨_, _, raised, _, ended, _⟩ :=
        course_of_patched course fetched patched
      · exact ⟨rfl, .inl trusted⟩
      · exact ⟨rfl, .inr answered⟩
      · rw [same] at ended
        cases raised <;> cases ended
    | false =>
      obtain ⟨failure, ended, _⟩ | ⟨_, _, _, raised, _, _, ended, _⟩ :=
        course_of_unpatched course fetched patched
      · rw [same] at ended
        cases ended
      · rw [same] at ended
        cases raised <;> cases ended
  · intro held
    obtain ⟨live, fetched, patched, quiet⟩ := held
    obtain ⟨_, _, same⟩ | ⟨_, _, same⟩ | ⟨checked, rest, raised, rfl, _⟩ :=
      course_of_patched course fetched patched
    · exact same
    · exact same
    · rcases quiet with trusted | answered
      · rw [checked] at trusted
        cases trusted
      · cases answered

theorem course_reinstalled (course : Course options config effects result) (id : String) :
    result = .ok (.reinstalled id) ↔ ∃ live endpoint,
      .fetchLive config.configzBaseUrl (.ok live) ∈ effects ∧ Overridden live ∧
      options.verifyProxyLiveness = true ∧ firstProbe? effects = some false ∧
      live.get? engineEndpointKey = some (.string endpoint) ∧
      Installed config effects endpoint id ∧ .probe config.proxySocketPath true ∈ effects := by
  simp only [overridden_iff, ← engineEndpoint_eq_ok_iff]
  constructor
  · intro same
    obtain ⟨live, fetched⟩ := course_succeeded course same
    cases patched : live.isPatched with
    | true =>
      obtain ⟨_, _, ended⟩ | ⟨_, _, ended⟩ | ⟨checked, rest, raised, rfl, ended, rose⟩ :=
        course_of_patched course fetched patched
      · rw [same] at ended
        cases ended
      · rw [same] at ended
        cases ended
      · rw [same] at ended
        obtain ⟨_, _, _, rfl⟩ | ⟨endpoint, located, raising⟩ := rose
        · cases ended
        · cases raised with
          | error failure => cases ended
          | ok made =>
            cases ended
            obtain ⟨installed, answered⟩ := raising_installed raising
            exact ⟨live, endpoint, fetched, patched, checked, rfl, located,
              installed.later [_, _], List.mem_append_right [_, _] answered⟩
    | false =>
      obtain ⟨failure, ended, _⟩ | ⟨_, _, _, raised, _, _, ended, _⟩ :=
        course_of_unpatched course fetched patched
      · rw [same] at ended
        cases ended
      · rw [same] at ended
        cases raised <;> cases ended
  · intro held
    obtain ⟨live, endpoint, fetched, patched, checked, silent, located, installed, answered⟩ := held
    obtain ⟨trusted, _⟩ | ⟨_, first, _⟩ | ⟨_, rest, raised, rfl, ended, rose⟩ :=
      course_of_patched course fetched patched
    · rw [checked] at trusted
      cases trusted
    · rw [silent] at first
      cases first
    · obtain ⟨_, nowhere, _⟩ | ⟨_, _, raising⟩ := rose
      · rw [located] at nowhere
        cases nowhere
      · have started : .start id (.ok ()) ∈ rest := by simpa using installed.started
        have ready : .probe config.proxySocketPath true ∈ rest := by simpa using answered
        rw [ended, raising_succeeds raising started ready]
        rfl

private theorem course_bootstrapped (course : Course options config effects result) (id : String) :
    result = .ok (.bootstrapped id) ↔ ∃ live endpoint node,
      .fetchLive config.configzBaseUrl (.ok live) ∈ effects ∧ ¬ Overridden live ∧
      .save config.savedConfigPath live (.ok ()) ∈ effects ∧
      live.get? engineEndpointKey = some (.string endpoint) ∧
      .fetchNode config.statsBaseUrl (.ok node) ∈ effects ∧ node.name ≠ "" ∧
      .publish (Record.forNode node live.withOverrides) (.ok ()) ∈ effects ∧
      Installed config effects endpoint id ∧ .probe config.proxySocketPath true ∈ effects := by
  simp only [overridden_iff, ← engineEndpoint_eq_ok_iff, Bool.not_eq_true]
  constructor
  · intro same
    obtain ⟨live, fetched⟩ := course_succeeded course same
    cases patched : live.isPatched with
    | true =>
      obtain ⟨_, _, ended⟩ | ⟨_, _, ended⟩ | ⟨_, _, raised, _, ended, _⟩ :=
        course_of_patched course fetched patched
      · rw [same] at ended
        cases ended
      · rw [same] at ended
        cases ended
      · rw [same] at ended
        cases raised <;> cases ended
    | false =>
      obtain ⟨failure, ended, _⟩ | ⟨endpoint, node, rest, raised, located, rfl, ended, raising⟩ :=
        course_of_unpatched course fetched patched
      · rw [same] at ended
        cases ended
      · rw [same] at ended
        cases raised with
        | error failure => cases ended
        | ok made =>
          cases ended
          obtain ⟨installed, answered⟩ := raising_installed raising
          exact ⟨live, endpoint, node, fetched, patched, by simp, located, by simp,
            node.nonempty, by simp, installed.later [_, _, _, _],
            List.mem_append_right [_, _, _, _] answered⟩
  · intro held
    obtain ⟨live, endpoint, node, fetched, unpatched, -, -, -, -, published, installed,
      answered⟩ := held
    obtain ⟨_, _, unpublished⟩ | ⟨_, _, rest, raised, _, rfl, ended, raising⟩ :=
      course_of_unpatched course fetched unpatched
    · exact absurd published (unpublished _)
    · have started : .start id (.ok ()) ∈ rest := by simpa using installed.started
      have ready : .probe config.proxySocketPath true ∈ rest := by simpa using answered
      rw [ended, raising_succeeds raising started ready]
      rfl

theorem course_blamed {failure : Failure} (course : Course options config effects result)
    (valid : config.validate = .ok ()) (failed : result = .error failure) :
    Blamed options config effects failure := by
  cases course with
  | invalid refused =>
    rw [valid] at refused
    cases refused
  | unfetched _ failure =>
    cases failed
    exact .stage [] rfl
  | untouched => cases failed
  | answering => cases failed
  | deaf _ live _ _ nowhere =>
    cases failed
    obtain ⟨unlocated, rfl⟩ := (engineEndpoint_eq_error_iff _ _).mp nowhere
    exact .nowhere live _ unlocated
  | @reinstalling _ _ _ _ _ _ _ raised raising =>
    cases raised with
    | ok made => cases failed
    | error cause =>
      cases failed
      exact raising_blamed [_, _] raising
  | unsaved _ live _ failure =>
    cases failed
    exact .stage [_] rfl
  | unlocated _ live _ nowhere =>
    cases failed
    rw [engineEndpoint_withOverrides] at nowhere
    obtain ⟨unlocated, rfl⟩ := (engineEndpoint_eq_error_iff _ _).mp nowhere
    exact .nowhere live _ unlocated
  | unnamed _ live _ _ failure =>
    cases failed
    exact .stage [_, _] rfl
  | unpublished _ live _ _ node failure =>
    cases failed
    exact .stage [_, _, _] rfl
  | @bootstrapping _ _ _ _ _ _ _ raised raising =>
    cases raised with
    | ok made => cases failed
    | error cause =>
      cases failed
      exact raising_blamed [_, _, _, _] raising

private theorem course_unchanged (course : Course options config effects result)
    (ok : result = .ok .alreadyConfigured) (before : List Roster.Member) :
    afterwards before effects = before := by
  cases course with
  | untouched => rfl
  | answering => rfl
  | @reinstalling _ _ _ _ _ _ _ raised =>
    cases raised <;> cases ok
  | @bootstrapping _ _ _ _ _ _ _ raised =>
    cases raised <;> cases ok
  | _ => cases ok

private theorem course_replaced {id : String} {before : List Roster.Member}
    (course : Course options config effects result)
    (ok : result = .ok (.reinstalled id) ∨ result = .ok (.bootstrapped id))
    (told : Told before effects) :
    effects.getLast? = some (.probe config.proxySocketPath true) ∧
    ∃ live endpoint suffix, .fetchLive config.configzBaseUrl (.ok live) ∈ effects ∧
      live.get? engineEndpointKey = some (.string endpoint) ∧
      Replaced (Spec.proxy endpoint config.proxyPath config.proxyArgs suffix) id before
        (afterwards before effects) := by
  cases course with
  | @reinstalling _ live _ _ endpoint located _ raised raising =>
    rw [engineEndpoint_eq_ok_iff] at located
    cases raised with
    | error failure => simp [Except.map] at ok
    | ok made =>
      have same : made = id := by simpa [Except.map] using ok
      subst same
      obtain ⟨last, suffix, replaced⟩ := raising_replaced raising told.2.2
      exact ⟨by simp [List.getLast?_cons, last], live, endpoint, suffix, by simp, located, replaced⟩
  | @bootstrapping _ live _ endpoint located node _ raised raising =>
    rw [engineEndpoint_withOverrides, engineEndpoint_eq_ok_iff] at located
    cases raised with
    | error failure => simp [Except.map] at ok
    | ok made =>
      have same : made = id := by simpa [Except.map] using ok
      subst same
      obtain ⟨last, suffix, replaced⟩ := raising_replaced raising told.2.2.2.2
      exact ⟨by simp [List.getLast?_cons, last], live, endpoint, suffix, by simp, located, replaced⟩
  | _ => simp at ok

end course

variable {σ : Type} {reach : Surroundings σ} {sound : σ → Prop}
  {containers : σ → List Roster.Member} (options : Options) {config : Config} {s : σ}

/-- The outcomes of a run in a world with a faithful engine. A kubelet was configured already
exactly if its configuration holds the overrides and its proxy need not answer or does. A
proxy is reinstalled, or the handover made from the start, exactly if each stage on the way
succeeded, and every failure is that of a stage. After an installation one container has
the label, the one that was named: it runs, made for the engine of the configuration. -/
theorem run_outcomes (faithful : Faithful reach sound containers)
    (valid : config.validate = .ok ()) (holds : sound s) :
    let trace := effects reach options config s
    let result := ((run reach options config).run s).1
    let before := containers s
    let after := containers ((run reach options config).run s).2
    (result = .ok .alreadyConfigured ↔ ∃ live,
      .fetchLive config.configzBaseUrl (.ok live) ∈ trace ∧ Overridden live ∧
      (options.verifyProxyLiveness = false ∨ firstProbe? trace = some true)) ∧
    (∀ id, result = .ok (.reinstalled id) ↔ ∃ live endpoint,
      .fetchLive config.configzBaseUrl (.ok live) ∈ trace ∧ Overridden live ∧
      options.verifyProxyLiveness = true ∧ firstProbe? trace = some false ∧
      live.get? "dockerEndpoint" = some (.string endpoint) ∧
      Installed config trace endpoint id ∧ .probe config.proxySocketPath true ∈ trace) ∧
    (∀ id, result = .ok (.bootstrapped id) ↔ ∃ live endpoint node,
      .fetchLive config.configzBaseUrl (.ok live) ∈ trace ∧ ¬ Overridden live ∧
      .save config.savedConfigPath live (.ok ()) ∈ trace ∧
      live.get? "dockerEndpoint" = some (.string endpoint) ∧
      .fetchNode config.statsBaseUrl (.ok node) ∈ trace ∧ node.name ≠ "" ∧
      .publish (Record.forNode node live.withOverrides) (.ok ()) ∈ trace ∧
      Installed config trace endpoint id ∧ .probe config.proxySocketPath true ∈ trace) ∧
    (∀ failure, result = .error failure → Blamed options config trace failure) ∧
    (result = .ok .alreadyConfigured → after = before) ∧
    (∀ id, result = .ok (.reinstalled id) ∨ result = .ok (.bootstrapped id) →
      trace.getLast? = some (.probe config.proxySocketPath true) ∧
      ∃ live endpoint suffix, .fetchLive config.configzBaseUrl (.ok live) ∈ trace ∧
        live.get? "dockerEndpoint" = some (.string endpoint) ∧
        Replaced (Spec.proxy endpoint config.proxyPath config.proxyArgs suffix) id before after) := by
  have course := run_course reach options config s
  obtain ⟨told, told_after⟩ := (run_goes reach options config s).told faithful holds
  intro trace result before after
  refine ⟨course_alreadyConfigured course, course_reinstalled course,
    course_bootstrapped course, ?_, ?_, ?_⟩
  · intro failure failed
    exact course_blamed course valid failed
  · intro unchanged
    exact told_after.trans (course_unchanged course unchanged before)
  · intro id ok
    have replaced := course_replaced course ok told
    rwa [← told_after] at replaced

open Rehearsal in
/-- The host whose kubelet answers ends with a new proxy in place of the old one. -/
theorem run_outcomes_answering :
    let ended := (run (World.surroundings World.keepRecord World.rosterConnect) {}
      answeringConfig).run answering
    ended.1 = .ok (.bootstrapped "") ∧ ∃ spec : Spec,
      (Rehearsal.containers ended.2).filter (·.hasLabel markerLabel) =
        [⟨"", spec.labels, true, some spec⟩] := by
  intro ended
  have way := answering_approach
  have located : engineEndpoint answered = .ok "unix:///d" := rfl
  have publishing : (World.keepRecord answeringRecord).run answeringNamed =
      (.ok (), answeringKept) := Prod.ext (by cbv) rfl
  have raising : ((installAndWait (World.surroundings World.keepRecord World.rosterConnect) {}
      answeringConfig "unix:///d").run answeringKept).1 = .ok "" := by cbv
  have onwards := run_published way.valid way.fetching way.unpatched way.saving located
    way.naming publishing
  have ok : ended.1 = .ok (.bootstrapped "") := by
    change ((run _ _ _).run answering).1 = _
    rw [onwards, Act.run_map, raising]
    rfl
  have outcomes := run_outcomes {} faithful_roster way.valid trusty_answering
  obtain ⟨-, -, -, -, -, replaced⟩ := outcomes
  obtain ⟨-, live, endpoint, suffix, -, -, only, -⟩ := replaced "" (.inr ok)
  exact ⟨ok, _, only⟩

end RuntimeHandover.Bootstrap
