import RuntimeHandover.Proofs.Bootstrap.Effects

/-! Every course that a run can take, as the list of its effects and its result. The
courses are listed case by case and apart from the program; that every run takes one of
them, whatever the world answers, is the main result. -/
namespace RuntimeHandover.Bootstrap
open Cluster Container Files Kubelet Socket

def refusals (path : Path) (n : Nat) : List Effect :=
  List.replicate n (.probe path false)

def removals (ids : List String) : List Effect :=
  ids.map fun id => .remove id (.ok ())

def cleared (endpoint : String) (ids : List String) : List Effect :=
  .connect endpoint (.ok ()) :: .list markerLabel (.ok ids) :: removals ids

def pulled (endpoint : String) (ids : List String) : List Effect :=
  cleared endpoint ids ++ [.pull proxyImage (.ok ())]

def replaced (endpoint : String) (ids : List String) (spec : Spec) (id : String) : List Effect :=
  pulled endpoint ids ++ [.create spec (.ok id)]

inductive Installation (endpoint proxyPath : String) (args : List String) :
    List Effect → Except Failure String → Prop
  | unreachable (failure) :
      Installation endpoint proxyPath args [.connect endpoint (.error failure)] (.error failure)
  | unlisted (failure) : Installation endpoint proxyPath args
      [.connect endpoint (.ok ()), .list markerLabel (.error failure)] (.error failure)
  | stuck (gone : List String) (id : String) (rest : List String) (failure) :
      Installation endpoint proxyPath args
        (.connect endpoint (.ok ()) :: .list markerLabel (.ok (gone ++ id :: rest)) ::
          removals gone ++ [.remove id (.error failure)])
        (.error (staleFailure id failure))
  | unpulled (ids) (failure) : Installation endpoint proxyPath args
      (cleared endpoint ids ++ [.pull proxyImage (.error failure)])
      (.error (pullFailure proxyImage failure))
  | uncreated (ids) (suffix) (failure) : Installation endpoint proxyPath args
      (pulled endpoint ids ++
        [.create (Spec.proxy endpoint proxyPath args suffix) (.error failure)])
      (.error failure)
  | unstarted (ids) (suffix) (id) (failure) (cleanup) : Installation endpoint proxyPath args
      (replaced endpoint ids (Spec.proxy endpoint proxyPath args suffix) id ++
        [.start id (.error failure), .remove id cleanup])
      (.error failure)
  | installed (ids) (suffix) (id) : Installation endpoint proxyPath args
      (replaced endpoint ids (Spec.proxy endpoint proxyPath args suffix) id ++
        [.start id (.ok ())])
      (.ok id)

inductive Raising (options : Options) (config : Config) (endpoint : String) :
    List Effect → Except Failure String → Prop
  | failed {effects failure}
      (installation : Installation endpoint config.proxyPath config.proxyArgs effects
        (.error failure)) :
      Raising options config endpoint effects (.error failure)
  | late {effects id} (n)
      (installation : Installation endpoint config.proxyPath config.proxyArgs effects (.ok id)) :
      Raising options config endpoint
        (effects ++ refusals config.proxySocketPath (n + 1))
        (.error (notReady config.proxySocketPath options.readiness))
  | ready {effects id} (n)
      (installation : Installation endpoint config.proxyPath config.proxyArgs effects (.ok id)) :
      Raising options config endpoint
        (effects ++ refusals config.proxySocketPath n ++ [.probe config.proxySocketPath true])
        (.ok id)

inductive Course (options : Options) (config : Config) :
    List Effect → Except Failure Outcome → Prop
  | invalid {failure} (refused : config.validate = .error failure) :
      Course options config [] (.error failure)
  | unfetched (valid : config.validate = .ok ()) (failure) :
      Course options config [.fetchLive config.configzBaseUrl (.error failure)] (.error failure)
  | untouched (valid : config.validate = .ok ()) (live : LiveConfig)
      (patched : live.isPatched = true) (trusted : options.verifyProxyLiveness = false) :
      Course options config [.fetchLive config.configzBaseUrl (.ok live)] (.ok .alreadyConfigured)
  | answering (valid : config.validate = .ok ()) (live : LiveConfig)
      (patched : live.isPatched = true) (checked : options.verifyProxyLiveness = true) :
      Course options config
        [.fetchLive config.configzBaseUrl (.ok live), .probe config.proxySocketPath true]
        (.ok .alreadyConfigured)
  | deaf (valid : config.validate = .ok ()) (live : LiveConfig)
      (patched : live.isPatched = true) (checked : options.verifyProxyLiveness = true)
      {failure} (nowhere : engineEndpoint live = .error failure) :
      Course options config
        [.fetchLive config.configzBaseUrl (.ok live), .probe config.proxySocketPath false]
        (.error failure)
  | reinstalling (valid : config.validate = .ok ()) (live : LiveConfig)
      (patched : live.isPatched = true) (checked : options.verifyProxyLiveness = true)
      {endpoint} (located : engineEndpoint live = .ok endpoint) {effects result}
      (raising : Raising options config endpoint effects result) :
      Course options config
        (.fetchLive config.configzBaseUrl (.ok live) ::
          .probe config.proxySocketPath false :: effects)
        (result.map .reinstalled)
  | unsaved (valid : config.validate = .ok ()) (live : LiveConfig)
      (unpatched : live.isPatched = false) (failure) :
      Course options config
        [.fetchLive config.configzBaseUrl (.ok live),
          .save config.savedConfigPath live (.error failure)]
        (.error failure)
  | unlocated (valid : config.validate = .ok ()) (live : LiveConfig)
      (unpatched : live.isPatched = false)
      {failure} (nowhere : engineEndpoint live.withOverrides = .error failure) :
      Course options config
        [.fetchLive config.configzBaseUrl (.ok live),
          .save config.savedConfigPath live (.ok ())]
        (.error failure)
  | unnamed (valid : config.validate = .ok ()) (live : LiveConfig)
      (unpatched : live.isPatched = false)
      {endpoint} (located : engineEndpoint live.withOverrides = .ok endpoint) (failure) :
      Course options config
        [.fetchLive config.configzBaseUrl (.ok live),
          .save config.savedConfigPath live (.ok ()),
          .fetchNode config.statsBaseUrl (.error failure)]
        (.error failure)
  | unpublished (valid : config.validate = .ok ()) (live : LiveConfig)
      (unpatched : live.isPatched = false)
      {endpoint} (located : engineEndpoint live.withOverrides = .ok endpoint)
      (node : NodeIdentity) (failure) :
      Course options config
        [.fetchLive config.configzBaseUrl (.ok live),
          .save config.savedConfigPath live (.ok ()),
          .fetchNode config.statsBaseUrl (.ok node),
          .publish (Record.forNode node live.withOverrides) (.error failure)]
        (.error failure)
  | bootstrapping (valid : config.validate = .ok ()) (live : LiveConfig)
      (unpatched : live.isPatched = false)
      {endpoint} (located : engineEndpoint live.withOverrides = .ok endpoint)
      (node : NodeIdentity) {effects result}
      (raising : Raising options config endpoint effects result) :
      Course options config
        (.fetchLive config.configzBaseUrl (.ok live) ::
          .save config.savedConfigPath live (.ok ()) ::
          .fetchNode config.statsBaseUrl (.ok node) ::
          .publish (Record.forNode node live.withOverrides) (.ok ()) :: effects)
        (result.map .bootstrapped)

variable {σ : Type} {reach : Surroundings σ}

private theorem poll_succ (watch : Watch σ) (deadline interval tries : Nat) :
    (liftM (poll watch deadline interval (tries + 1)) : Act σ (Option Bool)) = (do
      if ← (liftM watch.probe : Act σ Bool) then pure (some true)
      else
        let now ← (liftM watch.now : Act σ Nat)
        if now ≥ deadline then pure (some false)
        else
          (liftM (watch.sleep (min interval (deadline - now))) : Act σ Unit)
          liftM (poll watch deadline interval tries)) := by
  rw [poll, liftM_bind]
  congr 1
  funext ready
  split
  · rfl
  · rw [liftM_bind]
    congr 1
    funext now
    split
    · rfl
    · rw [liftM_bind]

/-- The socket is tried at least once, however short the time. -/
private theorem mostTries_pos (readiness : Readiness) : 0 < mostTries readiness := by
  unfold mostTries
  split
  · exact Nat.succ_pos _
  · exact Nat.succ_pos _

namespace Traced

private theorem removeStale {engine : Engine σ} (reached : Connected reach engine)
    (ids : List String) :
    Traced reach id (Container.removeStale engine ids)
      (Container.removeStale (notedEngine engine) ids)
      (fun effects result =>
        (effects = removals ids ∧ result = .ok ()) ∨
        ∃ gone id rest failure, ids = gone ++ id :: rest ∧
          effects = removals gone ++ [.remove id (.error failure)] ∧
          result = .error (staleFailure id failure)) := by
  induction ids with
  | nil =>
    apply (Traced.pure ()).imp
    intro effects result ended
    obtain ⟨rfl, rfl⟩ := ended
    exact .inl ⟨rfl, rfl⟩
  | cons stale rest ih =>
    refine Traced.bind (Traced.restatedCall (.remove engine reached stale) _) ?_ ?_
    · intro effects result ended
      obtain ⟨_ | _, rfl, failed⟩ := ended
      · cases failed
        exact .inr ⟨[], stale, rest, _, rfl, rfl, rfl⟩
      · cases failed
    · intro effects result ended
      obtain ⟨_ | _, rfl, succeeded⟩ := ended
      · cases succeeded
      · apply ih.imp
        intro effects result ended
        obtain ⟨rfl, rfl⟩ | ⟨gone, stuck, left, failure, rfl, rfl, rfl⟩ := ended
        · exact .inl ⟨rfl, rfl⟩
        · exact .inr ⟨stale :: gone, stuck, left, failure, rfl, rfl, rfl⟩

private theorem startOrRemove {engine : Engine σ} (reached : Connected reach engine)
    (made : String) :
    Traced reach id (Container.startOrRemove engine made)
      (Container.startOrRemove (notedEngine engine) made)
      (fun effects result =>
        (effects = [.start made (.ok ())] ∧ result = .ok made) ∨
        ∃ failure cleanup, effects = [.start made (.error failure), .remove made cleanup] ∧
          result = .error failure) := by
  refine Traced.bind (Traced.outcomeOfCall (.start engine reached made)) ?_ ?_
  · intro effects result ended
    obtain ⟨_, _, ⟨⟩⟩ := ended
  · intro effects result ended
    obtain ⟨_ | _, rfl, ⟨⟩⟩ := ended
    · refine Traced.bind (Traced.outcomeOfCall (.remove engine reached made)) ?_ ?_
      · intro effects result ended
        obtain ⟨_, _, ⟨⟩⟩ := ended
      · intro effects result ended
        obtain ⟨_, rfl, ⟨⟩⟩ := ended
        apply (Traced.throw _).imp
        intro effects result ended
        obtain ⟨rfl, rfl⟩ := ended
        exact .inr ⟨_, _, rfl, rfl⟩
    · apply (Traced.pure made).imp
      intro effects result ended
      obtain ⟨rfl, rfl⟩ := ended
      exact .inl ⟨rfl, rfl⟩

private theorem connect (endpoint : String) :
    Traced reach notedEngine (reach.connect endpoint) ((noted reach).connect endpoint)
      (fun effects result => effects = [.connect endpoint (result.map fun _ => ())] ∧
        ∀ engine, result = .ok engine → Connected reach engine) := by
  intro s
  refine ⟨_, .call (.connect endpoint) (.still _), ⟨rfl, ?_⟩, ?_⟩
  · intro engine given
    exact ⟨endpoint, s, given⟩
  · intro log
    exact Act.run_map _ _ _

theorem install (endpoint proxyPath : String) (args : List String) :
    Traced reach id (Container.install reach.connect reach.stamp endpoint proxyPath args)
      (Container.install (noted reach).connect (noted reach).stamp endpoint proxyPath args)
      (Installation endpoint proxyPath args) := by
  refine Traced.bind (Traced.connect endpoint) ?_ ?_
  · intro effects failure ended
    obtain ⟨rfl, -⟩ := ended
    exact .unreachable failure
  intro engine result ended
  obtain ⟨rfl, connected⟩ := ended
  have reached := connected engine rfl
  refine Traced.bind (Traced.call (.list engine reached markerLabel)) ?_ ?_
  · intro effects failure ended
    subst ended
    exact .unlisted failure
  intro ids result ended
  subst ended
  refine Traced.bind (Traced.removeStale reached ids) ?_ ?_
  · intro effects result ended
    obtain ⟨-, ⟨⟩⟩ | ⟨gone, stuck, rest, failure, rfl, rfl, ⟨⟩⟩ := ended
    exact .stuck gone stuck rest failure
  intro effects result ended
  obtain ⟨rfl, -⟩ | ⟨_, _, _, _, _, _, ⟨⟩⟩ := ended
  refine Traced.bind (Traced.restatedCall (.pull engine reached proxyImage) _) ?_ ?_
  · intro effects result ended
    obtain ⟨_ | _, rfl, ⟨⟩⟩ := ended
    exact .unpulled ids _
  intro effects result ended
  obtain ⟨_ | ⟨⟩, rfl, ⟨⟩⟩ := ended
  refine Traced.bind Traced.stamp ?_ ?_
  · intro effects result ended
    obtain ⟨_, _, ⟨⟩⟩ := ended
  intro suffix result ended
  obtain ⟨rfl, -⟩ := ended
  refine Traced.bind (Traced.call (.create engine reached _)) ?_ ?_
  · intro effects failure ended
    subst ended
    simpa [pulled, cleared, Except.map] using Installation.uncreated ids suffix failure
  intro made result ended
  subst ended
  apply (Traced.startOrRemove reached made).imp
  intro effects result ended
  obtain ⟨rfl, rfl⟩ | ⟨failure, cleanup, rfl, rfl⟩ := ended
  · simpa [replaced, pulled, cleared, Except.map] using Installation.installed ids suffix made
  · simpa [replaced, pulled, cleared, Except.map] using Installation.unstarted ids suffix made failure cleanup

private theorem poll (path : Path) (deadline interval tries : Nat) :
    Traced reach id (liftM (Socket.poll (reach.watch path) deadline interval tries))
      (liftM (Socket.poll ((noted reach).watch path) deadline interval tries))
      (fun effects result => ∃ n,
        (effects = refusals path n ++ [.probe path true] ∧ result = .ok (some true)) ∨
        (effects = refusals path n ∧ (0 < tries → 0 < n) ∧
          ∃ decided, result = .ok decided ∧ decided ≠ some true)) := by
  -- Whatever the clock shows, a try that finds no one is one more refusal before the rest.
  induction tries with
  | zero =>
    apply (Traced.pure none).imp
    intro effects result ended
    obtain ⟨rfl, rfl⟩ := ended
    exact ⟨0, .inr ⟨rfl, id, none, rfl, by simp⟩⟩
  | succ tries ih =>
    rw [poll_succ, poll_succ]
    refine Traced.bind (Traced.probe path) ?_ ?_
    · intro effects result ended
      obtain ⟨_, _, ⟨⟩⟩ := ended
    intro ready result ended
    obtain ⟨_, rfl, ⟨⟩⟩ := ended
    cases ready with
    | true =>
      apply (Traced.pure (some true)).imp
      intro effects result ended
      obtain ⟨rfl, rfl⟩ := ended
      exact ⟨0, .inl ⟨rfl, rfl⟩⟩
    | false =>
      refine Traced.bind (Traced.now path) ?_ ?_
      · intro effects result ended
        obtain ⟨_, _, ⟨⟩⟩ := ended
      intro time result ended
      obtain ⟨rfl, -⟩ := ended
      by_cases passed : time ≥ deadline
      · simp only [id, passed, if_true]
        apply (Traced.pure (some false)).imp
        intro effects result ended
        obtain ⟨rfl, rfl⟩ := ended
        exact ⟨1, .inr ⟨rfl, by simp, some false, rfl, by simp⟩⟩
      · simp only [id, passed, if_false]
        refine Traced.bind (Traced.sleep path _) ?_ ?_
        · intro effects result ended
          obtain ⟨_, ⟨⟩⟩ := ended
        intro effects result ended
        obtain ⟨rfl, -⟩ := ended
        apply ih.imp
        intro effects result ended
        obtain ⟨n, ⟨rfl, rfl⟩ | ⟨rfl, -, undecided⟩⟩ := ended
        · exact ⟨n + 1, .inl ⟨rfl, rfl⟩⟩
        · exact ⟨n + 1, .inr ⟨rfl, by simp, undecided⟩⟩

private theorem wait (path : Path) (readiness : Readiness) :
    Traced reach id (Socket.wait (reach.watch path) path readiness)
      (Socket.wait ((noted reach).watch path) path readiness)
      (fun effects result => ∃ n,
        (effects = refusals path n ++ [.probe path true] ∧ result = .ok ()) ∨
        (effects = refusals path (n + 1) ∧ result = .error (notReady path readiness))) := by
  refine Traced.bind (Traced.now path) ?_ ?_
  · intro effects result ended
    obtain ⟨_, _, ⟨⟩⟩ := ended
  intro start result ended
  obtain ⟨rfl, -⟩ := ended
  refine Traced.bind (Traced.poll path _ _ _) ?_ ?_
  · intro effects result ended
    obtain ⟨_, ⟨_, ⟨⟩⟩ | ⟨_, _, _, ⟨⟩, _⟩⟩ := ended
  intro decided result ended
  obtain ⟨n, ⟨rfl, ⟨⟩⟩ | ⟨rfl, tried, _, ⟨⟩, undecided⟩⟩ := ended
  · apply (Traced.pure ()).imp
    intro effects result ended
    obtain ⟨rfl, rfl⟩ := ended
    exact ⟨n, .inl ⟨by simp, rfl⟩⟩
  · simp only [id, undecided, if_false]
    apply (Traced.throw _).imp
    intro effects result ended
    obtain ⟨rfl, rfl⟩ := ended
    obtain ⟨m, rfl⟩ := Nat.exists_eq_add_one.mpr (tried (mostTries_pos readiness))
    exact ⟨m, .inr ⟨by simp, rfl⟩⟩

variable (options : Options) (config : Config)

theorem installAndWait (endpoint : String) :
    Traced reach id (Bootstrap.installAndWait reach options config endpoint)
      (Bootstrap.installAndWait (noted reach) options config endpoint)
      (Raising options config endpoint) := by
  refine Traced.bind (Traced.install endpoint config.proxyPath config.proxyArgs) ?_ ?_
  · intro effects failure installation
    exact .failed installation
  intro made earlier installation
  refine Traced.bind (Traced.wait config.proxySocketPath options.readiness) ?_ ?_
  · intro effects failure waited
    obtain ⟨n, ⟨_, ⟨⟩⟩ | ⟨rfl, ⟨⟩⟩⟩ := waited
    exact .late n installation
  intro _ tries waited
  obtain ⟨n, ⟨rfl, _⟩ | ⟨_, ⟨⟩⟩⟩ := waited
  apply (Traced.pure made).imp
  intro effects result ended
  obtain ⟨rfl, rfl⟩ := ended
  simpa using Raising.ready n installation

theorem verifyInstalled (valid : config.validate = .ok ()) (live : LiveConfig)
    (patched : live.isPatched = true) :
    Traced reach id (Bootstrap.verifyInstalled reach options config live)
      (Bootstrap.verifyInstalled (noted reach) options config live)
      (fun effects result =>
        Course options config (.fetchLive config.configzBaseUrl (.ok live) :: effects) result) := by
  unfold Bootstrap.verifyInstalled
  cases checked : options.verifyProxyLiveness with
  | false =>
    apply (Traced.pure _).imp
    intro effects result ended
    obtain ⟨rfl, rfl⟩ := ended
    exact .untouched valid live patched checked
  | true =>
    refine Traced.bind (Traced.probe config.proxySocketPath) ?_ ?_
    · intro effects failure answered
      obtain ⟨_, _, ⟨⟩⟩ := answered
    intro ready earlier answered
    obtain ⟨_, rfl, ⟨⟩⟩ := answered
    cases ready with
    | true =>
      apply (Traced.pure _).imp
      intro effects result ended
      obtain ⟨rfl, rfl⟩ := ended
      exact .answering valid live patched checked
    | false =>
      refine Traced.bind (Traced.ofExcept (engineEndpoint live)) ?_ ?_
      · intro effects failure ended
        obtain ⟨rfl, nowhere⟩ := ended
        exact .deaf valid live patched checked nowhere.symm
      intro endpoint _ ended
      obtain ⟨rfl, located⟩ := ended
      apply Traced.map
      apply (Traced.installAndWait options config endpoint).imp
      intro effects result raising
      exact .reinstalling valid live patched checked located.symm raising

theorem patch (path : Path) (live : LiveConfig) :
    Traced reach id (Kubelet.patch (reach.save path) live)
      (Kubelet.patch ((noted reach).save path) live)
      (fun effects result =>
        (live.isPatched = true ∧ effects = [] ∧ result = .ok (.alreadyPatched live)) ∨
        (live.isPatched = false ∧ ∃ answer, effects = [.save path live answer] ∧
          match answer with
          | .error failure => result = .error failure
          | .ok () => result =
            (engineEndpoint live.withOverrides).map (.patched live.withOverrides))) := by
  unfold Kubelet.patch
  cases patched : live.isPatched with
  | true =>
    apply (Traced.pure _).imp
    intro effects result ended
    obtain ⟨rfl, rfl⟩ := ended
    exact .inl ⟨rfl, rfl, rfl⟩
  | false =>
    refine Traced.bind (Traced.call (.save path live)) ?_ ?_
    · intro effects failure saved
      exact .inr ⟨rfl, .error failure, saved, rfl⟩
    intro _ earlier saved
    refine Traced.bind (Traced.ofExcept (engineEndpoint live.withOverrides)) ?_ ?_
    · intro effects failure ended
      obtain ⟨rfl, nowhere⟩ := ended
      exact .inr ⟨rfl, .ok (), by simp [saved], by rw [← nowhere]; rfl⟩
    intro endpoint _ ended
    obtain ⟨rfl, located⟩ := ended
    apply (Traced.pure _).imp
    intro effects result ended
    obtain ⟨rfl, rfl⟩ := ended
    exact .inr ⟨rfl, .ok (), by simp [saved], by rw [← located]; rfl⟩

theorem run : Traced reach id (Bootstrap.run reach options config)
    (Bootstrap.run (noted reach) options config) (Course options config) := by
  refine Traced.bind (Traced.ofExcept config.validate) ?_ ?_
  · intro effects failure ended
    obtain ⟨rfl, refused⟩ := ended
    exact .invalid refused.symm
  intro _ _ ended
  obtain ⟨rfl, valid⟩ := ended
  have valid := valid.symm
  refine Traced.bind (Traced.call (.fetchLive options.introspection config.configzBaseUrl)) ?_ ?_
  · intro effects failure fetched
    subst fetched
    exact .unfetched valid failure
  intro live earlier fetched
  subst fetched
  refine Traced.bind (Traced.patch config.savedConfigPath live) ?_ ?_
  · intro effects failure patched
    obtain ⟨_, _, ⟨⟩⟩ | ⟨unpatched, answer, rfl, ended⟩ := patched
    cases answer with
    | error cause =>
      cases ended
      exact .unsaved valid live unpatched failure
    | ok _ =>
      cases located : engineEndpoint live.withOverrides with
      | error cause =>
        rw [located] at ended
        cases ended
        exact .unlocated valid live unpatched located
      | ok endpoint =>
        rw [located] at ended
        cases ended
  intro outcome earlier patched
  obtain ⟨patched, rfl, ⟨⟩⟩ | ⟨unpatched, answer, rfl, ended⟩ := patched
  · exact Traced.verifyInstalled options config valid live patched
  cases answer with
  | error cause => cases ended
  | ok _ =>
    cases located : engineEndpoint live.withOverrides with
    | error cause =>
      rw [located] at ended
      cases ended
    | ok endpoint =>
      rw [located] at ended
      cases ended
      refine Traced.bind (Traced.call (.fetchNode options.introspection config.statsBaseUrl)) ?_ ?_
      · intro effects failure fetched
        subst fetched
        exact .unnamed valid live unpatched located failure
      intro node earlier fetched
      subst fetched
      refine Traced.bind (Traced.call (.publish (Record.forNode node live.withOverrides))) ?_ ?_
      · intro effects failure published
        subst published
        exact .unpublished valid live unpatched located node failure
      intro _ earlier published
      subst published
      apply Traced.map
      apply (Traced.installAndWait options config endpoint).imp
      intro effects result raising
      exact .bootstrapping valid live unpatched located node raising

end Traced

variable (reach) (options : Options) (config : Config)

private theorem run_traced (s : σ) :
    Goes reach s (effects reach options config s) ((run reach options config).run s).2 ∧
      Course options config (effects reach options config s) ((run reach options config).run s).1 ∧
      ∀ log, (run (noted reach) options config).run (s, log) =
        (((run reach options config).run s).1, ((run reach options config).run s).2,
          log ++ effects reach options config s) := by
  obtain ⟨noticed, goes, course, same⟩ := Traced.run options config s
  have all : effects reach options config s = noticed := by
    rw [effects, same, List.nil_append]
  rw [all]
  refine ⟨goes, course, ?_⟩
  intro log
  rw [same, Except.map_id, id_eq]

/-- Noting changes nothing about a run, and adds its effects to whatever was noted. -/
theorem run_noted (s : σ) (log : List Effect) :
    (run (noted reach) options config).run (s, log) =
      (((run reach options config).run s).1, ((run reach options config).run s).2,
        log ++ effects reach options config s) :=
  (run_traced reach options config s).2.2 log

theorem run_goes (s : σ) :
    Goes reach s (effects reach options config s) ((run reach options config).run s).2 :=
  (run_traced reach options config s).1

/-- Every run takes one of the courses. -/
theorem run_course (s : σ) :
    Course options config (effects reach options config s) ((run reach options config).run s).1 :=
  (run_traced reach options config s).2.1

end RuntimeHandover.Bootstrap
