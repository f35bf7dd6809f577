import RuntimeHandover.Proofs.Bootstrap.Gating
import RuntimeHandover.Proofs.Kubelet.Patch

/-! When a run publishes, and the worlds that it goes through until then. -/
namespace RuntimeHandover.Bootstrap
open Cluster Container Files Kubelet Socket

section steps

variable {σ : Type} {reach : Surroundings σ} {options : Options} {config : Config}
  {s fetched saved : σ} {live : LiveConfig} {failure : Failure}

private theorem run_valid (valid : config.validate = .ok ()) :
    (run reach options config).run s = (do
      let live ← reach.fetchLive options.introspection config.configzBaseUrl
      match ← patch (reach.save config.savedConfigPath) live with
      | .alreadyPatched live => verifyInstalled reach options config live
      | .patched patched endpoint =>
        let node ← reach.fetchNode options.introspection config.statsBaseUrl
        reach.publish (Record.forNode node patched)
        .bootstrapped <$> installAndWait reach options config endpoint : Act σ Outcome).run s := by
  unfold run
  rw [valid]
  rfl

theorem run_unfetched (valid : config.validate = .ok ())
    (fetching : (reach.fetchLive options.introspection config.configzBaseUrl).run s =
      (.error failure, fetched)) :
    (run reach options config).run s = (.error failure, fetched) := by
  rw [run_valid valid]
  exact Act.run_bind_error fetching

variable (valid : config.validate = .ok ())
  (fetching : (reach.fetchLive options.introspection config.configzBaseUrl).run s =
    (.ok live, fetched))
include valid fetching

theorem run_patched (patched : live.isPatched = true) :
    (run reach options config).run s =
      (verifyInstalled reach options config live).run fetched := by
  rw [run_valid valid]
  refine (Act.run_bind_ok fetching).trans ?_
  exact Act.run_bind_ok (run_patch_patched patched)

private theorem run_unsaved (unpatched : live.isPatched = false)
    (saving : (reach.save config.savedConfigPath live).run fetched = (.error failure, saved)) :
    (run reach options config).run s = (.error failure, saved) := by
  rw [run_valid valid]
  refine (Act.run_bind_ok fetching).trans ?_
  exact Act.run_bind_error (run_patch_unsaved unpatched saving)

variable (unpatched : live.isPatched = false)
  (saving : (reach.save config.savedConfigPath live).run fetched = (.ok (), saved))
include unpatched saving

private theorem run_unlocated (nowhere : engineEndpoint live = .error failure) :
    (run reach options config).run s = (.error failure, saved) := by
  rw [run_valid valid]
  refine (Act.run_bind_ok fetching).trans ?_
  have patched := run_patch_saved unpatched saving
  rw [nowhere] at patched
  exact Act.run_bind_error patched

section located

variable {endpoint : String} {named : σ} (located : engineEndpoint live = .ok endpoint)
include located

private theorem run_located :
    (run reach options config).run s = (do
      let node ← reach.fetchNode options.introspection config.statsBaseUrl
      reach.publish (Record.forNode node live.withOverrides)
      .bootstrapped <$> installAndWait reach options config endpoint : Act σ Outcome).run saved := by
  rw [run_valid valid]
  refine (Act.run_bind_ok fetching).trans ?_
  have patched := run_patch_saved unpatched saving
  rw [located] at patched
  exact Act.run_bind_ok patched

private theorem run_unnamed
    (naming : (reach.fetchNode options.introspection config.statsBaseUrl).run saved =
      (.error failure, named)) :
    (run reach options config).run s = (.error failure, named) := by
  rw [run_located valid fetching unpatched saving located]
  exact Act.run_bind_error naming

variable {node : NodeIdentity} {published : σ}
  (naming : (reach.fetchNode options.introspection config.statsBaseUrl).run saved =
    (.ok node, named))
include naming

private theorem run_unpublished
    (publishing : (reach.publish (Record.forNode node live.withOverrides)).run named =
      (.error failure, published)) :
    (run reach options config).run s = (.error failure, published) := by
  rw [run_located valid fetching unpatched saving located]
  refine (Act.run_bind_ok naming).trans ?_
  exact Act.run_bind_error publishing

theorem run_published
    (publishing : (reach.publish (Record.forNode node live.withOverrides)).run named =
      (.ok (), published)) :
    (run reach options config).run s =
      (.bootstrapped <$> installAndWait reach options config endpoint : Act σ Outcome).run
        published := by
  rw [run_located valid fetching unpatched saving located]
  refine (Act.run_bind_ok naming).trans ?_
  exact Act.run_bind_ok publishing

end located

end steps

structure Approach {σ : Type} (reach : Surroundings σ) (options : Options) (config : Config)
    (s : σ) (live : LiveConfig) (node : NodeIdentity) (fetched saved named : σ) : Prop where
  valid : config.validate = .ok ()
  fetching : (reach.fetchLive options.introspection config.configzBaseUrl).run s =
    (.ok live, fetched)
  unpatched : live.isPatched = false
  saving : (reach.save config.savedConfigPath live).run fetched = (.ok (), saved)
  located : ∃ endpoint, engineEndpoint live = .ok endpoint
  naming : (reach.fetchNode options.introspection config.statsBaseUrl).run saved =
    (.ok node, named)

section publishing

variable {σ : Type} {reach : Surroundings σ} {options : Options} {config : Config}
  {s fetched saved named : σ} {live : LiveConfig} {node : NodeIdentity}

theorem run_note {α : Type} {effect : Except Failure α → Effect} {action : Act σ α} {after : σ}
    {log : List Effect} {answer : Except Failure α} (ran : action.run s = (answer, after)) :
    (note effect action).run (s, log) = (answer, after, log ++ [effect answer]) := by
  change ((action.run s).1, (action.run s).2, log ++ [effect (action.run s).1]) = _
  rw [ran]

private theorem effects_of_run {result : Except Failure Outcome} {after : σ} {log : List Effect}
    (ran : (run (noted reach) options config).run (s, []) = (result, after, log)) :
    effects reach options config s = log := by
  unfold effects
  rw [ran]

private theorem Approach.noted
    (approach : Approach reach options config s live node fetched saved named) :
    let first := [.fetchLive config.configzBaseUrl (.ok live)]
    let second := first ++ [.save config.savedConfigPath live (.ok ())]
    let third := second ++ [.fetchNode config.statsBaseUrl (.ok node)]
    Approach (noted reach) options config (s, []) live node (fetched, first) (saved, second)
      (named, third) :=
  ⟨approach.valid, run_note approach.fetching, approach.unpatched, run_note approach.saving,
    approach.located, run_note approach.naming⟩

def leading (config : Config) (live : LiveConfig) (node : NodeIdentity)
    (answer : Except Failure Unit) : List Effect :=
  [.fetchLive config.configzBaseUrl (.ok live), .save config.savedConfigPath live (.ok ()),
    .fetchNode config.statsBaseUrl (.ok node),
    .publish (.forNode node live.withOverrides) answer]

/-- A run whose record is refused ends there. -/
theorem Approach.ends {failure : Failure} {after : σ}
    (approach : Approach reach options config s live node fetched saved named)
    (refused : (reach.publish (.forNode node live.withOverrides)).run named =
      (.error failure, after)) :
    (run reach options config).run s = (.error failure, after) ∧
      effects reach options config s = leading config live node (.error failure) := by
  obtain ⟨endpoint, located⟩ := approach.located
  have noticing := approach.noted
  constructor
  · exact run_unpublished approach.valid approach.fetching approach.unpatched approach.saving
      located approach.naming refused
  · exact effects_of_run (run_unpublished noticing.valid noticing.fetching noticing.unpatched
      noticing.saving located noticing.naming (run_note refused))

/-- A run whose record is made goes on to raise the proxy. -/
theorem Approach.raises {endpoint : String} {after : σ}
    (approach : Approach reach options config s live node fetched saved named)
    (located : engineEndpoint live = .ok endpoint)
    (made : (reach.publish (.forNode node live.withOverrides)).run named = (.ok (), after)) :
    let rest :=
      ((installAndWait (Bootstrap.noted reach) options config endpoint).run (after, [])).2.2
    let raised := (installAndWait reach options config endpoint).run after
    Raising options config endpoint rest raised.1 ∧
      (run reach options config).run s = (raised.1.map .bootstrapped, raised.2) ∧
      effects reach options config s = leading config live node (.ok ()) ++ rest := by
  intro rest raised
  have noticing := approach.noted
  obtain ⟨trace, _, raising, same⟩ := Traced.installAndWait options config endpoint after
  have whole : rest = trace := congrArg (·.2.2) (same [])
  rw [whole]
  refine ⟨raising, ?_, ?_⟩
  · rw [run_published approach.valid approach.fetching approach.unpatched approach.saving located
      approach.naming made, Act.run_map]
  · have ran := run_published noticing.valid noticing.fetching noticing.unpatched noticing.saving
      located noticing.naming (run_note made)
    rw [Act.run_map, same] at ran
    exact effects_of_run ran

theorem Approach.publishes
    (approach : Approach reach options config s live node fetched saved named) :
    let record := Record.forNode node live.withOverrides
    ∃ rest, effects reach options config s =
      .fetchLive config.configzBaseUrl (.ok live) ::
        .save config.savedConfigPath live (.ok ()) ::
        .fetchNode config.statsBaseUrl (.ok node) ::
        .publish record ((reach.publish record).run named).1 :: rest := by
  intro record
  rcases publishing : (reach.publish record).run named with ⟨failure | _, published⟩
  · exact ⟨[], (approach.ends publishing).2⟩
  · obtain ⟨endpoint, located⟩ := approach.located
    obtain ⟨_, _, noticed⟩ := approach.raises located publishing
    exact ⟨_, noticed⟩

theorem Approach.mem_effects
    (approach : Approach reach options config s live node fetched saved named) :
    let record := Record.forNode node live.withOverrides
    .publish record ((reach.publish record).run named).1 ∈ effects reach options config s := by
  obtain ⟨rest, same⟩ := approach.publishes
  rw [same]
  simp

/-- Nothing but the approach leads to publishing. -/
theorem approach_of_publish {record : Record} {answer : Except Failure Unit}
    (published : .publish record answer ∈ effects reach options config s) :
    ∃ live node fetched saved named,
      Approach reach options config s live node fetched saved named ∧
        record = Record.forNode node live.withOverrides ∧
        answer = ((reach.publish record).run named).1 := by
  cases valid : config.validate with
  | error failure =>
    have course := run_course reach options config s
    rw [course_invalid course valid] at published
    cases published
  | ok _ =>
    rcases fetching : (reach.fetchLive options.introspection config.configzBaseUrl).run s with
      ⟨failure | live, fetched⟩
    · rw [effects_of_run (run_unfetched valid (run_note fetching))] at published
      simp at published
    cases patched : live.isPatched with
    | true =>
      obtain ⟨rest, _, course, same⟩ :=
        Traced.verifyInstalled options config valid live patched fetched
      have stages := course_patched course List.mem_cons_self patched
      rw [effects_of_run ((run_patched valid (run_note fetching) patched).trans (same _))]
        at published
      -- The stages of a patched configuration do not include the record.
      have stage : Stage.record ∈ [Stage.live] := by
        rw [← stages]
        exact List.mem_filterMap.mpr ⟨_, published, rfl⟩
      simp at stage
    | false =>
      rcases saving : (reach.save config.savedConfigPath live).run fetched with
        ⟨failure | _, saved⟩
      · rw [effects_of_run (run_unsaved valid (run_note fetching) patched (run_note saving))]
          at published
        simp at published
      cases located : engineEndpoint live with
      | error failure =>
        rw [effects_of_run
          (run_unlocated valid (run_note fetching) patched (run_note saving) located)] at published
        simp at published
      | ok endpoint =>
        rcases naming : (reach.fetchNode options.introspection config.statsBaseUrl).run saved with
          ⟨failure | node, named⟩
        · rw [effects_of_run (run_unnamed valid (run_note fetching) patched (run_note saving)
            located (run_note naming))] at published
          simp at published
        have approach : Approach reach options config s live node fetched saved named :=
          ⟨valid, fetching, patched, saving, ⟨endpoint, located⟩, naming⟩
        refine ⟨live, node, fetched, saved, named, approach, ?_⟩
        -- What is due before a publication is what the approach does, so it is that publication.
        obtain ⟨rest, same⟩ := approach.publishes
        obtain ⟨before, after, split⟩ := List.append_of_mem published
        obtain ⟨_, _, _, _, past⟩ := (course_due (run_course reach options config s)).at_split split
        rw [List.nil_append] at past
        rw [same, past] at split
        simp only [List.cons_append, List.nil_append, List.cons.injEq, Effect.publish.injEq] at split
        obtain ⟨-, -, -, ⟨rfl, told⟩, -⟩ := split
        exact ⟨rfl, told.symm⟩

end publishing

end RuntimeHandover.Bootstrap
