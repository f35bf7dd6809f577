import RuntimeHandover.Proofs.Bootstrap.Course
import RuntimeHandover.Proofs.Kubelet.Overrides

/-! When each effect of a run is due. Before each of them the effects so far are exactly
those that lead to it, and nothing follows a call that failed but the removal of a
container that did not start. -/
namespace RuntimeHandover.Bootstrap
open Cluster Container Files Kubelet Socket

def Throughout (law : List Effect → Effect → List Effect → Prop) :
    List Effect → List Effect → Prop
  | _, [] => True
  | past, effect :: rest => law past effect rest ∧ Throughout law (past ++ [effect]) rest

section throughout

variable {law : List Effect → Effect → List Effect → Prop}

theorem Throughout.at_split {past effects before after : List Effect} {effect : Effect}
    (holds : Throughout law past effects) (split : effects = before ++ effect :: after) :
    law (past ++ before) effect after := by
  induction before generalizing past effects with
  | nil =>
    subst split
    rw [List.append_nil]
    exact holds.1
  | cons first rest ih =>
    subst split
    have later := ih holds.2 rfl
    rwa [List.append_assoc] at later

private theorem throughout_append {past first second : List Effect} :
    Throughout law past (first ++ second) ↔
      Throughout (fun past effect rest => law past effect (rest ++ second)) past first ∧
        Throughout law (past ++ first) second := by
  induction first generalizing past with
  | nil => simp [Throughout]
  | cons effect rest ih =>
    simp only [List.cons_append, Throughout, ih, List.append_assoc, List.nil_append, and_assoc]

end throughout

inductive Stage where
  | live
  | backup
  | node
  | record
  deriving DecidableEq, Repr

namespace Effect

def stage? : Effect → Option Stage
  | .fetchLive _ _ => some .live
  | .save _ _ _ => some .backup
  | .fetchNode _ _ => some .node
  | .publish _ _ => some .record
  | _ => none

def isConnect : Effect → Bool
  | .connect _ _ => true
  | _ => false

def failed : Effect → Bool
  | .fetchLive _ answer => !answer.isOk
  | .save _ _ answer => !answer.isOk
  | .fetchNode _ answer => !answer.isOk
  | .publish _ answer => !answer.isOk
  | .connect _ answer => !answer.isOk
  | .list _ answer => !answer.isOk
  | .remove _ answer => !answer.isOk
  | .pull _ answer => !answer.isOk
  | .create _ answer => !answer.isOk
  | .start _ answer => !answer.isOk
  | .probe _ _ => false

end Effect

/-- What an engine has to be reached for: the patched configuration was published, or the
configuration was patched before and its proxy does not answer. -/
inductive InstallDue (options : Options) (config : Config) : List Effect → String → Prop
  | published (live : LiveConfig) (unpatched : live.isPatched = false) (node : NodeIdentity)
      {endpoint} (located : live.get? engineEndpointKey = some (.string endpoint)) :
      InstallDue options config
        [.fetchLive config.configzBaseUrl (.ok live),
          .save config.savedConfigPath live (.ok ()),
          .fetchNode config.statsBaseUrl (.ok node),
          .publish (Record.forNode node live.withOverrides) (.ok ())] endpoint
  | unanswered (live : LiveConfig) (patched : live.isPatched = true)
      (checked : options.verifyProxyLiveness = true)
      {endpoint} (located : live.get? engineEndpointKey = some (.string endpoint)) :
      InstallDue options config
        [.fetchLive config.configzBaseUrl (.ok live), .probe config.proxySocketPath false]
        endpoint

def Due (options : Options) (config : Config) (past : List Effect) : Effect → Prop
  | .fetchLive base _ =>
    config.validate = .ok () ∧ base = config.configzBaseUrl ∧ past = []
  | .save path live _ => path = config.savedConfigPath ∧ live.isPatched = false ∧
    past = [.fetchLive config.configzBaseUrl (.ok live)]
  | .fetchNode base _ => base = config.statsBaseUrl ∧ ∃ live endpoint,
    live.isPatched = false ∧ live.get? engineEndpointKey = some (.string endpoint) ∧
    past = [.fetchLive config.configzBaseUrl (.ok live),
      .save config.savedConfigPath live (.ok ())]
  | .publish record _ => ∃ live node, live.isPatched = false ∧
    record = Record.forNode node live.withOverrides ∧
    past = [.fetchLive config.configzBaseUrl (.ok live),
      .save config.savedConfigPath live (.ok ()), .fetchNode config.statsBaseUrl (.ok node)]
  | .connect endpoint _ => InstallDue options config past endpoint
  | .list label _ => label = markerLabel ∧
    ∃ earlier endpoint, past = earlier ++ [.connect endpoint (.ok ())]
  | .remove id _ =>
    (∃ earlier gone rest,
      past = earlier ++ .list markerLabel (.ok (gone ++ id :: rest)) :: removals gone) ∨
    ∃ earlier spec failure, past = earlier ++ [.create spec (.ok id), .start id (.error failure)]
  | .pull image _ => image = proxyImage ∧
    ∃ earlier ids, past = earlier ++ .list markerLabel (.ok ids) :: removals ids
  | .create spec _ =>
    (∃ endpoint suffix, spec = Spec.proxy endpoint config.proxyPath config.proxyArgs suffix) ∧
    ∃ earlier, past = earlier ++ [.pull proxyImage (.ok ())]
  | .start id _ => ∃ earlier spec, past = earlier ++ [.create spec (.ok id)]
  | .probe path _ => path = config.proxySocketPath ∧
    ((∃ live, live.isPatched = true ∧ options.verifyProxyLiveness = true ∧
      past = [.fetchLive config.configzBaseUrl (.ok live)]) ∨
    ∃ earlier id n, past = earlier ++ .start id (.ok ()) :: refusals path n)

section due

variable {options : Options} {config : Config}

private abbrev EachDue (options : Options) (config : Config) : List Effect → List Effect → Prop :=
  Throughout fun past effect _ => Due options config past effect

private theorem eachDue_append {past first second : List Effect} :
    EachDue options config past (first ++ second) ↔
      EachDue options config past first ∧ EachDue options config (past ++ first) second :=
  throughout_append

private theorem removals_due (options : Options) (config : Config) (earlier : List Effect)
    (gone ids rest : List String) :
    EachDue options config
      (earlier ++ .list markerLabel (.ok (gone ++ ids ++ rest)) :: removals gone)
      (removals ids) := by
  induction ids generalizing gone with
  | nil => trivial
  | cons id more ih =>
    refine ⟨.inl ⟨earlier, gone, more ++ rest, ?_⟩, ?_⟩
    · simp
    · have later := ih (gone ++ [id])
      simpa [removals] using later

private theorem refusals_due (options : Options) (config : Config) (earlier : List Effect)
    (id : String) (n m : Nat) :
    EachDue options config
      (earlier ++ .start id (.ok ()) :: refusals config.proxySocketPath n)
      (refusals config.proxySocketPath m) := by
  induction m generalizing n with
  | zero => trivial
  | succ m ih =>
    refine ⟨⟨rfl, .inr ⟨earlier, id, n, rfl⟩⟩, ?_⟩
    have later := ih (n + 1)
    rw [refusals, List.replicate_succ'] at later
    simpa [refusals] using later

private theorem cleared_due {past : List Effect} {endpoint : String}
    (due : InstallDue options config past endpoint) (ids : List String) :
    EachDue options config past (cleared endpoint ids) := by
  refine ⟨due, ⟨rfl, past, endpoint, rfl⟩, ?_⟩
  have later := removals_due options config (past ++ [.connect endpoint (.ok ())]) [] ids []
  simpa [removals] using later

private theorem pulled_due {past : List Effect} {endpoint : String}
    (due : InstallDue options config past endpoint) (ids : List String) :
    EachDue options config past (pulled endpoint ids) := by
  refine eachDue_append.mpr ⟨cleared_due due ids, ⟨rfl, ?_⟩, trivial⟩
  exact ⟨past ++ [.connect endpoint (.ok ())], ids, by simp [cleared]⟩

private theorem replaced_due {past : List Effect} {endpoint : String}
    (due : InstallDue options config past endpoint) (ids : List String) (suffix : Int)
    (id : String) :
    EachDue options config past
      (replaced endpoint ids (Spec.proxy endpoint config.proxyPath config.proxyArgs suffix) id) := by
  refine eachDue_append.mpr ⟨pulled_due due ids, ⟨⟨endpoint, suffix, rfl⟩, ?_⟩, trivial⟩
  exact ⟨past ++ cleared endpoint ids, by simp [pulled]⟩

private theorem installation_due {past effects : List Effect} {endpoint : String}
    {result : Except Failure String} (due : InstallDue options config past endpoint)
    (installation : Installation endpoint config.proxyPath config.proxyArgs effects result) :
    EachDue options config past effects := by
  cases installation with
  | unreachable failure => exact ⟨due, trivial⟩
  | unlisted failure => exact ⟨due, ⟨rfl, past, endpoint, rfl⟩, trivial⟩
  | stuck gone id rest failure =>
    refine eachDue_append.mpr ⟨⟨due, ⟨rfl, past, endpoint, rfl⟩, ?_⟩, .inl ?_, trivial⟩
    · have earlier := removals_due options config
        (past ++ [.connect endpoint (.ok ())]) [] gone (id :: rest)
      simpa [removals] using earlier
    · exact ⟨past ++ [.connect endpoint (.ok ())], gone, rest, by simp⟩
  | unpulled ids failure =>
    refine eachDue_append.mpr ⟨cleared_due due ids, ⟨rfl, ?_⟩, trivial⟩
    exact ⟨past ++ [.connect endpoint (.ok ())], ids, by simp [cleared]⟩
  | uncreated ids suffix failure =>
    refine eachDue_append.mpr ⟨pulled_due due ids, ⟨⟨endpoint, suffix, rfl⟩, ?_⟩, trivial⟩
    exact ⟨past ++ cleared endpoint ids, by simp [pulled]⟩
  | unstarted ids suffix id failure cleanup =>
    refine eachDue_append.mpr ⟨replaced_due due ids suffix id, ?_, .inr ?_, trivial⟩
    · exact ⟨past ++ pulled endpoint ids, _, (List.append_assoc _ _ _).symm⟩
    · exact ⟨past ++ pulled endpoint ids, Spec.proxy endpoint config.proxyPath config.proxyArgs suffix,
        failure, by simp [replaced]⟩
  | installed ids suffix id =>
    refine eachDue_append.mpr ⟨replaced_due due ids suffix id, ?_, trivial⟩
    exact ⟨past ++ pulled endpoint ids, _, (List.append_assoc _ _ _).symm⟩

theorem installation_ends {endpoint proxyPath : String} {args : List String}
    {effects : List Effect} {id : String}
    (installation : Installation endpoint proxyPath args effects (.ok id)) :
    ∃ earlier, effects = earlier ++ [.start id (.ok ())] := by
  cases installation with
  | installed ids suffix id => exact ⟨_, rfl⟩

private theorem raising_due {past effects : List Effect} {endpoint : String}
    {result : Except Failure String} (due : InstallDue options config past endpoint)
    (raising : Raising options config endpoint effects result) :
    EachDue options config past effects := by
  cases raising with
  | failed installation => exact installation_due due installation
  | late n installation =>
    refine eachDue_append.mpr ⟨installation_due due installation, ?_⟩
    obtain ⟨earlier, rfl⟩ := installation_ends installation
    rw [← List.append_assoc]
    exact refusals_due options config (past ++ earlier) _ 0 (n + 1)
  | @ready _ id n installation =>
    rw [List.append_assoc]
    refine eachDue_append.mpr ⟨installation_due due installation, ?_⟩
    obtain ⟨earlier, rfl⟩ := installation_ends installation
    refine eachDue_append.mpr ⟨?_, ⟨rfl, .inr ?_⟩, trivial⟩
    · rw [← List.append_assoc]
      exact refusals_due options config (past ++ earlier) _ 0 n
    · exact ⟨past ++ earlier, id, n, by simp⟩

/-- Every effect of a run is due when it comes. -/
theorem course_due {effects : List Effect} {result : Except Failure Outcome}
    (course : Course options config effects result) : EachDue options config [] effects := by
  cases course with
  | invalid refused => trivial
  | unfetched valid failure => exact ⟨⟨valid, rfl, rfl⟩, trivial⟩
  | untouched valid live patched trusted => exact ⟨⟨valid, rfl, rfl⟩, trivial⟩
  | answering valid live patched checked =>
    exact ⟨⟨valid, rfl, rfl⟩, ⟨rfl, .inl ⟨live, patched, checked, rfl⟩⟩, trivial⟩
  | deaf valid live patched checked nowhere =>
    exact ⟨⟨valid, rfl, rfl⟩, ⟨rfl, .inl ⟨live, patched, checked, rfl⟩⟩, trivial⟩
  | reinstalling valid live patched checked located raising =>
    rw [engineEndpoint_eq_ok_iff] at located
    exact ⟨⟨valid, rfl, rfl⟩, ⟨rfl, .inl ⟨live, patched, checked, rfl⟩⟩,
      raising_due (.unanswered live patched checked located) raising⟩
  | unsaved valid live unpatched failure =>
    exact ⟨⟨valid, rfl, rfl⟩, ⟨rfl, unpatched, rfl⟩, trivial⟩
  | unlocated valid live unpatched nowhere =>
    exact ⟨⟨valid, rfl, rfl⟩, ⟨rfl, unpatched, rfl⟩, trivial⟩
  | unnamed valid live unpatched located failure =>
    rw [engineEndpoint_withOverrides, engineEndpoint_eq_ok_iff] at located
    exact ⟨⟨valid, rfl, rfl⟩, ⟨rfl, unpatched, rfl⟩,
      ⟨rfl, live, _, unpatched, located, rfl⟩, trivial⟩
  | unpublished valid live unpatched located node failure =>
    rw [engineEndpoint_withOverrides, engineEndpoint_eq_ok_iff] at located
    exact ⟨⟨valid, rfl, rfl⟩, ⟨rfl, unpatched, rfl⟩,
      ⟨rfl, live, _, unpatched, located, rfl⟩, ⟨live, node, unpatched, rfl, rfl⟩, trivial⟩
  | bootstrapping valid live unpatched located node raising =>
    rw [engineEndpoint_withOverrides, engineEndpoint_eq_ok_iff] at located
    exact ⟨⟨valid, rfl, rfl⟩, ⟨rfl, unpatched, rfl⟩,
      ⟨rfl, live, _, unpatched, located, rfl⟩, ⟨live, node, unpatched, rfl, rfl⟩,
      raising_due (.published live unpatched node located) raising⟩

end due

/-- What may follow an effect: nothing after a failure, except that a container that does
not start is removed. -/
def Last (_ : List Effect) (effect : Effect) (after : List Effect) : Prop :=
  effect.failed = true → after = [] ∨
    ∃ id failure cleanup, effect = .start id (.error failure) ∧ after = [.remove id cleanup]

section last

variable {options : Options} {config : Config} {past effects : List Effect}

private theorem last_append {first second : List Effect}
    (smooth : ∀ effect ∈ first, effect.failed = false)
    (ended : Throughout Last (past ++ first) second) : Throughout Last past (first ++ second) := by
  induction first generalizing past with
  | nil => simpa using ended
  | cons effect rest ih =>
    refine ⟨?_, ih ?_ ?_⟩
    · intro failed
      rw [smooth effect List.mem_cons_self] at failed
      cases failed
    · intro later inside
      exact smooth later (List.mem_cons_of_mem _ inside)
    · simpa using ended

private theorem last_single (effect : Effect) : Throughout Last past [effect] := by
  refine ⟨?_, trivial⟩
  intro _
  exact .inl rfl

private theorem last_smooth (smooth : ∀ effect ∈ effects, effect.failed = false) :
    Throughout Last past effects := by
  have ended : Throughout Last past (effects ++ []) := last_append smooth trivial
  simpa using ended

private theorem isOk_ok {α : Type} (a : α) : (Except.ok a : Except Failure α).isOk = true := rfl

private theorem cleared_smooth (endpoint : String) (ids : List String) :
    ∀ effect ∈ cleared endpoint ids, effect.failed = false := by
  simp [cleared, removals, Effect.failed, isOk_ok]

private theorem pulled_smooth (endpoint : String) (ids : List String) :
    ∀ effect ∈ pulled endpoint ids, effect.failed = false := by
  have before := cleared_smooth endpoint ids
  simpa [pulled, Effect.failed, isOk_ok, or_imp, forall_and] using before

private theorem replaced_smooth (endpoint : String) (ids : List String) (spec : Spec)
    (id : String) :
    ∀ effect ∈ replaced endpoint ids spec id, effect.failed = false := by
  have before := pulled_smooth endpoint ids
  simpa [replaced, Effect.failed, isOk_ok, or_imp, forall_and] using before

private theorem refusals_smooth (path : Path) (n : Nat) :
    ∀ effect ∈ refusals path n, effect.failed = false := by
  simp [refusals, Effect.failed]

private theorem installation_smooth {endpoint proxyPath : String} {args : List String} {id : String}
    (installation : Installation endpoint proxyPath args effects (.ok id)) :
    ∀ effect ∈ effects, effect.failed = false := by
  cases installation with
  | installed ids suffix id =>
    have before := replaced_smooth endpoint ids (Spec.proxy endpoint proxyPath args suffix) id
    simpa [Effect.failed, isOk_ok, or_imp, forall_and] using before

private theorem installation_last {endpoint proxyPath : String} {args : List String}
    {result : Except Failure String}
    (installation : Installation endpoint proxyPath args effects result) :
    Throughout Last past effects := by
  cases installation with
  | unreachable failure => exact last_single _
  | unlisted failure =>
    refine ⟨?_, last_single _⟩
    intro failed
    cases failed
  | stuck gone id rest failure =>
    refine last_append ?_ (last_single _)
    simp [removals, Effect.failed, isOk_ok]
  | unpulled ids failure => exact last_append (cleared_smooth endpoint ids) (last_single _)
  | uncreated ids suffix failure => exact last_append (pulled_smooth endpoint ids) (last_single _)
  | unstarted ids suffix id failure cleanup =>
    refine last_append (replaced_smooth endpoint ids _ id) ⟨?_, last_single _⟩
    intro _
    exact .inr ⟨id, failure, cleanup, rfl, rfl⟩
  | installed ids suffix id =>
    exact last_append (replaced_smooth endpoint ids _ id) (last_single _)

private theorem raising_last {endpoint : String} {result : Except Failure String}
    (raising : Raising options config endpoint effects result) :
    Throughout Last past effects := by
  cases raising with
  | failed installation => exact installation_last installation
  | late n installation =>
    exact last_append (installation_smooth installation)
      (last_smooth (refusals_smooth config.proxySocketPath (n + 1)))
  | ready n installation =>
    rw [List.append_assoc]
    exact last_append (installation_smooth installation)
      (last_append (refusals_smooth config.proxySocketPath n) (last_single _))

/-- A run ends with its first failure, and at most a removal follows. -/
private theorem course_last {result : Except Failure Outcome}
    (course : Course options config effects result) : Throughout Last past effects := by
  have smoothly {past rest : List Effect} {effect : Effect} (smooth : effect.failed = false)
      (ended : Throughout Last (past ++ [effect]) rest) :
      Throughout Last past (effect :: rest) :=
    last_append (List.forall_mem_singleton.mpr smooth) ended
  cases course with
  | invalid refused => trivial
  | unfetched valid failure => exact last_single _
  | untouched valid live patched trusted => exact last_single _
  | answering valid live patched checked => exact smoothly rfl (last_single _)
  | deaf valid live patched checked nowhere => exact smoothly rfl (last_single _)
  | reinstalling valid live patched checked located raising =>
    exact smoothly rfl (smoothly rfl (raising_last raising))
  | unsaved valid live unpatched failure => exact smoothly rfl (last_single _)
  | unlocated valid live unpatched nowhere => exact smoothly rfl (last_single _)
  | unnamed valid live unpatched located failure =>
    exact smoothly rfl (smoothly rfl (last_single _))
  | unpublished valid live unpatched located node failure =>
    exact smoothly rfl (smoothly rfl (smoothly rfl (last_single _)))
  | bootstrapping valid live unpatched located node raising =>
    exact smoothly rfl (smoothly rfl (smoothly rfl (smoothly rfl (raising_last raising))))

end last

section stages

variable {options : Options} {config : Config} {effects : List Effect}

private theorem installation_starts {endpoint proxyPath : String} {args : List String}
    {result : Except Failure String}
    (installation : Installation endpoint proxyPath args effects result) :
    ∃ answer rest, effects = .connect endpoint answer :: rest ∧
      ∀ effect ∈ rest, effect.stage? = none ∧ effect.isConnect = false := by
  cases installation with
  | unreachable failure =>
    refine ⟨_, _, rfl, ?_⟩
    simp
  | unlisted failure =>
    refine ⟨_, _, rfl, ?_⟩
    simp [Effect.stage?, Effect.isConnect]
  | stuck gone id rest failure =>
    refine ⟨_, _, rfl, ?_⟩
    simp [removals, Effect.stage?, Effect.isConnect, or_imp, forall_and]
  | unpulled ids failure =>
    refine ⟨_, _, rfl, ?_⟩
    simp [removals, Effect.stage?, Effect.isConnect, or_imp, forall_and]
  | uncreated ids suffix failure =>
    refine ⟨_, _, rfl, ?_⟩
    simp [removals, Effect.stage?, Effect.isConnect, or_imp, forall_and]
  | unstarted ids suffix id failure cleanup =>
    refine ⟨_, _, rfl, ?_⟩
    simp [removals, Effect.stage?, Effect.isConnect, or_imp, forall_and]
  | installed ids suffix id =>
    refine ⟨_, _, rfl, ?_⟩
    simp [removals, Effect.stage?, Effect.isConnect, or_imp, forall_and]

private theorem raising_starts {endpoint : String} {result : Except Failure String}
    (raising : Raising options config endpoint effects result) :
    ∃ answer rest, effects = .connect endpoint answer :: rest ∧
      ∀ effect ∈ rest, effect.stage? = none ∧ effect.isConnect = false := by
  cases raising with
  | failed installation => exact installation_starts installation
  | late n installation =>
    obtain ⟨answer, rest, rfl, later⟩ := installation_starts installation
    refine ⟨answer, _, rfl, ?_⟩
    intro effect inside
    rcases List.mem_append.mp inside with inside | tried
    · exact later effect inside
    · rw [List.eq_of_mem_replicate tried]
      exact ⟨rfl, rfl⟩
  | ready n installation =>
    obtain ⟨answer, rest, rfl, later⟩ := installation_starts installation
    refine ⟨answer, _, rfl, ?_⟩
    intro effect inside
    rcases List.mem_append.mp inside with inside | answered
    · rcases List.mem_append.mp inside with inside | tried
      · exact later effect inside
      · rw [List.eq_of_mem_replicate tried]
        exact ⟨rfl, rfl⟩
    · rw [List.mem_singleton.mp answered]
      exact ⟨rfl, rfl⟩

private theorem raising_stages {endpoint : String} {result : Except Failure String}
    (raising : Raising options config endpoint effects result) :
    effects.filterMap Effect.stage? = [] := by
  obtain ⟨answer, rest, rfl, later⟩ := raising_starts raising
  rw [List.filterMap_cons_none rfl, List.filterMap_eq_nil_iff]
  intro effect inside
  exact (later effect inside).1

private theorem raising_connects {endpoint : String} {result : Except Failure String}
    (raising : Raising options config endpoint effects result) :
    effects.countP Effect.isConnect = 1 := by
  obtain ⟨answer, rest, rfl, later⟩ := raising_starts raising
  have none_later : rest.countP Effect.isConnect = 0 := by
    rw [List.countP_eq_zero]
    intro effect inside
    simp [(later effect inside).2]
  rw [List.countP_cons_of_pos rfl, none_later]

/-- The stages before the engine come in their order and none twice. -/
theorem course_stages {result : Except Failure Outcome}
    (course : Course options config effects result) :
    effects.filterMap Effect.stage? <+: [.live, .backup, .node, .record] := by
  cases course with
  | invalid refused => exact List.nil_prefix
  | unfetched valid failure => exact ⟨[.backup, .node, .record], rfl⟩
  | untouched valid live patched trusted => exact ⟨[.backup, .node, .record], rfl⟩
  | answering valid live patched checked => exact ⟨[.backup, .node, .record], rfl⟩
  | deaf valid live patched checked nowhere => exact ⟨[.backup, .node, .record], rfl⟩
  | reinstalling valid live patched checked located raising =>
    simp only [List.filterMap_cons, Effect.stage?, raising_stages raising]
    exact ⟨[.backup, .node, .record], rfl⟩
  | unsaved valid live unpatched failure => exact ⟨[.node, .record], rfl⟩
  | unlocated valid live unpatched nowhere => exact ⟨[.node, .record], rfl⟩
  | unnamed valid live unpatched located failure => exact ⟨[.record], rfl⟩
  | unpublished valid live unpatched located node failure => exact ⟨[], rfl⟩
  | bootstrapping valid live unpatched located node raising =>
    simp only [List.filterMap_cons, Effect.stage?, raising_stages raising]
    exact ⟨[], rfl⟩

private theorem course_connects {result : Except Failure Outcome}
    (course : Course options config effects result) : effects.countP Effect.isConnect ≤ 1 := by
  cases course with
  | reinstalling valid live patched checked located raising =>
    simp [Effect.isConnect, raising_connects raising]
  | bootstrapping valid live unpatched located node raising =>
    simp [Effect.isConnect, raising_connects raising]
  | _ => simp [Effect.isConnect]

theorem course_fetched {result : Except Failure Outcome} {base : String} {live : LiveConfig}
    (course : Course options config effects result)
    (fetched : .fetchLive base (.ok live) ∈ effects) :
    ∃ rest, effects = .fetchLive config.configzBaseUrl (.ok live) :: rest := by
  obtain ⟨before, after, split⟩ := List.append_of_mem fetched
  obtain ⟨-, rfl, none_before⟩ := (course_due course).at_split split
  rw [List.nil_append] at none_before
  rw [none_before] at split
  exact ⟨after, split⟩

/-- Once the live configuration is known to be patched nothing is saved, no node is asked
for and nothing is published. -/
theorem course_patched {result : Except Failure Outcome} {base : String} {live : LiveConfig}
    (course : Course options config effects result)
    (fetched : .fetchLive base (.ok live) ∈ effects) (patched : live.isPatched = true) :
    effects.filterMap Effect.stage? = [.live] := by
  obtain ⟨rest, rfl⟩ := course_fetched course fetched
  cases course with
  | untouched => rfl
  | answering => rfl
  | deaf => rfl
  | reinstalling _ _ _ _ _ raising =>
    simp only [List.filterMap_cons, Effect.stage?, raising_stages raising]
  | unsaved _ _ unpatched | unlocated _ _ unpatched | unnamed _ _ unpatched
  | unpublished _ _ unpatched | bootstrapping _ _ unpatched =>
    rw [unpatched] at patched
    cases patched

theorem course_invalid {result : Except Failure Outcome} {failure : Failure}
    (course : Course options config effects result)
    (refused : config.validate = .error failure) : effects = [] := by
  cases course with
  | invalid _ => rfl
  | _ => simp_all

end stages

/-- The gates of a whole run, whatever the world answers. The effects are those of the run
itself. Without a valid configuration there are none. The stages before the engine come at
most once and in order, the node is asked for only after the backup of an unpatched
configuration that names its engine, and the record is published only for the node that
was found. An engine is reached at most once, for a record that was published or for a
patched configuration whose proxy did not answer. A patched configuration is not saved and
not published, and its node is not asked for. Every effect is due when it comes, and
nothing follows a failure but the removal of a container that did not start. -/
theorem run_gated {σ : Type} (reach : Surroundings σ) (options : Options) (config : Config) (s : σ) :
    let trace := effects reach options config s
    (∀ log, (run (noted reach) options config).run (s, log) =
      (((run reach options config).run s).1, ((run reach options config).run s).2, log ++ trace)) ∧
    (∀ failure, config.validate = .error failure → trace = []) ∧
    trace.filterMap Effect.stage? <+: [.live, .backup, .node, .record] ∧
    (∀ before base answer after, trace = before ++ .fetchNode base answer :: after →
      ∃ live endpoint, live.isPatched = false ∧
        live.get? engineEndpointKey = some (.string endpoint) ∧
        before = [.fetchLive config.configzBaseUrl (.ok live),
          .save config.savedConfigPath live (.ok ())]) ∧
    (∀ before record answer after, trace = before ++ .publish record answer :: after →
      ∃ live node, record = Record.forNode node live.withOverrides ∧
        before = [.fetchLive config.configzBaseUrl (.ok live),
          .save config.savedConfigPath live (.ok ()),
          .fetchNode config.statsBaseUrl (.ok node)]) ∧
    trace.countP Effect.isConnect ≤ 1 ∧
    (∀ before endpoint answer after, trace = before ++ .connect endpoint answer :: after →
      (∃ record, .publish record (.ok ()) ∈ before) ∨
      ∃ live, live.isPatched = true ∧ options.verifyProxyLiveness = true ∧
        live.get? engineEndpointKey = some (.string endpoint) ∧
        before = [.fetchLive config.configzBaseUrl (.ok live),
          .probe config.proxySocketPath false]) ∧
    (∀ base live, .fetchLive base (.ok live) ∈ trace → live.isPatched = true →
      trace.filterMap Effect.stage? = [.live]) ∧
    (∀ before effect after, trace = before ++ effect :: after →
      Due options config before effect ∧
      (effect.failed = true → after = [] ∨
        ∃ id failure cleanup, effect = .start id (.error failure) ∧
          after = [.remove id cleanup])) := by
  have course := run_course reach options config s
  have due := course_due course
  have last : Throughout Last [] (effects reach options config s) := course_last course
  intro trace
  refine ⟨run_noted reach options config s, ?_, course_stages course, ?_, ?_,
    course_connects course, ?_, ?_, ?_⟩
  · intro failure refused
    exact course_invalid course refused
  · intro before base answer after split
    obtain ⟨_, live, endpoint, unpatched, located, past⟩ := due.at_split split
    exact ⟨live, endpoint, unpatched, located, past⟩
  · intro before record answer after split
    obtain ⟨live, node, _, named, past⟩ := due.at_split split
    exact ⟨live, node, named, past⟩
  · intro before endpoint answer after split
    have installDue : InstallDue options config before endpoint := due.at_split split
    cases installDue with
    | published live unpatched node located => exact .inl ⟨_, by simp; rfl⟩
    | unanswered live patched checked located =>
      exact .inr ⟨live, patched, checked, located, rfl⟩
  · intro base live fetched patched
    exact course_patched course fetched patched
  · intro before effect after split
    exact ⟨due.at_split split, last.at_split split⟩

end RuntimeHandover.Bootstrap
