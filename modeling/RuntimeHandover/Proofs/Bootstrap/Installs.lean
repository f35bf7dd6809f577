import RuntimeHandover.Proofs.Bootstrap.Containers
import RuntimeHandover.Proofs.Rehearsal.World

/-! Installations one after the other, over an engine any of whose calls may fail. Whatever an
earlier one left behind is gone before the next container is made, so that there is never more
than one of them, and containers without the label are never touched. -/
namespace RuntimeHandover.Bootstrap
open Cluster Container Files Kubelet Socket

def labelled (containers : List Roster.Member) : List Roster.Member :=
  containers.filter (·.hasLabel markerLabel)

def unlabelled (containers : List Roster.Member) : List Roster.Member :=
  containers.filter (!·.hasLabel markerLabel)

def among (ids : List String) (containers : List Roster.Member) : List Roster.Member :=
  containers.filter (·.id ∈ ids)

namespace Effect

def made? : Effect → Option String
  | .create _ (.ok id) => some id
  | _ => none

/-- Whether a call is in order while there are these containers: one is made with the label, and
only when none has it; those that are removed or started have it. -/
def Proper (containers : List Roster.Member) : Effect → Prop
  | .create spec _ => spec.labels.any (·.1 == markerLabel) = true ∧ labelled containers = []
  | .remove id _ | .start id _ =>
    ∀ container ∈ containers, container.id = id → container.hasLabel markerLabel = true
  | _ => True

end Effect

def made (effects : List Effect) : List String := effects.filterMap Effect.made?

abbrev Orderly : List Roster.Member → List Effect → Prop := Along Effect.Proper

/-- No id is there twice, and at most one of the containers that were made is left, which is then
the only one with the label. -/
structure Single (made : List String) (containers : List Roster.Member) : Prop where
  distinct : (containers.map (·.id)).Nodup
  single : among made containers = [] ∨
    ∃ container, among made containers = [container] ∧ labelled containers = [container]

section steps

variable {ids : List String} {containers : List Roster.Member}

private theorem single_start (distinct : (containers.map (·.id)).Nodup) : Single [] containers := by
  refine ⟨distinct, .inl ?_⟩
  simp [among]

private theorem single_removed (single : Single ids containers) (id : String) :
    Single ids (containers.filter (·.id ≠ id)) := by
  refine ⟨single.distinct.sublist (List.filter_sublist.map _), ?_⟩
  have some_made : among ids (containers.filter (·.id ≠ id)) =
      (among ids containers).filter (·.id ≠ id) := List.filter_comm _ _ _
  have some_labelled : labelled (containers.filter (·.id ≠ id)) =
      (labelled containers).filter (·.id ≠ id) := List.filter_comm _ _ _
  rw [some_made, some_labelled]
  obtain gone | ⟨container, one, only⟩ := single.single
  · exact .inl (by rw [gone]; rfl)
  · rw [one, only]
    by_cases same : container.id ≠ id
    · exact .inr ⟨container, by simp [same], by simp [same]⟩
    · exact .inl (by simp [same])

private theorem single_made (single : Single ids containers) {spec : Spec} {id : String}
    (fresh : id ∉ containers.map (·.id))
    (proper : spec.labels.any (·.1 == markerLabel) = true) (none_left : labelled containers = []) :
    Single (ids ++ [id]) (containers ++ [⟨id, spec.labels, false, some spec⟩]) := by
  have gone : among ids containers = [] := by
    obtain gone | ⟨container, -, only⟩ := single.single
    · exact gone
    · rw [none_left] at only
      cases only
  have still : among (ids ++ [id]) containers = [] := by
    rw [among, List.filter_eq_nil_iff] at gone ⊢
    intro container inside
    have other : container.id ≠ id := fun same => fresh (same ▸ List.mem_map_of_mem inside)
    simpa [other] using gone container inside
  refine ⟨?_, .inr ⟨⟨id, spec.labels, false, some spec⟩, ?_, ?_⟩⟩
  · rw [List.map_append, List.nodup_append]
    refine ⟨single.distinct, by simp, ?_⟩
    intro a inside b new same
    rw [same, List.mem_singleton.mp new] at inside
    exact fresh inside
  · rw [among, List.filter_append]
    exact (congrArg (· ++ _) still).trans (by simp)
  · rw [labelled, List.filter_append]
    refine (congrArg (· ++ _) none_left).trans ?_
    exact List.filter_cons_of_pos proper

private def starting (id : String) (container : Roster.Member) : Roster.Member :=
  if container.id = id then {container with running := true} else container

private theorem starting_id (id : String) (container : Roster.Member) :
    (starting id container).id = container.id := by
  unfold starting
  split
  · rfl
  · rfl

private theorem starting_labels (id : String) (container : Roster.Member) :
    (starting id container).labels = container.labels := by
  unfold starting
  split
  · rfl
  · rfl

private theorem single_started (single : Single ids containers) (id : String) :
    Single ids (containers.map (starting id)) := by
  have some_made : among ids (containers.map (starting id)) =
      (among ids containers).map (starting id) := by
    unfold among
    rw [List.filter_map]
    congr 1
    apply List.filter_congr
    intro container _
    simp [starting_id]
  have some_labelled : labelled (containers.map (starting id)) =
      (labelled containers).map (starting id) := by
    unfold labelled
    rw [List.filter_map]
    congr 1
    apply List.filter_congr
    intro container _
    simp [Roster.Member.hasLabel, starting_labels]
  refine ⟨?_, ?_⟩
  · have same : (containers.map (starting id)).map (·.id) = containers.map (·.id) := by
      rw [List.map_map]
      exact List.map_congr_left fun container _ => starting_id id container
    rw [same]
    exact single.distinct
  · rw [some_made, some_labelled]
    obtain gone | ⟨container, one, only⟩ := single.single
    · exact .inl (by rw [gone]; rfl)
    · exact .inr ⟨starting id container, by rw [one]; rfl, by rw [only]; rfl⟩

private theorem single_change {effect : Effect} (single : Single ids containers)
    (truthful : effect.Truthful containers) (proper : effect.Proper containers) :
    Single (ids ++ effect.made?.toList) (effect.change containers) := by
  have nothing_made : Single (ids ++ []) containers := by rwa [List.append_nil]
  cases effect with
  | remove id answer =>
    cases answer with
    | error failure => exact nothing_made
    | ok _ => exact single_removed nothing_made id
  | create spec answer =>
    cases answer with
    | error failure => exact nothing_made
    | ok id => exact single_made single truthful proper.1 proper.2
  | start id answer =>
    cases answer with
    | error failure => exact nothing_made
    | ok _ => exact single_started nothing_made id
  | _ => exact nothing_made

private theorem unlabelled_change {effect : Effect} (proper : effect.Proper containers) :
    unlabelled (effect.change containers) = unlabelled containers := by
  cases effect with
  | remove id answer =>
    cases answer with
    | error failure => rfl
    | ok _ =>
      change (containers.filter (·.id ≠ id)).filter _ = _
      rw [List.filter_filter]
      apply List.filter_congr
      intro container inside
      by_cases same : container.id = id
      · simp [proper container inside same]
      · simp [same]
  | create spec answer =>
    cases answer with
    | error failure => rfl
    | ok id =>
      change (containers ++ [_]).filter _ = _
      rw [List.filter_append, List.filter_cons_of_neg, List.filter_nil, List.append_nil]
      · rfl
      · simpa [Roster.Member.hasLabel] using proper.1
  | start id answer =>
    cases answer with
    | error failure => rfl
    | ok _ =>
      change (containers.map (starting id)).filter _ = _
      rw [List.filter_map]
      have kept : containers.filter ((!·.hasLabel markerLabel) ∘ starting id) =
          unlabelled containers := by
        apply List.filter_congr
        intro container _
        simp [Roster.Member.hasLabel, starting_labels]
      rw [kept]
      refine (List.map_congr_left ?_).trans (List.map_id' _)
      intro container inside
      obtain ⟨there, unmarked⟩ := List.mem_filter.mp inside
      unfold starting
      rw [if_neg]
      intro same
      rw [proper container there same] at unmarked
      cases unmarked
  | _ => rfl

/-- What holds at the start holds, with all that was made, after every part of an orderly trace. -/
private theorem single_afterwards {before : List Effect} (single : Single ids containers)
    (told : Told containers before) (orderly : Orderly containers before) :
    Single (ids ++ made before) (afterwards containers before) ∧
      unlabelled (afterwards containers before) = unlabelled containers := by
  -- On the calls, with whatever was made before them and the containers they find.
  induction before generalizing ids containers with
  | nil =>
    refine ⟨?_, rfl⟩
    change Single (ids ++ []) containers
    rwa [List.append_nil]
  | cons effect rest ih =>
    obtain ⟨single, others⟩ := ih (single_change single told.1 orderly.1) told.2 orderly.2
    have more : made (effect :: rest) = effect.made?.toList ++ made rest := by
      unfold made
      rw [List.filterMap_cons]
      cases effect.made? <;> rfl
    rw [more, ← List.append_assoc]
    exact ⟨single, others.trans (unlabelled_change orderly.1)⟩

end steps

section installation

variable {containers : List Roster.Member} {ids : List String}

def Marked (containers : List Roster.Member) (id : String) : Prop :=
  ∀ container ∈ containers, container.id = id → container.hasLabel markerLabel = true

private theorem marked_of_listed (listed : (Effect.list markerLabel (.ok ids)).Truthful containers)
    (distinct : (containers.map (·.id)).Nodup) : ∀ id ∈ ids, Marked containers id := by
  intro id inside container there same
  exact labelled_of_listed listed distinct there (same ▸ inside)

private theorem Marked.filter {id : String} (marked : Marked containers id)
    (p : Roster.Member → Bool) :
    Marked (containers.filter p) id :=
  fun container there => marked container (List.mem_of_mem_filter there)

private theorem orderly_removals (marked : ∀ id ∈ ids, Marked containers id) :
    Orderly containers (removals ids) := by
  induction ids generalizing containers with
  | nil => trivial
  | cons id rest ih =>
    obtain ⟨first, later⟩ := List.forall_mem_cons.mp marked
    exact ⟨first, ih fun other inside => (later other inside).filter _⟩

private theorem orderly_pulled (endpoint : String) (marked : ∀ id ∈ ids, Marked containers id) :
    Orderly containers (pulled endpoint ids) := by
  rw [pulled]
  exact along_append.mpr ⟨⟨trivial, trivial, orderly_removals marked⟩, trivial, trivial⟩

/-- A container can be made once those that were listed are gone. -/
private theorem proper_create (endpoint : String)
    (listed : (Effect.list markerLabel (.ok ids)).Truthful containers) (proxyPath : String)
    (args : List String) (suffix : Int) (answer : Except Failure String) :
    (Effect.create (Spec.proxy endpoint proxyPath args suffix) answer).Proper
      (afterwards containers (pulled endpoint ids)) := by
  rw [afterwards_pulled]
  exact ⟨rfl, cleared_of_listed listed⟩

/-- The new container is the only one with its id. -/
private theorem marked_made {id : String} (fresh : id ∉ containers.map (·.id)) {spec : Spec}
    (proper : spec.labels.any (·.1 == markerLabel) = true) :
    Marked (containers ++ [⟨id, spec.labels, false, some spec⟩]) id := by
  intro container inside same
  rcases List.mem_append.mp inside with old | new
  · exact absurd (same ▸ List.mem_map_of_mem old) fresh
  · rw [List.mem_singleton.mp new]
    exact proper

variable {endpoint proxyPath : String} {args : List String} {effects : List Effect}
  {result : Except Failure String}

/-- The new container is made when no other has the label, and only it has its id. -/
private theorem orderly_replaced {suffix : Int} {id : String}
    (told : Told containers
      (replaced endpoint ids (Spec.proxy endpoint proxyPath args suffix) id))
    (distinct : (containers.map (·.id)).Nodup) :
    let effects := replaced endpoint ids (Spec.proxy endpoint proxyPath args suffix) id
    Orderly containers effects ∧ Marked (afterwards containers effects) id := by
  have listed : (Effect.list markerLabel (.ok ids)).Truthful containers := told.2.1
  have fresh := (along_append.mp told).2.1
  have marker : (Spec.proxy endpoint proxyPath args suffix).labels.any
      (·.1 == markerLabel) = true := rfl
  refine ⟨along_append.mpr ⟨orderly_pulled endpoint (marked_of_listed listed distinct),
    proper_create endpoint listed proxyPath args suffix _, trivial⟩, ?_⟩
  rw [replaced, afterwards_append]
  exact marked_made fresh marker

/-- Whatever becomes of an installation, each of its calls is in order when it is made. -/
private theorem installation_orderly
    (installation : Installation endpoint proxyPath args effects result)
    (told : Told containers effects) (distinct : (containers.map (·.id)).Nodup) :
    Orderly containers effects := by
  cases installation with
  | unreachable failure => exact ⟨trivial, trivial⟩
  | unlisted failure => exact ⟨trivial, trivial, trivial⟩
  | stuck gone id rest failure =>
    have listed : (Effect.list markerLabel (.ok (gone ++ id :: rest))).Truthful containers :=
      told.2.1
    have marked := marked_of_listed listed distinct
    have gone_marked : ∀ stale ∈ gone, Marked containers stale :=
      fun stale inside => marked stale (List.mem_append_left _ inside)
    refine ⟨trivial, trivial, along_append.mpr ⟨orderly_removals gone_marked, ?_, trivial⟩⟩
    change Marked (afterwards containers (removals gone)) id
    rw [afterwards_removals]
    exact (marked id (by simp)).filter _
  | unpulled ids failure =>
    have listed : (Effect.list markerLabel (.ok ids)).Truthful containers := told.2.1
    exact ⟨trivial, trivial, along_append.mpr
      ⟨orderly_removals (marked_of_listed listed distinct), trivial, trivial⟩⟩
  | uncreated ids suffix failure =>
    have listed : (Effect.list markerLabel (.ok ids)).Truthful containers := told.2.1
    exact along_append.mpr ⟨orderly_pulled endpoint (marked_of_listed listed distinct),
      proper_create endpoint listed proxyPath args suffix _, trivial⟩
  | unstarted ids suffix id failure cleanup =>
    obtain ⟨created, marked⟩ := orderly_replaced (along_append.mp told).1 distinct
    -- The start fails and changes nothing, so both calls are made on the same containers.
    exact along_append.mpr ⟨created, marked, marked, trivial⟩
  | installed ids suffix id =>
    obtain ⟨created, marked⟩ := orderly_replaced (along_append.mp told).1 distinct
    exact along_append.mpr ⟨created, marked, trivial⟩

/-- After an installation that succeeded one container has the label: the new one. -/
private theorem installation_labelled {id : String}
    (installation : Installation endpoint proxyPath args effects (.ok id))
    (told : Told containers effects) :
    ∃ suffix, let spec := Spec.proxy endpoint proxyPath args suffix
      labelled (afterwards containers effects) = [⟨id, spec.labels, true, some spec⟩] := by
  cases installation with
  | installed ids suffix id =>
    have listed : (Effect.list markerLabel (.ok ids)).Truthful containers := told.2.1
    refine ⟨suffix, ?_⟩
    rw [afterwards_installed told]
    exact labelled_replaced listed rfl

end installation

section reached

variable {σ α : Type}

def Heeds (sound : σ → Prop) (containers : σ → List Roster.Member)
    (effect : Except Failure α → Effect) (action : Act σ α) : Prop :=
  ∀ s, sound s → sound (action.run s).2 ∧ (effect (action.run s).1).Truthful (containers s) ∧
    containers (action.run s).2 = (effect (action.run s).1).change (containers s)

/-- An engine that does what it is asked to or refuses and changes nothing, call by call. -/
structure KeepsWord (sound : σ → Prop) (containers : σ → List Roster.Member)
    (engine : Engine σ) : Prop where
  list (label : String) : Heeds sound containers (.list label) (engine.list label)
  remove (id : String) : Heeds sound containers (.remove id) (engine.remove id)
  pull (image : String) : Heeds sound containers (.pull image) (engine.pull image)
  create (spec : Spec) : Heeds sound containers (.create spec) (engine.create spec)
  start (id : String) : Heeds sound containers (.start id) (engine.start id)

structure Dependable (connect : Connector σ) (stamp : StateM σ Int) (sound : σ → Prop)
    (containers : σ → List Roster.Member) : Prop where
  reach (endpoint : String) : Heeds sound containers
    (fun answer => .connect endpoint (answer.map fun _ => ())) (connect endpoint)
  engine {endpoint : String} {s : σ} {engine : Engine σ}
    (reached : ((connect endpoint).run s).1 = .ok engine) : KeepsWord sound containers engine
  stamp {s : σ} (holds : sound s) :
    sound (stamp s).2 ∧ containers (stamp s).2 = containers s

def engineOnly (connect : Connector σ) (stamp : StateM σ Int) : Surroundings σ where
  fetchLive _ _ := Act.fail .transport ""
  save _ _ := Act.fail .persistence ""
  fetchNode _ _ := Act.fail .transport ""
  publish _ := Act.fail .publish ""
  connect := connect
  stamp := stamp
  watch _ := ⟨pure false, pure 0, fun _ => pure ()⟩

variable {connect : Connector σ} {stamp : StateM σ Int} {sound : σ → Prop}
  {containers : σ → List Roster.Member}

theorem Dependable.faithful (dependable : Dependable connect stamp sound containers) :
    Faithful (engineOnly connect stamp) sound containers where
  call := by
    intro α effect action asked s holds
    cases asked with
    | fetchLive | save | fetchNode | publish => exact ⟨holds, trivial, rfl⟩
    | connect endpoint => exact dependable.reach endpoint s holds
    | list engine reached label =>
      obtain ⟨endpoint, there, given⟩ := reached
      exact (dependable.engine given).list label s holds
    | remove engine reached id =>
      obtain ⟨endpoint, there, given⟩ := reached
      exact (dependable.engine given).remove id s holds
    | pull engine reached image =>
      obtain ⟨endpoint, there, given⟩ := reached
      exact (dependable.engine given).pull image s holds
    | create engine reached spec =>
      obtain ⟨endpoint, there, given⟩ := reached
      exact (dependable.engine given).create spec s holds
    | start engine reached id =>
      obtain ⟨endpoint, there, given⟩ := reached
      exact (dependable.engine given).start id s holds
  probe path _ holds := ⟨holds, rfl⟩
  stamp := dependable.stamp
  now path _ holds := ⟨holds, rfl⟩
  sleep path pause _ holds := ⟨holds, rfl⟩

private theorem Faithful.dependable {reach : Surroundings σ}
    (faithful : Faithful reach sound containers) :
    Dependable reach.connect reach.stamp sound containers where
  reach endpoint _ holds := faithful.call (.connect endpoint) holds
  engine := by
    intro endpoint s engine reached
    have connected : Connected reach engine := ⟨endpoint, s, reached⟩
    exact ⟨fun label _ => faithful.call (.list engine connected label),
      fun id _ => faithful.call (.remove engine connected id),
      fun image _ => faithful.call (.pull engine connected image),
      fun spec _ => faithful.call (.create engine connected spec),
      fun id _ => faithful.call (.start engine connected id)⟩
  stamp := faithful.stamp

private theorem Goes.stays_sound {reach : Surroundings σ}
    (faithful : Faithful reach sound containers)
    {s t : σ} {effects : List Effect} (goes : Goes reach s effects t) (holds : sound s) : sound t := by
  induction goes with
  | still s => exact holds
  | call asked _ ih => exact ih (faithful.call asked holds).1
  | probe path _ ih => exact ih (faithful.probe path holds).1
  | stamp _ ih => exact ih (faithful.stamp holds).1
  | now path _ ih => exact ih (faithful.now path holds).1
  | sleep path pause _ ih => exact ih (faithful.sleep path pause holds).1

/-- Between two parts of what happens there is a moment. -/
private theorem Goes.split {reach : Surroundings σ} {s t : σ} {effects first second : List Effect}
    (goes : Goes reach s effects t) (parts : effects = first ++ second) :
    ∃ moment, Goes reach s first moment ∧ Goes reach moment second t := by
  induction goes generalizing first with
  | still s =>
    obtain ⟨rfl, rfl⟩ := List.append_eq_nil_iff.mp parts.symm
    exact ⟨s, .still s, .still s⟩
  | @call α effect action s rest after asked onward ih =>
    cases first with
    | nil =>
      rw [List.nil_append] at parts
      exact ⟨s, .still s, parts ▸ .call asked onward⟩
    | cons head first =>
      obtain ⟨rfl, same⟩ := List.cons.inj parts
      obtain ⟨moment, before, later⟩ := ih same
      exact ⟨moment, .call asked before, later⟩
  | @probe path s rest after onward ih =>
    cases first with
    | nil =>
      rw [List.nil_append] at parts
      exact ⟨s, .still s, parts ▸ .probe path onward⟩
    | cons head first =>
      obtain ⟨rfl, same⟩ := List.cons.inj parts
      obtain ⟨moment, before, later⟩ := ih same
      exact ⟨moment, .probe path before, later⟩
  | stamp _ ih =>
    obtain ⟨moment, before, later⟩ := ih parts
    exact ⟨moment, .stamp before, later⟩
  | now path _ ih =>
    obtain ⟨moment, before, later⟩ := ih parts
    exact ⟨moment, .now path before, later⟩
  | sleep path pause _ ih =>
    obtain ⟨moment, before, later⟩ := ih parts
    exact ⟨moment, .sleep path pause before, later⟩

end reached

section sequence

structure InstallRequest where
  endpoint : String
  proxyPath : String
  args : List String

variable {σ : Type}

def installEach (connect : Connector σ) (stamp : StateM σ Int) :
    List InstallRequest → σ → List (Except Failure String) × σ :=
  each fun request => install connect stamp request.endpoint request.proxyPath request.args

def installEffects (connect : Connector σ) (stamp : StateM σ Int) (requests : List InstallRequest)
    (s : σ) : List Effect :=
  let reach := noted (engineOnly connect stamp)
  (installEach reach.connect reach.stamp requests (s, [])).2.2

variable {connect : Connector σ} {stamp : StateM σ Int} {sound : σ → Prop}
  {containers : σ → List Roster.Member}

abbrev Installations : List InstallRequest → List Effect → List (Except Failure String) → Prop :=
  Each fun request => Installation request.endpoint request.proxyPath request.args

private theorem installations_orderly {requests : List InstallRequest} {effects : List Effect}
    {results : List (Except Failure String)}
    (installations : Installations requests effects results) {before : List Roster.Member}
    (told : Told before effects) (distinct : (before.map (·.id)).Nodup) :
    Orderly before effects := by
  induction installations generalizing before with
  | nil => trivial
  | cons one rest ih =>
    obtain ⟨toldFirst, toldRest⟩ := along_append.mp told
    have first := installation_orderly one toldFirst distinct
    have single := (single_afterwards (single_start distinct) toldFirst first).1
    exact along_append.mpr ⟨first, ih toldRest single.distinct⟩

variable (connect stamp)

theorem install_traced (request : InstallRequest) :
    let reach := noted (engineOnly connect stamp)
    Traced (engineOnly connect stamp) id
      (install connect stamp request.endpoint request.proxyPath request.args)
      (install reach.connect reach.stamp request.endpoint request.proxyPath request.args)
      (Installation request.endpoint request.proxyPath request.args) :=
  .install request.endpoint request.proxyPath request.args

private theorem installEffects_traced (requests : List InstallRequest) (s : σ) :
    let plain := installEach connect stamp requests s
    let reach := noted (engineOnly connect stamp)
    let trace := installEffects connect stamp requests s
    Goes (engineOnly connect stamp) s trace plain.2 ∧ Installations requests trace plain.1 ∧
      ∀ log, installEach reach.connect reach.stamp requests (s, log) =
        (plain.1, plain.2, log ++ trace) :=
  Traced.each (install_traced connect stamp) requests s

/-- Noting changes nothing about installations, and adds their effects to what was noted. -/
theorem installEach_noted (requests : List InstallRequest) (s : σ) (log : List Effect) :
    let plain := installEach connect stamp requests s
    let reach := noted (engineOnly connect stamp)
    installEach reach.connect reach.stamp requests (s, log) =
      (plain.1, plain.2, log ++ installEffects connect stamp requests s) :=
  (installEffects_traced connect stamp requests s).2.2 log

variable {connect stamp} {s : σ}

/-- The containers at a moment within installations, with what was made until then. -/
private theorem installEach_single (dependable : Dependable connect stamp sound containers)
    (holds : sound s) (distinct : ((containers s).map (·.id)).Nodup)
    (requests : List InstallRequest) {before after : List Effect}
    (parts : installEffects connect stamp requests s = before ++ after) :
    ∃ moment, Goes (engineOnly connect stamp) s before moment ∧
      Goes (engineOnly connect stamp) moment after (installEach connect stamp requests s).2 ∧
      sound moment ∧ Single (made before) (containers moment) ∧ Orderly (containers moment) after ∧
      unlabelled (containers moment) = unlabelled (containers s) := by
  obtain ⟨goes, installations, _⟩ := installEffects_traced connect stamp requests s
  obtain ⟨moment, earlier, later⟩ := goes.split parts
  -- The containers at the moment are those that the calls before it leave.
  have told := (goes.told dependable.faithful holds).1
  have orderly := installations_orderly installations told distinct
  rw [parts] at told orderly
  obtain ⟨orderly, onward⟩ := along_append.mp orderly
  have there := (earlier.told dependable.faithful holds).2
  obtain ⟨single, others⟩ :=
    single_afterwards (single_start distinct) (along_append.mp told).1 orderly
  rw [← there] at single others onward
  exact ⟨moment, earlier, later, earlier.stays_sound dependable.faithful holds, single, onward,
    others⟩

/-- A container is made only when none has the label, whatever failed before. So of those that
were made one at most is there at any moment, and then no other has the label. An installation
that succeeds leaves its own container, running, as the only one with the label. Containers
without it are never touched. -/
theorem installEach_one_proxy (dependable : Dependable connect stamp sound containers)
    (holds : sound s) (distinct : ((containers s).map (·.id)).Nodup)
    (requests : List InstallRequest) :
    let trace := installEffects connect stamp requests s
    let last := (installEach connect stamp requests s).2
    (∀ before after, trace = before ++ after → ∃ moment,
      Goes (engineOnly connect stamp) s before moment ∧
      Goes (engineOnly connect stamp) moment after last ∧
      (∀ spec answer later, after = .create spec answer :: later →
        labelled (containers moment) = []) ∧
      (among (made before) (containers moment) = [] ∨
        ∃ container, among (made before) (containers moment) = [container] ∧
          labelled (containers moment) = [container]) ∧
      unlabelled (containers moment) = unlabelled (containers s)) ∧
    (∀ earlier request later, requests = earlier ++ request :: later →
      let there := (installEach connect stamp earlier s).2
      let ended :=
        (install connect stamp request.endpoint request.proxyPath request.args).run there
      ∀ id, ended.1 = .ok id → ∃ suffix,
        let spec := Spec.proxy request.endpoint request.proxyPath request.args suffix
        labelled (containers ended.2) = [⟨id, spec.labels, true, some spec⟩]) ∧
    unlabelled (containers last) = unlabelled (containers s) := by
  refine ⟨?_, ?_, ?_⟩
  · intro before after parts
    obtain ⟨moment, earlier, later, _, single, orderly, others⟩ :=
      installEach_single dependable holds distinct requests parts
    refine ⟨moment, earlier, later, ?_, single.single, others⟩
    rintro spec answer rest rfl
    exact orderly.1.2
  · intro earlier request later _ there ended id ok
    obtain ⟨moment, _, still, soundly, single, _, _⟩ :=
      installEach_single dependable holds distinct earlier (List.append_nil _).symm
    obtain ⟨first, goes, installation, _⟩ := install_traced connect stamp request there
    have sound_there : sound there := still.stays_sound dependable.faithful soundly
    obtain ⟨told, changed⟩ := goes.told dependable.faithful sound_there
    have ended_ok : ((install connect stamp request.endpoint request.proxyPath
      request.args).run there).1 = .ok id := ok
    rw [ended_ok] at installation
    obtain ⟨suffix, only⟩ := installation_labelled installation told
    rw [← changed] at only
    exact ⟨suffix, only⟩
  · obtain ⟨moment, _, still, soundly, _, _, others⟩ :=
      installEach_single dependable holds distinct requests (List.append_nil _).symm
    have same := (still.told dependable.faithful soundly).2
    rw [same]
    exact others

end sequence

section stumbling
open Rehearsal

def otherContainer : Roster.Member := ⟨"web", [("app", "web")], true, none⟩

/-- A host with an old proxy and another container, whose engine refuses to start the first
container that is made, and to remove it again. -/
def stumbling : World :=
  {answering with roster := {answering.roster with
    containers := [⟨"old", [(markerLabel, "true")], true, none⟩, otherContainer]
    refuse := fun calls _ => if calls = 5 ∨ calls = 6 then some ⟨.container, "busy"⟩ else none}}

/-- An engine that names its containers with x alone, whatever calls it refuses. -/
theorem trusty_refusing (containers : List Roster.Member)
    (refuse : Nat → EngineCall → Option Failure)
    (others : ∀ container ∈ containers, ∃ letter ∈ container.id.toList, letter ≠ 'x') :
    Trusty {answering with roster := {answering.roster with containers, refuse}} := by
  refine ⟨rfl, trusty_answering.2.distinct, ?_⟩
  intro container inside n _ same
  obtain ⟨letter, there, other⟩ := others container inside
  have letters : container.id.toList = List.replicate n 'x' :=
    (congrArg String.toList same).trans String.toList_ofList
  rw [letters] at there
  exact other (List.eq_of_mem_replicate there)

private theorem trusty_stumbling : Trusty stumbling := by
  apply trusty_refusing
  simp [otherContainer]

theorem dependable_stumbling :
    Dependable World.rosterConnect (pure 0) Trusty Rehearsal.containers :=
  {faithful_roster.dependable with stamp := fun holds => ⟨holds, rfl⟩}

def stumblingRequest : InstallRequest := ⟨"unix:///d", "p", []⟩

def stumbled : World := (installEach World.rosterConnect (pure 0) [stumblingRequest] stumbling).2

private theorem stumbling_results :
    (installEach World.rosterConnect (pure 0) [stumblingRequest] stumbling).1 =
      [.error ⟨.container, "busy"⟩] ∧
    ((install World.rosterConnect (pure 0) "unix:///d" "p" []).run stumbled).1 = .ok "x" := by
  constructor
  · cbv
  · cbv

/-- The second of two installations there replaces what the first one could not start. -/
theorem installEach_one_proxy_stumbling :
    let first := installEach World.rosterConnect (pure 0) [stumblingRequest] stumbling
    let second := (install World.rosterConnect (pure 0) "unix:///d" "p" []).run first.2
    first.1 = [.error ⟨.container, "busy"⟩] ∧
    (∃ suffix, let spec := Spec.proxy "unix:///d" "p" [] suffix
      labelled (Rehearsal.containers second.2) = [⟨"x", spec.labels, true, some spec⟩]) ∧
    unlabelled (Rehearsal.containers
      (installEach World.rosterConnect (pure 0) [stumblingRequest, stumblingRequest] stumbling).2) =
        [otherContainer] := by
  have distinct : ((Rehearsal.containers stumbling).map (·.id)).Nodup := by decide
  have others : unlabelled (Rehearsal.containers stumbling) = [otherContainer] := by decide
  obtain ⟨_, ended, untouched⟩ := installEach_one_proxy dependable_stumbling trusty_stumbling
    distinct [stumblingRequest, stumblingRequest]
  have installed := ended [stumblingRequest] stumblingRequest [] rfl "x" stumbling_results.2
  exact ⟨stumbling_results.1, installed, untouched.trans others⟩

end stumbling

end RuntimeHandover.Bootstrap
