import RuntimeHandover.Bootstrap.Run
import RuntimeHandover.Proofs.Act

/-! What a run asks of the world outside, in order and with the answers. The notes are
taken by surroundings that pass every call on, so they are notes of the run itself. -/
namespace RuntimeHandover.Bootstrap
open Cluster Container Files Kubelet Socket

/-- A call and its answer. The clock, pauses and the stamp of a container's name are left out. -/
inductive Effect where
  | fetchLive (base : String) (answer : Except Failure LiveConfig)
  | save (path : Path) (live : LiveConfig) (answer : Except Failure Unit)
  | fetchNode (base : String) (answer : Except Failure NodeIdentity)
  | publish (record : Record) (answer : Except Failure Unit)
  | connect (endpoint : String) (answer : Except Failure Unit)
  | list (label : String) (answer : Except Failure (List String))
  | remove (id : String) (answer : Except Failure Unit)
  | pull (image : String) (answer : Except Failure Unit)
  | create (spec : Spec) (answer : Except Failure String)
  | start (id : String) (answer : Except Failure Unit)
  | probe (path : Path) (ready : Bool)

abbrev Noted (σ : Type) := σ × List Effect

variable {σ α β γ δ : Type}

def note (effect : Except Failure α → Effect) (action : Act σ α) : Act (Noted σ) α :=
  ExceptT.mk fun world =>
    let (answer, after) := action.run world.1
    (answer, after, world.2 ++ [effect answer])

def unnoted (action : StateM σ α) : StateM (Noted σ) α := fun world =>
  let (a, after) := action world.1
  (a, after, world.2)

def notedEngine (engine : Engine σ) : Engine (Noted σ) where
  list label := note (.list label) (engine.list label)
  remove id := note (.remove id) (engine.remove id)
  pull image := note (.pull image) (engine.pull image)
  create spec := note (.create spec) (engine.create spec)
  start id := note (.start id) (engine.start id)

def notedWatch (path : Path) (watch : Watch σ) : Watch (Noted σ) where
  probe := fun world =>
    let (ready, after) := watch.probe world.1
    (ready, after, world.2 ++ [.probe path ready])
  now := unnoted watch.now
  sleep pause := unnoted (watch.sleep pause)

def noted (reach : Surroundings σ) : Surroundings (Noted σ) where
  fetchLive introspection base := note (.fetchLive base) (reach.fetchLive introspection base)
  save path live := note (.save path live) (reach.save path live)
  fetchNode introspection base := note (.fetchNode base) (reach.fetchNode introspection base)
  publish record := note (.publish record) (reach.publish record)
  connect endpoint := notedEngine <$>
    note (fun answer => .connect endpoint (answer.map fun _ => ())) (reach.connect endpoint)
  stamp := unnoted reach.stamp
  watch path := notedWatch path (reach.watch path)

def effects (reach : Surroundings σ) (options : Options) (config : Config) (s : σ) :
    List Effect :=
  ((run (noted reach) options config).run (s, [])).2.2

def Connected (reach : Surroundings σ) (engine : Engine σ) : Prop :=
  ∃ endpoint s, ((reach.connect endpoint).run s).1 = .ok engine

inductive Call (reach : Surroundings σ) :
    {α : Type} → (Except Failure α → Effect) → Act σ α → Prop
  | fetchLive (introspection base) :
      Call reach (.fetchLive base) (reach.fetchLive introspection base)
  | save (path live) : Call reach (.save path live) (reach.save path live)
  | fetchNode (introspection base) :
      Call reach (.fetchNode base) (reach.fetchNode introspection base)
  | publish (record) : Call reach (.publish record) (reach.publish record)
  | connect (endpoint) :
      Call reach (fun answer => .connect endpoint (answer.map fun _ => ())) (reach.connect endpoint)
  | list (engine) (reached : Connected reach engine) (label) :
      Call reach (.list label) (engine.list label)
  | remove (engine) (reached : Connected reach engine) (id) :
      Call reach (.remove id) (engine.remove id)
  | pull (engine) (reached : Connected reach engine) (image) :
      Call reach (.pull image) (engine.pull image)
  | create (engine) (reached : Connected reach engine) (spec) :
      Call reach (.create spec) (engine.create spec)
  | start (engine) (reached : Connected reach engine) (id) :
      Call reach (.start id) (engine.start id)

inductive Goes (reach : Surroundings σ) : σ → List Effect → σ → Prop
  | still (s) : Goes reach s [] s
  | call {α : Type} {effect : Except Failure α → Effect} {action : Act σ α} {s rest after}
      (asked : Call reach effect action) (then_ : Goes reach (action.run s).2 rest after) :
      Goes reach s (effect (action.run s).1 :: rest) after
  | probe (path) {s rest after} (then_ : Goes reach ((reach.watch path).probe s).2 rest after) :
      Goes reach s (.probe path ((reach.watch path).probe s).1 :: rest) after
  | stamp {s rest after} (then_ : Goes reach (reach.stamp s).2 rest after) :
      Goes reach s rest after
  | now (path) {s rest after} (then_ : Goes reach ((reach.watch path).now s).2 rest after) :
      Goes reach s rest after
  | sleep (path) (pause) {s rest after}
      (then_ : Goes reach ((reach.watch path).sleep pause s).2 rest after) :
      Goes reach s rest after

private theorem Goes.append {reach : Surroundings σ} {s middle after : σ}
    {first second : List Effect}
    (before : Goes reach s first middle) (later : Goes reach middle second after) :
    Goes reach s (first ++ second) after := by
  induction before with
  | still s => exact later
  | call asked _ ih => exact .call asked (ih later)
  | probe path _ ih => exact .probe path (ih later)
  | stamp _ ih => exact .stamp (ih later)
  | now path _ ih => exact .now path (ih later)
  | sleep path pause _ ih => exact .sleep path pause (ih later)

/-- The noted action does what the plain one does, whatever the notes are, and the effects
it adds to them stand in the relation with its result. -/
def Traced (reach : Surroundings σ) (f : α → β) (plain : Act σ α) (noted : Act (Noted σ) β)
    (relation : List Effect → Except Failure α → Prop) : Prop :=
  ∀ s, ∃ effects, Goes reach s effects (plain.run s).2 ∧ relation effects (plain.run s).1 ∧
    ∀ log, noted.run (s, log) = ((plain.run s).1.map f, (plain.run s).2, log ++ effects)

namespace Traced

variable {reach : Surroundings σ}

theorem imp {f : α → β} {plain : Act σ α} {noted : Act (Noted σ) β}
    {relation weaker : List Effect → Except Failure α → Prop}
    (traced : Traced reach f plain noted relation)
    (weaken : ∀ effects result, relation effects result → weaker effects result) :
    Traced reach f plain noted weaker := by
  intro s
  obtain ⟨effects, goes, related, same⟩ := traced s
  exact ⟨effects, goes, weaken _ _ related, same⟩

theorem ofExcept (result : Except Failure α) :
    Traced reach id (Act.ofExcept result) (Act.ofExcept result)
      (fun effects answer => effects = [] ∧ answer = result) := by
  intro s
  refine ⟨[], .still s, ⟨rfl, rfl⟩, ?_⟩
  simp [Except.map_id]

theorem pure (a : α) : Traced reach id (Pure.pure a) (Pure.pure a)
    (fun effects answer => effects = [] ∧ answer = .ok a) :=
  ofExcept (.ok a)

theorem throw (failure : Failure) :
    Traced reach (id : α → α) (MonadExcept.throw failure) (MonadExcept.throw failure)
      (fun effects answer => effects = [] ∧ answer = .error failure) :=
  ofExcept (.error failure)

section calls

variable {effect : Except Failure α → Effect} {action : Act σ α}

theorem call (asked : Call reach effect action) :
    Traced reach id action (note effect action)
      (fun effects answer => effects = [effect answer]) := by
  intro s
  refine ⟨[effect (action.run s).1], .call asked (.still _), rfl, ?_⟩
  intro log
  rw [Except.map_id, id_eq]
  rfl

theorem restatedCall (asked : Call reach effect action) (words : Failure → Failure) :
    Traced reach id (action.restate words) ((note effect action).restate words)
      (fun effects result => ∃ answer, effects = [effect answer] ∧
        result = answer.mapError words) := by
  intro s
  obtain ⟨effects, goes, rfl, same⟩ := Traced.call asked s
  refine ⟨_, goes, ⟨_, rfl, rfl⟩, ?_⟩
  intro log
  rw [Act.run_restate, Act.run_restate, same, Except.map_id, id_eq, id_eq]

theorem outcomeOfCall (asked : Call reach effect action) :
    Traced reach id action.outcome (note effect action).outcome
      (fun effects result => ∃ answer, effects = [effect answer] ∧ result = .ok answer) := by
  intro s
  obtain ⟨effects, goes, rfl, same⟩ := Traced.call asked s
  refine ⟨_, goes, ⟨_, rfl, rfl⟩, ?_⟩
  intro log
  rw [Act.run_outcome, Act.run_outcome, same, Except.map_id, id_eq, Except.map_id, id_eq]

end calls

/-- The first part's effects come first, and the second part is reached only if the first
succeeds. -/
theorem bind {f : α → β} {g : γ → δ} {first : Act σ α} {firstNoted : Act (Noted σ) β}
    {next : α → Act σ γ} {nextNoted : β → Act (Noted σ) δ}
    {before : List Effect → Except Failure α → Prop}
    {relation : List Effect → Except Failure γ → Prop}
    (head : Traced reach f first firstNoted before)
    (failed : ∀ effects failure, before effects (.error failure) →
      relation effects (.error failure))
    (tail : ∀ a earlier, before earlier (.ok a) →
      Traced reach g (next a) (nextNoted (f a))
        (fun effects result => relation (earlier ++ effects) result)) :
    Traced reach g (first >>= next) (firstNoted >>= nextNoted) relation := by
  intro s
  obtain ⟨effects, goes, related, same⟩ := head s
  rcases ran : first.run s with ⟨failure | a, after⟩
  · rw [ran] at goes related same
    rw [Act.run_bind_error ran]
    refine ⟨effects, goes, failed _ _ related, ?_⟩
    intro log
    exact Act.run_bind_error (same log)
  · rw [ran] at goes related same
    rw [Act.run_bind_ok ran]
    obtain ⟨more, goesOn, relatedOn, sameOn⟩ := tail a effects related after
    refine ⟨effects ++ more, goes.append goesOn, relatedOn, ?_⟩
    intro log
    rw [Act.run_bind_ok (same log), sameOn, List.append_assoc]

theorem map (f : α → β) {plain : Act σ α} {noted : Act (Noted σ) α}
    {relation : List Effect → Except Failure β → Prop}
    (traced : Traced reach id plain noted fun effects answer => relation effects (answer.map f)) :
    Traced reach id (f <$> plain) (f <$> noted) relation := by
  intro s
  obtain ⟨effects, goes, related, same⟩ := traced s
  rw [Act.run_map]
  refine ⟨effects, goes, related, ?_⟩
  intro log
  rw [Act.run_map, same, Except.map_id, id_eq, Except.map_id, id_eq]

theorem stamp : Traced reach id (liftM reach.stamp) (liftM (noted reach).stamp)
    (fun effects answer => effects = [] ∧ ∃ suffix, answer = .ok suffix) := by
  intro s
  refine ⟨[], .stamp (.still _), ⟨rfl, _, rfl⟩, ?_⟩
  intro log
  rw [List.append_nil]
  rfl

variable (path : Path)

theorem now : Traced reach id (liftM (reach.watch path).now) (liftM ((noted reach).watch path).now)
    (fun effects answer => effects = [] ∧ ∃ time, answer = .ok time) := by
  intro s
  refine ⟨[], .now path (.still _), ⟨rfl, _, rfl⟩, ?_⟩
  intro log
  rw [List.append_nil]
  rfl

theorem sleep (pause : Nat) :
    Traced reach id (liftM ((reach.watch path).sleep pause))
      (liftM (((noted reach).watch path).sleep pause))
      (fun effects answer => effects = [] ∧ answer = .ok ()) := by
  intro s
  refine ⟨[], .sleep path pause (.still _), ⟨rfl, rfl⟩, ?_⟩
  intro log
  rw [List.append_nil]
  rfl

theorem probe :
    Traced reach id (liftM (reach.watch path).probe) (liftM ((noted reach).watch path).probe)
      (fun effects answer => ∃ ready, effects = [.probe path ready] ∧ answer = .ok ready) := by
  intro s
  exact ⟨_, .probe path (.still _), ⟨_, rfl, rfl⟩, fun log => rfl⟩

end Traced

section each

def each (act : α → Act σ β) : List α → σ → List (Except Failure β) × σ
  | [], s => ([], s)
  | a :: later, s =>
    let ended := (act a).run s
    let rest := each act later ended.2
    (ended.1 :: rest.1, rest.2)

inductive Each (relation : α → List Effect → Except Failure β → Prop) :
    List α → List Effect → List (Except Failure β) → Prop
  | nil : Each relation [] [] []
  | cons {a : α} {later : List α} {first effects : List Effect} {result : Except Failure β}
      {results : List (Except Failure β)} (one : relation a first result)
      (rest : Each relation later effects results) :
      Each relation (a :: later) (first ++ effects) (result :: results)

theorem Traced.each {reach : Surroundings σ} {plain : α → Act σ β} {noted : α → Act (Noted σ) β}
    {relation : α → List Effect → Except Failure β → Prop}
    (traced : ∀ a, Traced reach id (plain a) (noted a) (relation a)) (items : List α) (s : σ) :
    let trace := (Bootstrap.each noted items (s, [])).2.2
    Goes reach s trace (Bootstrap.each plain items s).2 ∧
      Each relation items trace (Bootstrap.each plain items s).1 ∧
      ∀ log, Bootstrap.each noted items (s, log) =
        ((Bootstrap.each plain items s).1, (Bootstrap.each plain items s).2, log ++ trace) := by
  -- The effects are the same whatever was noted before, so those of the first action come first.
  have some_trace : ∃ trace, Goes reach s trace (Bootstrap.each plain items s).2 ∧
      Each relation items trace (Bootstrap.each plain items s).1 ∧
      ∀ log, Bootstrap.each noted items (s, log) =
        ((Bootstrap.each plain items s).1, (Bootstrap.each plain items s).2, log ++ trace) := by
    induction items generalizing s with
    | nil =>
      refine ⟨[], .still s, .nil, ?_⟩
      intro log
      rw [List.append_nil]
      rfl
    | cons a later ih =>
      obtain ⟨first, goes, one, same⟩ := traced a s
      obtain ⟨rest, onward, each, sameOn⟩ := ih ((plain a).run s).2
      refine ⟨first ++ rest, goes.append onward, .cons one each, ?_⟩
      intro log
      simp only [Bootstrap.each, same, sameOn, Except.map_id, id_eq, List.append_assoc]
  obtain ⟨trace, goes, each, same⟩ := some_trace
  have whole : (Bootstrap.each noted items (s, [])).2.2 = trace := congrArg (·.2.2) (same [])
  rw [whole]
  exact ⟨goes, each, same⟩

end each

end RuntimeHandover.Bootstrap
