import Mathlib.Data.List.Nodup
import RuntimeHandover.Container.Roster
import RuntimeHandover.Proofs.Bootstrap.Course

/-! What the effects of a run do to the containers of an engine that keeps its word. -/
namespace RuntimeHandover.Bootstrap
open Container Files

namespace Effect

/-- A call that fails changes nothing, and neither does one that is no matter of the engine. -/
def change : Effect → List Roster.Member → List Roster.Member
  | .remove id (.ok ()), containers => containers.filter (·.id ≠ id)
  | .create spec (.ok id), containers => containers ++ [⟨id, spec.labels, false, some spec⟩]
  | .start id (.ok ()), containers => containers.map fun container =>
    if container.id = id then {container with running := true} else container
  | _, containers => containers

/-- Whether an engine with these containers may give the answer: it lists those with the
label, in any order, and names a new container like none that it has. -/
def Truthful (containers : List Roster.Member) : Effect → Prop
  | .list label (.ok ids) =>
    ∀ id, id ∈ ids ↔ ∃ container ∈ containers, container.hasLabel label ∧ container.id = id
  | .create _ (.ok id) => id ∉ containers.map (·.id)
  | _ => True

end Effect

def afterwards (containers : List Roster.Member) (effects : List Effect) : List Roster.Member :=
  effects.foldl (fun containers effect => effect.change containers) containers

def Along (holds : List Roster.Member → Effect → Prop) :
    List Roster.Member → List Effect → Prop
  | _, [] => True
  | containers, effect :: rest =>
    holds containers effect ∧ Along holds (effect.change containers) rest

abbrev Told : List Roster.Member → List Effect → Prop := Along Effect.Truthful

theorem afterwards_append (containers : List Roster.Member) (first second : List Effect) :
    afterwards containers (first ++ second) = afterwards (afterwards containers first) second :=
  List.foldl_append

theorem along_append {holds : List Roster.Member → Effect → Prop}
    {containers : List Roster.Member} {first second : List Effect} :
    Along holds containers (first ++ second) ↔
      Along holds containers first ∧ Along holds (afterwards containers first) second := by
  induction first generalizing containers with
  | nil => simp [Along, afterwards]
  | cons effect rest ih =>
    simp only [List.cons_append, Along, ih, and_assoc]
    rfl

/-- Surroundings whose containers change as the effects of the engine say, and only then,
and whose engine answers truthfully. -/
structure Faithful {σ : Type} (reach : Surroundings σ) (sound : σ → Prop)
    (containers : σ → List Roster.Member) : Prop where
  call {α : Type} {effect : Except Failure α → Effect} {action : Act σ α}
    (asked : Call reach effect action) {s : σ} (holds : sound s) :
    sound (action.run s).2 ∧ (effect (action.run s).1).Truthful (containers s) ∧
      containers (action.run s).2 = (effect (action.run s).1).change (containers s)
  probe (path : Path) {s : σ} (holds : sound s) :
    sound ((reach.watch path).probe s).2 ∧
      containers ((reach.watch path).probe s).2 = containers s
  stamp {s : σ} (holds : sound s) :
    sound (reach.stamp s).2 ∧ containers (reach.stamp s).2 = containers s
  now (path : Path) {s : σ} (holds : sound s) :
    sound ((reach.watch path).now s).2 ∧ containers ((reach.watch path).now s).2 = containers s
  sleep (path : Path) (pause : Nat) {s : σ} (holds : sound s) :
    sound ((reach.watch path).sleep pause s).2 ∧
      containers ((reach.watch path).sleep pause s).2 = containers s

section faithful

variable {σ : Type} {reach : Surroundings σ} {sound : σ → Prop}
  {containers : σ → List Roster.Member}

/-- Along the effects of a faithful engine every answer is truthful, and they tell what
has become of its containers. -/
theorem Goes.told (faithful : Faithful reach sound containers) {s t : σ} {effects : List Effect}
    (goes : Goes reach s effects t) (holds : sound s) :
    Told (containers s) effects ∧ containers t = afterwards (containers s) effects := by
  induction goes with
  | still s => exact ⟨trivial, rfl⟩
  | call asked _ ih =>
    obtain ⟨soundly, truthful, changed⟩ := faithful.call asked holds
    have later := ih soundly
    rw [changed] at later
    exact ⟨⟨truthful, later.1⟩, later.2⟩
  | probe path _ ih =>
    obtain ⟨soundly, same⟩ := faithful.probe path holds
    have later := ih soundly
    rw [same] at later
    exact ⟨⟨trivial, later.1⟩, later.2⟩
  | stamp _ ih =>
    obtain ⟨soundly, same⟩ := faithful.stamp holds
    have later := ih soundly
    rwa [same] at later
  | now path _ ih =>
    obtain ⟨soundly, same⟩ := faithful.now path holds
    have later := ih soundly
    rwa [same] at later
  | sleep path pause _ ih =>
    obtain ⟨soundly, same⟩ := faithful.sleep path pause holds
    have later := ih soundly
    rwa [same] at later

end faithful

section installed

variable {containers : List Roster.Member}

theorem afterwards_removals (containers : List Roster.Member) (ids : List String) :
    afterwards containers (removals ids) = containers.filter (·.id ∉ ids) := by
  induction ids generalizing containers with
  | nil =>
    symm
    apply List.filter_eq_self.mpr
    simp
  | cons id rest ih =>
    have later := ih (containers.filter (·.id ≠ id))
    rw [List.filter_filter] at later
    refine later.trans (List.filter_congr ?_)
    intro container _
    simp [Bool.and_comm]

theorem afterwards_refusals (containers : List Roster.Member) (path : Path) (n : Nat) :
    afterwards containers (refusals path n) = containers := by
  induction n with
  | zero => rfl
  | succ n ih => exact ih

theorem afterwards_pulled (containers : List Roster.Member) (endpoint : String)
    (ids : List String) :
    afterwards containers (pulled endpoint ids) = containers.filter (·.id ∉ ids) := by
  rw [pulled, afterwards_append]
  exact afterwards_removals containers ids

private theorem change_start_new {id : String} (fresh : id ∉ containers.map (·.id)) (spec : Spec) :
    (Effect.start id (.ok ())).change (containers ++ [⟨id, spec.labels, false, some spec⟩]) =
      containers ++ [⟨id, spec.labels, true, some spec⟩] := by
  have kept : containers.map (fun container =>
      if container.id = id then {container with running := true} else container) = containers := by
    refine Eq.trans (List.map_congr_left ?_) (List.map_id' containers)
    intro container inside
    have other : container.id ≠ id := by
      intro same
      apply fresh
      rw [← same]
      exact List.mem_map_of_mem inside
    rw [if_neg other]
  simp only [Effect.change, List.map_append, kept, List.map_cons, List.map_nil, if_true]

theorem change_remove_new {id : String} (fresh : id ∉ containers.map (·.id)) (spec : Spec) :
    (Effect.remove id (.ok ())).change (containers ++ [⟨id, spec.labels, false, some spec⟩]) =
      containers := by
  have kept : containers.filter (·.id ≠ id) = containers := by
    refine List.filter_eq_self.mpr ?_
    intro container inside
    have other : container.id ≠ id := fun same => fresh (same ▸ List.mem_map_of_mem inside)
    simpa using other
  have gone : [(⟨id, spec.labels, false, some spec⟩ : Roster.Member)].filter (·.id ≠ id) = [] := by
    simp
  simp only [Effect.change, List.filter_append, kept, gone, List.append_nil]

theorem afterwards_installed {endpoint id : String} {ids : List String} {spec : Spec}
    (told : Told containers (replaced endpoint ids spec id ++ [.start id (.ok ())])) :
    afterwards containers (replaced endpoint ids spec id ++ [.start id (.ok ())]) =
      containers.filter (·.id ∉ ids) ++ [⟨id, spec.labels, true, some spec⟩] := by
  have fresh := (along_append.mp (along_append.mp told).1).2.1
  rw [afterwards_pulled] at fresh
  rw [replaced, afterwards_append, afterwards_append, afterwards_pulled]
  exact change_start_new fresh spec

variable {ids : List String} {label : String}

theorem cleared_of_listed (listed : (Effect.list label (.ok ids)).Truthful containers) :
    (containers.filter (·.id ∉ ids)).filter (·.hasLabel label) = [] := by
  rw [List.filter_filter, List.filter_eq_nil_iff]
  intro container inside both
  obtain ⟨carries, unlisted⟩ := Bool.and_eq_true_iff.mp both
  have present : container.id ∈ ids := (listed container.id).mpr ⟨container, inside, carries, rfl⟩
  exact of_decide_eq_true unlisted present

/-- When no two containers have the same id, a listed one has the label. -/
theorem labelled_of_listed (listed : (Effect.list label (.ok ids)).Truthful containers)
    (distinct : (containers.map (·.id)).Nodup) {container : Roster.Member}
    (inside : container ∈ containers) (present : container.id ∈ ids) :
    container.hasLabel label = true := by
  obtain ⟨other, there, marked, same⟩ := (listed container.id).mp present
  rwa [List.inj_on_of_nodup_map distinct there inside same] at marked

/-- Once every listed container is gone, the only one with the label is the new one. -/
theorem labelled_replaced (listed : (Effect.list label (.ok ids)).Truthful containers)
    {new : Roster.Member} (labelled : new.hasLabel label = true) :
    (containers.filter (·.id ∉ ids) ++ [new]).filter (·.hasLabel label) = [new] := by
  rw [List.filter_append, cleared_of_listed listed, List.nil_append,
    List.filter_cons_of_pos labelled, List.filter_nil]

/-- Containers without the label are not touched when no two have the same id. -/
theorem unlabelled_replaced (listed : (Effect.list label (.ok ids)).Truthful containers)
    (distinct : (containers.map (·.id)).Nodup)
    {new : Roster.Member} (labelled : new.hasLabel label = true) :
    (containers.filter (·.id ∉ ids) ++ [new]).filter (!·.hasLabel label) =
      containers.filter (!·.hasLabel label) := by
  have none_new : [new].filter (!·.hasLabel label) = [] := by simp [labelled]
  rw [List.filter_append, none_new, List.append_nil, List.filter_filter]
  apply List.filter_congr
  intro container inside
  cases carries : container.hasLabel label with
  | true => rfl
  | false =>
    have unlisted : container.id ∉ ids := by
      intro present
      rw [labelled_of_listed listed distinct inside present] at carries
      cases carries
    simp [unlisted]

end installed

end RuntimeHandover.Bootstrap
