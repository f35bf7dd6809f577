import Mathlib.Data.List.Basic
import RuntimeHandover.Proofs.Bootstrap.Installs

/-! An installation that fails, stage by stage: what its engine's containers are then, and the
words it fails with. Whatever is said holds of every engine that keeps its word, whichever calls
it refuses and however. -/
namespace RuntimeHandover.Bootstrap
open Container

/-- A failure of the kind is passed on as it is, and any other one with the words before its
message. -/
structure PassedOn (kind : FailureKind) (words : String) (cause failure : Failure) : Prop where
  ofKind : failure.kind = kind
  verbatim : cause.kind = kind → failure = cause
  wrapped : cause.kind ≠ kind → failure.detail = words ++ cause.message

private theorem passedOn_of_kind (kind : FailureKind) (words : String) (cause : Failure) :
    PassedOn kind words cause
      (if cause.kind = kind then cause else ⟨kind, words ++ cause.message⟩) := by
  by_cases same : cause.kind = kind
  · rw [if_pos same]
    exact ⟨same, fun _ => rfl, fun other => absurd same other⟩
  · rw [if_neg same]
    exact ⟨rfl, fun passed => absurd passed same, fun _ => rfl⟩

private theorem passedOn_stale (id : String) (cause : Failure) :
    PassedOn .container s!"failed to remove old container {id}: " cause (staleFailure id cause) :=
  passedOn_of_kind _ _ _

private theorem passedOn_pull (image : String) (cause : Failure) :
    PassedOn .imagePull s!"failed to pull {image}: " cause (pullFailure image cause) :=
  passedOn_of_kind _ _ _

/-- Of the containers before, those listed with the label are gone; the new ones are there after
the rest, and no others have the label. -/
structure Swept (trace : List Effect) (before new after : List Roster.Member) : Prop where
  kept : ∃ ids, .list markerLabel (.ok ids) ∈ trace ∧ after = before.filter (·.id ∉ ids) ++ new
  only : labelled after = new

section stages

variable {endpoint proxyPath : String} {args : List String} {trace : List Effect}
  {result : Except Failure String} {containers : List Roster.Member} {cause : Failure}

private theorem swept_of_listed {ids : List String} {new : List Roster.Member}
    (listed : (Effect.list markerLabel (.ok ids)).Truthful containers)
    (inside : .list markerLabel (.ok ids) ∈ trace)
    (marked : ∀ container ∈ new, container.hasLabel markerLabel = true) :
    Swept trace containers new (containers.filter (·.id ∉ ids) ++ new) := by
  refine ⟨⟨ids, inside, rfl⟩, ?_⟩
  rw [labelled, List.filter_append, cleared_of_listed listed, List.nil_append]
  exact List.filter_eq_self.mpr marked

private theorem swept_of_gone {ids : List String}
    (listed : (Effect.list markerLabel (.ok ids)).Truthful containers)
    (inside : .list markerLabel (.ok ids) ∈ trace) :
    Swept trace containers [] (containers.filter (·.id ∉ ids)) := by
  rw [← List.append_nil (containers.filter _)]
  exact swept_of_listed listed inside (by simp)

/-- Where the engine is not reached or lists nothing, nothing else is asked of it. -/
private theorem installation_unlisted
    (installation : Installation endpoint proxyPath args trace result)
    (failed : (∃ address, .connect address (.error cause) ∈ trace) ∨
      ∃ label, .list label (.error cause) ∈ trace) :
    result = .error cause ∧ afterwards containers trace = containers := by
  cases installation with
  | unreachable failure =>
    obtain rfl : cause = failure := by simpa using failed
    exact ⟨rfl, rfl⟩
  | unlisted failure =>
    obtain rfl : cause = failure := by simpa using failed
    exact ⟨rfl, rfl⟩
  | _ => simp [replaced, pulled, cleared, removals] at failed

/-- A removal that fails before anything is made is that of a listed container, after those
listed before it, and the last call. -/
private theorem installation_stuck
    (installation : Installation endpoint proxyPath args trace result)
    {before after : List Effect} {id : String}
    (parts : trace = before ++ .remove id (.error cause) :: after)
    (early : ∀ spec answer, .create spec answer ∉ before) :
    ∃ ids k, ids[k]? = some id ∧
      before = .connect endpoint (.ok ()) :: .list markerLabel (.ok ids) ::
        removals (ids.take k) ∧
      after = [] ∧ result = .error (staleFailure id cause) ∧
      afterwards containers trace = containers.filter (·.id ∉ ids.take k) := by
  have inside : .remove id (.error cause) ∈ trace := by simp [parts]
  cases installation with
  | stuck gone stuck rest failure =>
    have absent : Effect.remove id (.error cause) ∉ .connect endpoint (.ok ()) ::
        .list markerLabel (.ok (gone ++ stuck :: rest)) :: removals gone := by simp [removals]
    obtain ⟨rfl, same, rfl⟩ :=
      (List.append_cons_inj_of_notMem absent List.not_mem_nil).mp parts
    cases same
    refine ⟨gone ++ id :: rest, gone.length, by simp, by simp, rfl, rfl, ?_⟩
    rw [List.take_left]
    exact (afterwards_append _ _ _).trans (afterwards_removals containers gone)
  | unstarted ids suffix made failure cleanup =>
    -- The one removal that can fail is that of the container just made.
    have absent : Effect.remove id (.error cause) ∉
        replaced endpoint ids (Spec.proxy endpoint proxyPath args suffix) made ++
          [.start made (.error failure)] := by simp [replaced, pulled, cleared, removals]
    rw [List.append_cons] at parts
    obtain ⟨rfl, -, -⟩ := (List.append_cons_inj_of_notMem absent List.not_mem_nil).mp parts
    exact absurd (by simp [replaced]) (early (Spec.proxy endpoint proxyPath args suffix) (.ok made))
  | _ => simp [replaced, pulled, cleared, removals] at inside

private theorem installation_unpulled
    (installation : Installation endpoint proxyPath args trace result)
    (told : Told containers trace) {image : String} (failed : .pull image (.error cause) ∈ trace) :
    result = .error (pullFailure image cause) ∧
      Swept trace containers [] (afterwards containers trace) := by
  cases installation with
  | unpulled ids failure =>
    obtain ⟨rfl, rfl⟩ : image = proxyImage ∧ cause = failure := by
      simpa [cleared, removals] using failed
    have listed : (Effect.list markerLabel (.ok ids)).Truthful containers := told.2.1
    have gone : afterwards containers (cleared endpoint ids ++ [.pull proxyImage (.error cause)]) =
        containers.filter (·.id ∉ ids) :=
      (afterwards_append _ _ _).trans (afterwards_removals containers ids)
    refine ⟨rfl, ?_⟩
    rw [gone]
    exact swept_of_gone listed (by simp [cleared])
  | _ => simp [replaced, pulled, cleared, removals] at failed

private theorem installation_uncreated
    (installation : Installation endpoint proxyPath args trace result)
    (told : Told containers trace) {spec : Spec} (failed : .create spec (.error cause) ∈ trace) :
    result = .error cause ∧ Swept trace containers [] (afterwards containers trace) := by
  cases installation with
  | uncreated ids suffix failure =>
    obtain ⟨rfl, rfl⟩ : spec = Spec.proxy endpoint proxyPath args suffix ∧ cause = failure := by
      simpa [pulled, cleared, removals] using failed
    have listed : (Effect.list markerLabel (.ok ids)).Truthful containers := told.2.1
    refine ⟨rfl, ?_⟩
    rw [afterwards_append, afterwards_pulled]
    exact swept_of_gone listed (by simp [pulled, cleared])
  | _ => simp [replaced, pulled, cleared, removals] at failed

/-- A container that does not start is there, not running, if it cannot be removed either. -/
private theorem installation_unstarted
    (installation : Installation endpoint proxyPath args trace result)
    (told : Told containers trace) {id : String} (failed : .start id (.error cause) ∈ trace) :
    result = .error cause ∧ ∃ before spec cleanup,
      trace = before ++ [.create spec (.ok id), .start id (.error cause), .remove id cleanup] ∧
      match cleanup with
      | .ok () => Swept trace containers [] (afterwards containers trace)
      | .error _ =>
        Swept trace containers [⟨id, spec.labels, false, some spec⟩] (afterwards containers trace)
    := by
  cases installation with
  | unstarted ids suffix made failure cleanup =>
    obtain ⟨rfl, rfl⟩ : id = made ∧ cause = failure := by
      simpa [replaced, pulled, cleared, removals] using failed
    have listed : (Effect.list markerLabel (.ok ids)).Truthful containers := told.2.1
    have fresh := (along_append.mp (along_append.mp told).1).2.1
    refine ⟨rfl, pulled endpoint ids, Spec.proxy endpoint proxyPath args suffix, cleanup,
      by simp [replaced], ?_⟩
    rw [afterwards_pulled] at fresh
    rw [replaced, afterwards_append, afterwards_append, afterwards_pulled]
    cases cleanup with
    | error refusal =>
      refine swept_of_listed listed (by simp [pulled, cleared]) ?_
      intro container inside
      rw [List.mem_singleton.mp inside]
      rfl
    | ok _ =>
      change Swept _ containers [] ((Effect.remove id (.ok ())).change (_ ++ [_]))
      rw [change_remove_new fresh]
      exact swept_of_gone listed (by simp [pulled, cleared])
  | _ => simp [replaced, pulled, cleared, removals] at failed

/-- An installation fails only when a call does. -/
private theorem installation_failed {failure : Failure}
    (installation : Installation endpoint proxyPath args trace (.error failure)) :
    ∃ cause, .connect endpoint (.error cause) ∈ trace ∨
      .list markerLabel (.error cause) ∈ trace ∨ (∃ id, .remove id (.error cause) ∈ trace) ∨
      .pull proxyImage (.error cause) ∈ trace ∨ (∃ spec, .create spec (.error cause) ∈ trace) ∨
      ∃ id, .start id (.error cause) ∈ trace := by
  cases installation with
  | unreachable failure => exact ⟨failure, by simp⟩
  | unlisted failure => exact ⟨failure, by simp⟩
  | stuck gone id rest failure => exact ⟨failure, by simp⟩
  | unpulled ids failure => exact ⟨failure, by simp⟩
  | uncreated ids suffix failure => exact ⟨failure, by simp⟩
  | unstarted ids suffix id failure cleanup => exact ⟨failure, by simp⟩

end stages

section install

variable {σ : Type} {connect : Connector σ} {stamp : StateM σ Int} {sound : σ → Prop}
  {containers : σ → List Roster.Member} {s : σ}

private theorem installEffects_single (request : InstallRequest) (s : σ) :
    let trace := installEffects connect stamp [request] s
    let ended := (install connect stamp request.endpoint request.proxyPath request.args).run s
    Goes (engineOnly connect stamp) s trace ended.2 ∧
      Installation request.endpoint request.proxyPath request.args trace ended.1 := by
  obtain ⟨effects, goes, installation, same⟩ := install_traced connect stamp request s
  have noticed : installEffects connect stamp [request] s = effects := by
    simp [installEffects, installEach, each, same]
  rw [noticed]
  exact ⟨goes, installation⟩

/-- What a failed installation leaves and says. Where the engine is not reached or does not list
its containers, none of them change. Where a removal fails, those listed before are gone and
nothing is made. Where the image cannot be pulled or the new container cannot be made, none has
the label; where it cannot be started, none has it either, unless it cannot be removed again. Each
failure is the stage's own, but that of a removal is always one of a container and that of a pull
always one of an image. -/
theorem left_by_failed_install (dependable : Dependable connect stamp sound containers)
    (holds : sound s) (request : InstallRequest) :
    let trace := installEffects connect stamp [request] s
    let ended := (install connect stamp request.endpoint request.proxyPath request.args).run s
    let left := containers ended.2
    (∀ cause, ((∃ endpoint, .connect endpoint (.error cause) ∈ trace) ∨
        ∃ label, .list label (.error cause) ∈ trace) →
      ended.1 = .error cause ∧ left = containers s) ∧
    (∀ before id cause after, trace = before ++ .remove id (.error cause) :: after →
      (∀ spec answer, .create spec answer ∉ before) →
      ∃ ids k, ids[k]? = some id ∧
        before = .connect request.endpoint (.ok ()) :: .list markerLabel (.ok ids) ::
          removals (ids.take k) ∧
        after = [] ∧ left = (containers s).filter (·.id ∉ ids.take k) ∧
        ∃ failure, ended.1 = .error failure ∧
          PassedOn .container s!"failed to remove old container {id}: " cause failure) ∧
    (∀ image cause, .pull image (.error cause) ∈ trace →
      Swept trace (containers s) [] left ∧ ∃ failure, ended.1 = .error failure ∧
        PassedOn .imagePull s!"failed to pull {image}: " cause failure) ∧
    (∀ spec cause, .create spec (.error cause) ∈ trace →
      ended.1 = .error cause ∧ Swept trace (containers s) [] left) ∧
    (∀ id cause, .start id (.error cause) ∈ trace →
      ended.1 = .error cause ∧ ∃ before spec cleanup,
        trace = before ++ [.create spec (.ok id), .start id (.error cause), .remove id cleanup] ∧
        match cleanup with
        | .ok () => Swept trace (containers s) [] left
        | .error _ => Swept trace (containers s) [⟨id, spec.labels, false, some spec⟩] left) ∧
    (∀ failure, ended.1 = .error failure →
      ∃ cause, .connect request.endpoint (.error cause) ∈ trace ∨
        .list markerLabel (.error cause) ∈ trace ∨ (∃ id, .remove id (.error cause) ∈ trace) ∨
        .pull proxyImage (.error cause) ∈ trace ∨ (∃ spec, .create spec (.error cause) ∈ trace) ∨
        ∃ id, .start id (.error cause) ∈ trace) := by
  intro trace ended left
  obtain ⟨goes, installation⟩ := installEffects_single request s
  obtain ⟨told, changed⟩ := goes.told dependable.faithful holds
  have left_is : left = afterwards (containers s) trace := changed
  rw [left_is]
  refine ⟨?_, ?_, ?_, ?_, ?_, ?_⟩
  · intro cause failed
    exact installation_unlisted installation failed
  · intro before id cause after parts early
    obtain ⟨ids, k, inside, first, last, result, rest⟩ :=
      installation_stuck installation parts early
    exact ⟨ids, k, inside, first, last, rest, _, result, passedOn_stale id cause⟩
  · intro image cause failed
    obtain ⟨result, swept⟩ := installation_unpulled installation told failed
    exact ⟨swept, _, result, passedOn_pull image cause⟩
  · intro spec cause failed
    exact installation_uncreated installation told failed
  · intro id cause failed
    exact installation_unstarted installation told failed
  · intro failure failed
    have installation : Installation _ _ _ trace ended.1 := installation
    rw [failed] at installation
    exact installation_failed installation

end install

section clinging
open Rehearsal

/-- A host with two old proxies and another container, whose engine takes too long to remove the
second proxy. -/
def clinging : World :=
  {answering with roster := {answering.roster with
    containers := [⟨"old", [(markerLabel, "true")], true, none⟩, otherContainer,
      ⟨"older", [(markerLabel, "")], false, none⟩]
    refuse := fun _ call => if call = .remove "older" then some ⟨.timeout, "slow"⟩ else none}}

private theorem installEffects_clinging :
    installEffects World.rosterConnect (pure 0) [stumblingRequest] clinging =
      [.connect "unix:///d" (.ok ()), .list markerLabel (.ok ["old", "older"]),
        .remove "old" (.ok ()), .remove "older" (.error ⟨.timeout, "slow"⟩)] := by
  cbv

private theorem removals_injective : Function.Injective removals :=
  List.map_injective_iff.mpr fun _ _ same => (Effect.remove.inj same).1

/-- The first of the two proxies is gone there, and the installation says which one is not. -/
theorem left_by_failed_install_clinging :
    let ended := (install World.rosterConnect (pure 0) "unix:///d" "p" []).run clinging
    ended.1 = .error ⟨.container, "failed to remove old container older: Timeout: slow"⟩ ∧
      Rehearsal.containers ended.2 =
        [otherContainer, ⟨"older", [(markerLabel, "")], false, none⟩] := by
  intro ended
  have trusty : Trusty clinging := by
    apply trusty_refusing
    simp [otherContainer]
  obtain ⟨-, stuck, -⟩ := left_by_failed_install dependable_stumbling trusty stumblingRequest
  obtain ⟨ids, k, -, first, -, left, failure, result, passed⟩ :=
    stuck [.connect "unix:///d" (.ok ()), .list markerLabel (.ok ["old", "older"]),
      .remove "old" (.ok ())] "older" ⟨.timeout, "slow"⟩ [] installEffects_clinging (by simp)
  have gone : ids.take k = ["old"] :=
    removals_injective (List.cons.inj (List.cons.inj first).2).2.symm
  have said : failure = ⟨.container, "failed to remove old container older: Timeout: slow"⟩ := by
    have detail := passed.wrapped (by decide)
    have kind := passed.ofKind
    cases failure
    subst kind detail
    rfl
  rw [gone] at left
  rw [said] at result
  exact ⟨result, left⟩

end clinging

end RuntimeHandover.Bootstrap
