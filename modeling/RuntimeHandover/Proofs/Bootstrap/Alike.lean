import Mathlib.Data.List.Forall2
import RuntimeHandover.Proofs.Abreast
import RuntimeHandover.Proofs.Bootstrap.Effects
import RuntimeHandover.Proofs.Kubelet.Overrides

/-! Two runs side by side. In worlds that answer alike what they are asked alike, a run asks the
same from beginning to end. -/
namespace RuntimeHandover.Bootstrap
open Cluster Container Files Kubelet Socket

/-- What may set two runs apart: the configurations that their kubelets answer, although every
key has one value in both, and the stamps of their containers' names. -/
structure Leeway where
  live : LiveConfig → LiveConfig → Prop
  stamp : Int → Int → Prop
  lookups : ∀ {one other}, live one other → ∀ key, one.get? key = other.get? key

def Leeway.strict : Leeway := ⟨Eq, Eq, fun same _ => by rw [same]⟩

namespace Leeway

variable (leeway : Leeway)

inductive Records : Record → Record → Prop
  | forNode (node : NodeIdentity) {one other : LiveConfig} (same : leeway.live one other) :
      Records (.forNode node one.withOverrides) (.forNode node other.withOverrides)

inductive Specs : Spec → Spec → Prop
  | proxy (endpoint proxyPath : String) (args : List String) {one other : Int}
      (same : leeway.stamp one other) :
      Specs (.proxy endpoint proxyPath args one) (.proxy endpoint proxyPath args other)

inductive Effects : Effect → Effect → Prop
  | fetchLive (base : String) {one other : Except Failure LiveConfig}
      (same : Paired leeway.live one other) : Effects (.fetchLive base one) (.fetchLive base other)
  | save (path : Path) {one other : LiveConfig} (same : leeway.live one other)
      (answer : Except Failure Unit) : Effects (.save path one answer) (.save path other answer)
  | publish {one other : Record} (same : leeway.Records one other)
      (answer : Except Failure Unit) : Effects (.publish one answer) (.publish other answer)
  | create {one other : Spec} (same : leeway.Specs one other) (answer : Except Failure String) :
      Effects (.create one answer) (.create other answer)
  | fetchNode (base : String) (answer : Except Failure NodeIdentity) :
      Effects (.fetchNode base answer) (.fetchNode base answer)
  | connect (endpoint : String) (answer : Except Failure Unit) :
      Effects (.connect endpoint answer) (.connect endpoint answer)
  | list (label : String) (answer : Except Failure (List String)) :
      Effects (.list label answer) (.list label answer)
  | remove (id : String) (answer : Except Failure Unit) :
      Effects (.remove id answer) (.remove id answer)
  | pull (image : String) (answer : Except Failure Unit) :
      Effects (.pull image answer) (.pull image answer)
  | start (id : String) (answer : Except Failure Unit) :
      Effects (.start id answer) (.start id answer)
  | probe (path : Path) (ready : Bool) : Effects (.probe path ready) (.probe path ready)

end Leeway

variable {σ τ : Type}

structure Engines (leeway : Leeway) (world : σ → τ → Prop) (one : Engine σ) (other : Engine τ) :
    Prop where
  list : ∀ label, Act.Abreast world Eq (one.list label) (other.list label)
  remove : ∀ id, Act.Abreast world Eq (one.remove id) (other.remove id)
  pull : ∀ image, Act.Abreast world Eq (one.pull image) (other.pull image)
  create : ∀ {a b}, leeway.Specs a b → Act.Abreast world Eq (one.create a) (other.create b)
  start : ∀ id, Act.Abreast world Eq (one.start id) (other.start id)

structure Watches (world : σ → τ → Prop) (one : Watch σ) (other : Watch τ) : Prop where
  probe : Abreast world Eq one.probe other.probe
  now : Abreast world Eq one.now other.now
  sleep : ∀ pause, Abreast world Eq (one.sleep pause) (other.sleep pause)

structure Alike (leeway : Leeway) (world : σ → τ → Prop) (config : Config)
    (one : Surroundings σ) (other : Surroundings τ) : Prop where
  fetchLive : ∀ introspection base, Act.Abreast world leeway.live
    (one.fetchLive introspection base) (other.fetchLive introspection base)
  save : ∀ {a b}, leeway.live a b → Act.Abreast world Eq
    (one.save config.savedConfigPath a) (other.save config.savedConfigPath b)
  fetchNode : ∀ introspection base, Act.Abreast world Eq
    (one.fetchNode introspection base) (other.fetchNode introspection base)
  publish : ∀ {a b}, leeway.Records a b → Act.Abreast world Eq (one.publish a) (other.publish b)
  connect : ∀ endpoint, Act.Abreast world (Engines leeway world)
    (one.connect endpoint) (other.connect endpoint)
  stamp : Abreast world leeway.stamp one.stamp other.stamp
  watch : Watches world (one.watch config.proxySocketPath) (other.watch config.proxySocketPath)

section installing

variable {leeway : Leeway} {world : σ → τ → Prop} {one : Engine σ} {other : Engine τ}
  (engines : Engines leeway world one other)

include engines

private theorem Engines.removeStale (ids : List String) :
    Act.Abreast world Eq (Container.removeStale one ids) (Container.removeStale other ids) := by
  induction ids with
  | nil => exact .pure rfl
  | cons id rest ih => exact ((engines.remove id).restate _).bind fun _ _ _ => ih

private theorem Engines.startOrRemove (id : String) :
    Act.Abreast world Eq (Container.startOrRemove one id) (Container.startOrRemove other id) := by
  refine (engines.start id).outcome.bind ?_
  intro started startedOther paired
  cases paired with
  | ok same =>
    cases same
    exact .pure rfl
  | error failure => exact (engines.remove id).outcome.bind fun _ _ _ => .throw failure

end installing

section running

variable {leeway : Leeway} {world : σ → τ → Prop} {one : Surroundings σ} {other : Surroundings τ}
  {config : Config} (alike : Alike leeway world config one other) (options : Options)

private theorem Watches.poll {watch : Watch σ} {watchOther : Watch τ}
    (watches : Watches world watch watchOther) (deadline interval tries : Nat) :
    Abreast world Eq (Socket.poll watch deadline interval tries)
      (Socket.poll watchOther deadline interval tries) := by
  induction tries with
  | zero => exact .pure rfl
  | succ tries ih =>
    refine watches.probe.bind ?_
    rintro ready _ rfl
    split
    next => exact .pure rfl
    next =>
      refine watches.now.bind ?_
      rintro now _ rfl
      split
      next => exact .pure rfl
      next => exact (watches.sleep _).bind fun _ _ _ => ih

private theorem Watches.wait {watch : Watch σ} {watchOther : Watch τ}
    (watches : Watches world watch watchOther) (path : Path) (readiness : Readiness) :
    Act.Abreast world Eq (Socket.wait watch path readiness)
      (Socket.wait watchOther path readiness) := by
  refine (Act.Abreast.liftM watches.now).bind ?_
  rintro start _ rfl
  refine (Act.Abreast.liftM (watches.poll _ _ _)).bind ?_
  rintro decided _ rfl
  split
  next => exact .pure rfl
  next => exact .throw _

include alike

private theorem Alike.install (endpoint proxyPath : String) (args : List String) :
    Act.Abreast world Eq (Container.install one.connect one.stamp endpoint proxyPath args)
      (Container.install other.connect other.stamp endpoint proxyPath args) := by
  refine (alike.connect endpoint).bind ?_
  intro engine engineOther engines
  refine (engines.list markerLabel).bind ?_
  rintro ids _ rfl
  refine (engines.removeStale ids).bind fun _ _ _ => ?_
  refine ((engines.pull proxyImage).restate _).bind fun _ _ _ => ?_
  refine (Act.Abreast.liftM alike.stamp).bind ?_
  intro suffix suffixOther stamped
  refine (engines.create (.proxy endpoint proxyPath args stamped)).bind ?_
  rintro id _ rfl
  exact engines.startOrRemove id

private theorem Alike.installAndWait (endpoint : String) :
    Act.Abreast world Eq (Bootstrap.installAndWait one options config endpoint)
      (Bootstrap.installAndWait other options config endpoint) := by
  refine (alike.install endpoint config.proxyPath config.proxyArgs).bind ?_
  rintro id _ rfl
  refine (alike.watch.wait _ _).bind fun _ _ _ => ?_
  exact .pure rfl

private theorem Alike.verifyInstalled {live liveOther : LiveConfig}
    (same : leeway.live live liveOther) :
    Act.Abreast world Eq (Bootstrap.verifyInstalled one options config live)
      (Bootstrap.verifyInstalled other options config liveOther) := by
  unfold Bootstrap.verifyInstalled
  split
  next => exact .pure rfl
  next =>
    refine (Act.Abreast.liftM alike.watch.probe).bind ?_
    rintro ready _ rfl
    split
    next => exact .pure rfl
    next =>
      rw [engineEndpoint_congr (leeway.lookups same)]
      refine (Act.Abreast.ofExcept (.refl _)).bind ?_
      rintro endpoint _ rfl
      exact (alike.installAndWait options endpoint).map fun same => congrArg _ same

inductive Leeway.Patches (leeway : Leeway) : PatchOutcome → PatchOutcome → Prop
  | alreadyPatched {one other : LiveConfig} (same : leeway.live one other) :
      Patches leeway (.alreadyPatched one) (.alreadyPatched other)
  | patched {one other : LiveConfig} (same : leeway.live one other) (endpoint : String) :
      Patches leeway (.patched one.withOverrides endpoint) (.patched other.withOverrides endpoint)

private theorem Alike.patch {live liveOther : LiveConfig}
    (same : leeway.live live liveOther) :
    Act.Abreast world leeway.Patches (Kubelet.patch (one.save config.savedConfigPath) live)
      (Kubelet.patch (other.save config.savedConfigPath) liveOther) := by
  unfold Kubelet.patch
  rw [LiveConfig.isPatched_congr (leeway.lookups same)]
  split
  next => exact .pure (.alreadyPatched same)
  next =>
    refine (alike.save same).bind fun _ _ _ => ?_
    -- The engine is looked up by keys, and the overrides have none of these.
    dsimp only
    rw [engineEndpoint_withOverrides, engineEndpoint_withOverrides,
      engineEndpoint_congr (leeway.lookups same)]
    refine (Act.Abreast.ofExcept (.refl _)).bind ?_
    rintro endpoint _ rfl
    exact .pure (.patched same endpoint)

/-- Two runs side by side take the same way to the same outcome. -/
theorem Alike.run : Act.Abreast world Eq (Bootstrap.run one options config)
    (Bootstrap.run other options config) := by
  refine (Act.Abreast.ofExcept (.refl config.validate)).bind fun _ _ _ => ?_
  refine (alike.fetchLive options.introspection config.configzBaseUrl).bind ?_
  intro live liveOther same
  refine (alike.patch same).bind ?_
  intro patch patchOther patches
  cases patches with
  | alreadyPatched same => exact alike.verifyInstalled options same
  | patched same endpoint =>
    refine (alike.fetchNode options.introspection config.statsBaseUrl).bind ?_
    rintro node _ rfl
    refine (alike.publish (.forNode node same)).bind fun _ _ _ => ?_
    exact (alike.installAndWait options endpoint).map fun same => congrArg _ same

end running

section noting

variable {leeway : Leeway} {world : σ → τ → Prop}

def Leeway.Noted (leeway : Leeway) (world : σ → τ → Prop) (one : Noted σ) (other : Noted τ) :
    Prop :=
  world one.1 other.1 ∧ List.Forall₂ leeway.Effects one.2 other.2

private theorem abreast_note {α β : Type} {alike : α → β → Prop} {action : Act σ α}
    {actionOther : Act τ β}
    {effect : Except Failure α → Effect} {effectOther : Except Failure β → Effect}
    (abreast : Act.Abreast world alike action actionOther)
    (noted : ∀ {a b}, Paired alike a b → leeway.Effects (effect a) (effectOther b)) :
    Act.Abreast (leeway.Noted world) alike (note effect action) (note effectOther actionOther) := by
  rintro ⟨s, log⟩ ⟨t, logOther⟩ ⟨start, logs⟩
  obtain ⟨paired, after⟩ := abreast s t start
  exact ⟨paired, after, List.rel_append logs (.cons (noted paired) .nil)⟩

private theorem abreast_unnoted {α β : Type} {alike : α → β → Prop} {action : StateM σ α}
    {actionOther : StateM τ β} (abreast : Abreast world alike action actionOther) :
    Abreast (leeway.Noted world) alike (unnoted action) (unnoted actionOther) := by
  rintro ⟨s, log⟩ ⟨t, logOther⟩ ⟨start, logs⟩
  obtain ⟨same, after⟩ := abreast s t start
  exact ⟨same, after, logs⟩

private theorem Engines.noted {one : Engine σ} {other : Engine τ}
    (engines : Engines leeway world one other) :
    Engines leeway (leeway.Noted world) (notedEngine one) (notedEngine other) where
  list label := abreast_note (engines.list label) fun paired => paired.eq ▸ .list label _
  remove id := abreast_note (engines.remove id) fun paired => paired.eq ▸ .remove id _
  pull image := abreast_note (engines.pull image) fun paired => paired.eq ▸ .pull image _
  create same := abreast_note (engines.create same) fun paired => paired.eq ▸ .create same _
  start id := abreast_note (engines.start id) fun paired => paired.eq ▸ .start id _

private theorem Watches.noted {one : Watch σ} {other : Watch τ} (watches : Watches world one other)
    (path : Path) :
    Watches (leeway.Noted world) (notedWatch path one) (notedWatch path other) where
  probe := by
    rintro ⟨s, log⟩ ⟨t, logOther⟩ ⟨start, logs⟩
    obtain ⟨same, after⟩ := watches.probe s t start
    refine ⟨same, after, List.rel_append logs (.cons ?_ .nil)⟩
    rw [same]
    exact .probe path _
  now := abreast_unnoted watches.now
  sleep pause := abreast_unnoted (watches.sleep pause)

theorem Alike.noted {one : Surroundings σ} {other : Surroundings τ}
    {config : Config} (alike : Alike leeway world config one other) :
    Alike leeway (leeway.Noted world) config (Bootstrap.noted one) (Bootstrap.noted other) where
  fetchLive introspection base :=
    abreast_note (alike.fetchLive introspection base) fun paired => .fetchLive base paired
  save same := abreast_note (alike.save same) fun paired => paired.eq ▸ .save _ same _
  fetchNode introspection base :=
    abreast_note (alike.fetchNode introspection base) fun paired => paired.eq ▸ .fetchNode base _
  publish same := abreast_note (alike.publish same) fun paired => paired.eq ▸ .publish same _
  connect endpoint := by
    refine (abreast_note (alike.connect endpoint) ?_).map Engines.noted
    intro connected connectedOther paired
    cases paired with
    | ok same => exact .connect endpoint _
    | error failure => exact .connect endpoint _
  stamp := abreast_unnoted alike.stamp
  watch := alike.watch.noted _

/-- Two runs side by side end alike and have the same effects, as far as the leeway goes. -/
theorem Alike.effects {one : Surroundings σ} {other : Surroundings τ}
    {config : Config} (alike : Alike leeway world config one other) (options : Options)
    {s : σ} {t : τ}
    (start : world s t) :
    ((Bootstrap.run one options config).run s).1 = ((Bootstrap.run other options config).run t).1 ∧
    world ((Bootstrap.run one options config).run s).2
      ((Bootstrap.run other options config).run t).2 ∧
    List.Forall₂ leeway.Effects (Bootstrap.effects one options config s)
      (Bootstrap.effects other options config t) := by
  obtain ⟨paired, after⟩ := alike.run options s t start
  obtain ⟨-, -, noted⟩ := alike.noted.run options (s, []) (t, []) ⟨start, .nil⟩
  exact ⟨paired.eq, after, noted⟩

/-- Without leeway the effects are the same. -/
theorem effects_strict {one other : List Effect}
    (same : List.Forall₂ Leeway.strict.Effects one other) : one = other := by
  rw [← List.forall₂_eq_eq_eq]
  refine same.imp ?_
  intro effect effectOther alike
  cases alike with
  | fetchLive base paired => rw [paired.eq]
  | save path same answer =>
    cases same
    rfl
  | publish same answer =>
    cases same with
    | forNode node same =>
      cases same
      rfl
  | create same answer =>
    cases same with
    | proxy endpoint proxyPath args same =>
      cases same
      rfl
  | _ => rfl

end noting

end RuntimeHandover.Bootstrap
