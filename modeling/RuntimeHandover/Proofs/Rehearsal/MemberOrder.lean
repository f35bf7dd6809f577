import Mathlib
import RuntimeHandover.Proofs.Bootstrap.Recovery
import RuntimeHandover.Proofs.Rehearsal.Veil

/-! The order in which a kubelet gives the members of its configuration. It shows in what a run
saves and publishes, where the members stand as they came, and nowhere else. -/
namespace RuntimeHandover.Kubelet.LiveConfig
open Json

variable {config other : LiveConfig}

private theorem mem_iff_get? (config : LiveConfig) (member : String × Value) :
    member ∈ config.members ↔ config.get? member.1 = some member.2 :=
  ⟨Members.get?_of_mem config.distinct, Members.mem_of_get?⟩

/-- Configurations hold the same members when every key has the same value in both. -/
private theorem perm_iff_get? :
    config.members.Perm other.members ↔ ∀ key, config.get? key = other.get? key := by
  constructor
  · intro same key
    ext value
    rw [← mem_iff_get? config (key, value), ← mem_iff_get? other (key, value)]
    exact same.mem_iff
  · intro same
    have distinct (config : LiveConfig) : config.members.Nodup := .of_map _ config.distinct
    refine (List.perm_ext_iff_of_nodup (distinct config) (distinct other)).mpr ?_
    intro member
    rw [mem_iff_get?, mem_iff_get?, same]

private theorem perm_withOverrides (same : config.members.Perm other.members) :
    config.withOverrides.members.Perm other.withOverrides.members := by
  rw [perm_iff_get?] at same ⊢
  intro key
  rw [get?_withOverrides, get?_withOverrides, same]

/-- The same overrides are missing, and they follow in the same order. -/
private theorem keys_withOverrides_perm (same : config.members.Perm other.members) :
    ∃ missing, missing.Sublist (Members.keys Overrides.table) ∧
      config.withOverrides.keys = config.keys ++ missing ∧
      other.withOverrides.keys = other.keys ++ missing := by
  refine ⟨(Members.keys Overrides.table).filter (· ∉ config.keys), List.filter_sublist,
    keys_withOverrides_eq config, ?_⟩
  have known (key : String) : key ∈ config.keys ↔ key ∈ other.keys := (same.map Prod.fst).mem_iff
  simp only [keys_withOverrides_eq, known]

private theorem sound_of_perm (same : config.members.Perm other.members) (sound : config.Sound) :
    other.Sound :=
  fun member inside => sound member (same.mem_iff.mpr inside)

end RuntimeHandover.Kubelet.LiveConfig

namespace RuntimeHandover.Bootstrap
open Cluster Container Kubelet

def Leeway.reordered {live other : LiveConfig} (same : live.members.Perm other.members)
    (stamp : Int → Int → Prop) : Leeway where
  live one two := one = live ∧ two = other
  stamp := stamp
  lookups := by
    rintro _ _ ⟨rfl, rfl⟩
    exact LiveConfig.perm_iff_get?.mp same

section effects

variable {leeway : Leeway} {trace traceOther : List Effect}

private theorem filterMap_congr {α : Type} {look : Effect → Option α}
    (same : List.Forall₂ leeway.Effects trace traceOther)
    (seen : ∀ {effect effectOther}, leeway.Effects effect effectOther →
      look effect = look effectOther) :
    trace.filterMap look = traceOther.filterMap look := by
  induction same with
  | nil => rfl
  | cons first _ ih => rw [List.filterMap_cons, List.filterMap_cons, seen first, ih]

private theorem endpoints_congr (same : List.Forall₂ leeway.Effects trace traceOther) :
    endpoints trace = endpoints traceOther :=
  filterMap_congr same fun alike => by cases alike <;> rfl

private theorem specs_congr (same : List.Forall₂ leeway.Effects trace traceOther) :
    (specs trace).map unnamed = (specs traceOther).map unnamed := by
  unfold specs
  rw [List.map_filterMap, List.map_filterMap]
  apply filterMap_congr same
  intro effect effectOther alike
  cases alike with
  | create same answer =>
    cases same
    rfl
  | _ => rfl

/-- What an effect stores of a configuration reads as that configuration, in a record with the
overrides in it. -/
def Effect.Stores (live : LiveConfig) : Effect → Prop
  | .save _ backup _ => LiveConfig.parse backup.pretty = .ok live
  | .publish record _ => ∃ payload, record.payload? = some payload ∧
      LiveConfig.parse payload = .ok live.withOverrides
  | _ => True

private theorem stores_reordered {live other : LiveConfig} {same : live.members.Perm other.members}
    {stamp : Int → Int → Prop} (sound : live.Sound)
    (alike : List.Forall₂ (Leeway.reordered same stamp).Effects trace traceOther) :
    (∀ effect ∈ trace, effect.Stores live) ∧ ∀ effect ∈ traceOther, effect.Stores other := by
  have soundOther := LiveConfig.sound_of_perm same sound
  induction alike with
  | nil => simp
  | cons first _ ih =>
    rw [List.forall_mem_cons, List.forall_mem_cons]
    suffices both : Effect.Stores live _ ∧ Effect.Stores other _ from
      ⟨⟨both.1, ih.1⟩, both.2, ih.2⟩
    cases first with
    | save path backups answer =>
      obtain ⟨rfl, rfl⟩ := backups
      exact ⟨LiveConfig.parse_pretty sound, LiveConfig.parse_pretty soundOther⟩
    | publish records answer =>
      cases records with
      | forNode node lives =>
        obtain ⟨rfl, rfl⟩ := lives
        exact ⟨⟨_, rfl, LiveConfig.parse_compact (LiveConfig.sound_withOverrides sound)⟩,
          _, rfl, LiveConfig.parse_compact (LiveConfig.sound_withOverrides soundOther)⟩
    | _ => exact ⟨trivial, trivial⟩

end effects

end RuntimeHandover.Bootstrap

namespace RuntimeHandover.Rehearsal
open Bootstrap Cluster Container Files Http Kubelet Text

def heedless : Veil := ⟨fun _ => False, fun _ _ => True, id, fun _ => trivial⟩

def Elsewhere (one other : Network) : Prop := ∃ seen, other = {one with seen}

private theorem clear_heedless (names : List Name) : heedless.Clear names := fun _ _ => id

private theorem worlds_heedless (world : World) (saved : Name) :
    Worlds heedless saved Elsewhere world world := by
  have clear_step (step : SetupStep) : step.Clear heedless := by
    cases step with
    | link path target => exact ⟨clear_heedless _, clear_heedless _⟩
    | closeSockets => exact trivial
    | _ => exact clear_heedless _
  exact .mk ⟨fun _ _ => .refl fun _ _ => clear_heedless _, rfl, rfl, clear_heedless _, clear_heedless _,
    fun _ => clear_heedless _⟩ ⟨_, rfl⟩ (fun _ _ => clear_step _)
    fun _ _ _ _ _ => ⟨clear_heedless _, clear_heedless _⟩

/-- A server answers by the place that it is asked for. -/
private theorem abreast_elsewhere (trust : Trust) {request requestOther : Request}
    (same : request.url = requestOther.url) :
    Abreast Elsewhere Eq (Network.wire trust request) (Network.wire trust requestOther) := by
  rintro one _ ⟨seen, rfl⟩
  have answers : Network.respond {one with seen} requestOther = one.respond request := by
    unfold Network.respond
    rw [same]
  have reached : Network.reaches {one with seen} trust requestOther.url =
      one.reaches trust requestOther.url := rfl
  unfold Network.wire
  rw [same, answers, reached]
  split
  next => exact ⟨rfl, _, rfl⟩
  next => exact ⟨rfl, _, rfl⟩

def configured (access : Access) (live : LiveConfig) : Surroundings World :=
  {World.clustered access with fetchLive := fun _ _ => pure live}

/-- Any rehearsed world answers alike, whatever the order of the members. -/
private theorem alike_reordered {live other : LiveConfig} (same : live.members.Perm other.members)
    (access : Access) (config : Config) :
    Alike (.reordered same Eq)
      (Worlds heedless (config.savedConfigPath.fileName?.getD []) Elsewhere) config
      (configured access live) (configured access other) :=
  alike_clustered rfl access (clear_heedless _) rfl (clear_heedless _) (fun _ => trivial)
    (fun trust _ => abreast_elsewhere trust rfl) (fun _ trust _ _ => abreast_elsewhere trust rfl)
    fun _ _ => .pure ⟨rfl, rfl⟩

end RuntimeHandover.Rehearsal

namespace RuntimeHandover.Bootstrap
open Cluster Container Files Http Kubelet Rehearsal Text

/-- Runs whose kubelets answer with the same members in two orders, in worlds that answer alike,
take one way to one outcome. They ask the same and are answered the same, the engine at one
endpoint for one container but for its name. What each of them saves reads as what its own kubelet
answered, and what it publishes as that with the overrides; the missing ones follow in one
order. -/
theorem member_order_irrelevant {σ τ : Type} {world : σ → τ → Prop} {live other : LiveConfig}
    (same : live.members.Perm other.members) {stamp : Int → Int → Prop} {config : Config}
    {reach : Surroundings σ} {reachOther : Surroundings τ}
    (alike : Alike (.reordered same stamp) world config reach reachOther) (options : Options)
    {s : σ} {t : τ} (start : world s t) :
    let ended := (run reach options config).run s
    let endedOther := (run reachOther options config).run t
    let trace := effects reach options config s
    let traceOther := effects reachOther options config t
    ended.1 = endedOther.1 ∧ world ended.2 endedOther.2 ∧
    List.Forall₂ (Leeway.reordered same stamp).Effects trace traceOther ∧
    endpoints trace = endpoints traceOther ∧
    (specs trace).map unnamed = (specs traceOther).map unnamed ∧
    ((∃ text, LiveConfig.parse text = .ok live) →
      (∀ effect ∈ trace, effect.Stores live) ∧ ∀ effect ∈ traceOther, effect.Stores other) ∧
    live.withOverrides.members.Perm other.withOverrides.members ∧
    ∃ missing, missing.Sublist (Json.Members.keys Overrides.table) ∧
      live.withOverrides.keys = live.keys ++ missing ∧
      other.withOverrides.keys = other.keys ++ missing := by
  intro ended endedOther trace traceOther
  obtain ⟨result, after, traces⟩ := alike.effects options start
  refine ⟨result, after, traces, endpoints_congr traces, specs_congr traces, ?_,
    LiveConfig.perm_withOverrides same, LiveConfig.keys_withOverrides_perm same⟩
  intro read
  exact stores_reordered ((LiveConfig.sound_iff_parse live).mpr read) traces

section turned

def padded : LiveConfig := .ofMembers [("dockerEndpoint", .string "unix:///d"), ("a", .null)]

def turned : LiveConfig := .ofMembers [("a", .null), ("dockerEndpoint", .string "unix:///d")]

/-- On the host that answers, a run gets as far as publishing. -/
private theorem effects_configured (live : LiveConfig) (unpatched : live.isPatched = false)
    (writes : (writeBackup noMishap answeringConfig.savedConfigPath live answering.disk).1 =
      .ok ()) (located : ∃ endpoint, engineEndpoint live = .ok endpoint) :
    ∃ answer rest, effects (configured answeringAccess live) {} answeringConfig answering =
      leading answeringConfig live ⟨"n", by decide⟩ answer ++ rest := by
  let saved := ((World.onDisk (ExceptT.mk
    (writeBackup noMishap answeringConfig.savedConfigPath live))).run answering).2
  have network : saved.network = answering.network := rfl
  have answered : (World.wire .all (Request.get (loopback ["stats", "summary"])) saved).1 =
      .ok ⟨200, [], some (bytesOf answeringNode)⟩ := by
    change (Network.wire .all _ saved.network).1 = _
    rw [network]
    cbv
  have naming := fetchNode_eq_ok.mpr ⟨[("node", .object [("nodeName", .string "n")])],
    fetched_plain ["stats", "summary"] answeringNode (by cbv) (by cbv) answered (by cbv), by cbv⟩
  have approach : Approach (configured answeringAccess live) {} answeringConfig answering live
      ⟨"n", by decide⟩ answering saved _ :=
    ⟨by decide, rfl, unpatched, Prod.ext writes rfl, located, naming⟩
  obtain ⟨rest, led⟩ := approach.publishes
  exact ⟨_, rest, led⟩

/-- A kubelet whose answer is turned around is saved and published turned around. -/
theorem member_order_irrelevant_turned :
    let trace live := effects (configured answeringAccess live) {} answeringConfig answering
    padded.members.Perm turned.members ∧ padded.members ≠ turned.members ∧
    ∃ answer rest restOther,
      trace padded = leading answeringConfig padded ⟨"n", by decide⟩ answer ++ rest ∧
      trace turned = leading answeringConfig turned ⟨"n", by decide⟩ answer ++ restOther ∧
      (∀ effect ∈ trace padded, effect.Stores padded) ∧
      (∀ effect ∈ trace turned, effect.Stores turned) ∧
      padded.withOverrides.keys = ["dockerEndpoint", "a"] ++ Json.Members.keys Overrides.table ∧
      turned.withOverrides.keys = ["a", "dockerEndpoint"] ++ Json.Members.keys Overrides.table := by
  intro trace
  have same : padded.members.Perm turned.members := .swap _ _ _
  obtain ⟨answer, rest, led⟩ :=
    effects_configured padded (by decide) (by cbv) ⟨"unix:///d", by cbv⟩
  obtain ⟨answerOther, restOther, ledOther⟩ :=
    effects_configured turned (by decide) (by cbv) ⟨"unix:///d", by cbv⟩
  obtain ⟨-, -, alike, -, -, stored, -⟩ := member_order_irrelevant same
    (alike_reordered same answeringAccess answeringConfig) {} (worlds_heedless answering _)
  obtain ⟨stores, storesOther⟩ := stored ⟨padded.compact, by cbv⟩
  rw [led, ledOther] at alike
  simp only [leading, List.cons_append, List.forall₂_cons] at alike
  obtain ⟨-, -, -, publishing, -⟩ := alike
  cases publishing
  exact ⟨same, by decide, answer, rest, restOther, led, ledOther, stores, storesOther, by decide,
    by decide⟩

end turned

end RuntimeHandover.Bootstrap
