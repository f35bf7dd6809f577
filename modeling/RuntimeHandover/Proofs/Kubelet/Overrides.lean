import RuntimeHandover.Kubelet.Overrides
import RuntimeHandover.Proofs.Json.Members

/-! What the overrides do to a live configuration: they set their own keys and leave
every other member as it was. -/
namespace RuntimeHandover.Kubelet
open Json

namespace LiveConfig

theorem ext_members {config other : LiveConfig} (same : config.members = other.members) :
    config = other := by
  cases config
  cases other
  cases same
  rfl

def withMembers (config : LiveConfig) (entries : List (String × Value)) : LiveConfig :=
  entries.foldl (fun config entry => config.insert entry.1 entry.2) config

theorem withMembers_table (config : LiveConfig) :
    config.withMembers Overrides.table = config.withOverrides := rfl

section members

variable {entries : List (String × Value)}

/-- What is set counts, and what is not set is as it was. -/
private theorem get?_withMembers (distinct : (Members.keys entries).Nodup) (config : LiveConfig)
    (key : String) :
    (config.withMembers entries).get? key = (Members.get? key entries).or (config.get? key) := by
  induction entries generalizing config with
  | nil => rfl
  | cons head rest ih =>
    obtain ⟨fresh, distinct⟩ := List.nodup_cons.mp distinct
    refine (ih distinct (config.insert head.1 head.2)).trans ?_
    rw [Members.get?]
    by_cases same : head.1 = key
    · rw [if_pos same, ← same, Members.get?_of_not_mem fresh]
      exact Members.get?_insert_self head.1 head.2 config.members
    · rw [if_neg same]
      exact congrArg _ (Members.get?_insert_of_ne (Ne.symm same) head.2 config.members)

/-- The keys that were there stay where they are, and the others follow in their own order. -/
private theorem keys_withMembers (distinct : (Members.keys entries).Nodup) (config : LiveConfig) :
    (config.withMembers entries).keys =
      config.keys ++ (Members.keys entries).filter (· ∉ config.keys) := by
  induction entries generalizing config with
  | nil => exact (List.append_nil _).symm
  | cons head rest ih =>
    obtain ⟨fresh, distinct⟩ := List.nodup_cons.mp distinct
    refine (ih distinct (config.insert head.1 head.2)).trans ?_
    have set : (config.insert head.1 head.2).keys =
        if head.1 ∈ config.keys then config.keys else config.keys ++ [head.1] :=
      Members.keys_insert head.1 head.2 config.members
    change _ = config.keys ++ (head.1 :: Members.keys rest).filter (· ∉ config.keys)
    rw [set]
    split
    next there => rw [List.filter_cons_of_neg (by simpa using there)]
    next absent =>
      -- None of the keys to come is the one that was just set.
      have later : (Members.keys rest).filter (· ∉ config.keys ++ [head.1]) =
          (Members.keys rest).filter (· ∉ config.keys) := by
        apply List.filter_congr
        intro key inside
        have other : key ≠ head.1 := by
          rintro rfl
          exact fresh inside
        simp [other]
      rw [List.filter_cons_of_pos (by simpa using absent), later, List.append_assoc]
      rfl

private theorem withMembers_of_get? {config : LiveConfig}
    (held : ∀ entry ∈ entries, config.get? entry.1 = some entry.2) :
    config.withMembers entries = config := by
  induction entries with
  | nil => rfl
  | cons head rest ih =>
    obtain ⟨first, later⟩ := List.forall_mem_cons.mp held
    have kept : config.insert head.1 head.2 = config :=
      ext_members (Members.insert_of_get? first)
    change (config.insert head.1 head.2).withMembers rest = config
    rw [kept, ih later]

end members

private theorem distinct_table : (Members.keys Overrides.table).Nodup := by decide

theorem get?_withOverrides (config : LiveConfig) (key : String) :
    config.withOverrides.get? key = (Overrides.get? key).or (config.get? key) := by
  rw [← withMembers_table]
  exact get?_withMembers distinct_table config key

theorem get?_withOverrides_of_mem {entry : String × Value} (inside : entry ∈ Overrides.table)
    (config : LiveConfig) : config.withOverrides.get? entry.1 = some entry.2 := by
  rw [get?_withOverrides, Overrides.get?, Members.get?_of_mem distinct_table inside]
  rfl

theorem get?_withOverrides_of_not_mem {key : String}
    (absent : key ∉ Members.keys Overrides.table) (config : LiveConfig) :
    config.withOverrides.get? key = config.get? key := by
  rw [get?_withOverrides, Overrides.get?, Members.get?_of_not_mem absent]
  rfl

theorem keys_withOverrides_eq (config : LiveConfig) :
    config.withOverrides.keys =
      config.keys ++ (Members.keys Overrides.table).filter (· ∉ config.keys) := by
  rw [← withMembers_table]
  exact keys_withMembers distinct_table config

theorem keys_withOverrides (config : LiveConfig) :
    config.keys <+: config.withOverrides.keys := by
  rw [keys_withOverrides_eq]
  exact List.prefix_append _ _

/-- Nothing but the values of keys decides whether a configuration is patched. -/
theorem isPatched_congr {config other : LiveConfig}
    (same : ∀ key, config.get? key = other.get? key) : config.isPatched = other.isPatched := by
  unfold isPatched
  simp only [same]

private theorem isPatched_iff (config : LiveConfig) :
    config.isPatched = true ↔ ∀ entry ∈ Overrides.table, config.get? entry.1 = some entry.2 := by
  unfold isPatched
  rw [List.all_eq_true]
  simp only [decide_eq_true_eq]

theorem isPatched_iff_get? (config : LiveConfig) :
    config.isPatched = true ↔
      config.get? "containerRuntime" = some (.string "remote") ∧
      config.get? "enableCRI" = some (.bool true) ∧
      config.get? "remoteRuntimeEndpoint" = some (.string "/run/criproxy.sock") ∧
      config.get? "remoteImageEndpoint" = some (.string "/run/criproxy.sock") := by
  rw [isPatched_iff]
  simp only [Overrides.table, proxyEndpoint, List.forall_mem_cons, List.not_mem_nil,
    false_imp_iff, implies_true, and_true]

theorem isPatched_withOverrides (config : LiveConfig) : config.withOverrides.isPatched = true :=
  config.withOverrides.isPatched_iff.mpr fun _ inside => get?_withOverrides_of_mem inside config

private theorem withOverrides_of_isPatched {config : LiveConfig}
    (patched : config.isPatched = true) :
    config.withOverrides = config := by
  rw [← withMembers_table]
  exact withMembers_of_get? (config.isPatched_iff.mp patched)

/-- A configuration is patched when the overrides change nothing in it. -/
theorem isPatched_iff_withOverrides (config : LiveConfig) :
    config.isPatched = true ↔ config.withOverrides = config := by
  constructor
  · exact withOverrides_of_isPatched
  · intro same
    rw [← same]
    exact isPatched_withOverrides config

end LiveConfig

theorem engineEndpoint_congr {config other : LiveConfig}
    (same : ∀ key, config.get? key = other.get? key) :
    engineEndpoint config = engineEndpoint other := by
  unfold engineEndpoint
  rw [same]

/-- The overrides do not say where the engine is. -/
theorem engineEndpoint_withOverrides (config : LiveConfig) :
    engineEndpoint config.withOverrides = engineEndpoint config := by
  have kept : config.withOverrides.get? engineEndpointKey = config.get? engineEndpointKey :=
    LiveConfig.get?_withOverrides_of_not_mem (by decide) config
  unfold engineEndpoint
  rw [kept]

theorem engineEndpoint_eq_ok_iff (config : LiveConfig) (endpoint : String) :
    engineEndpoint config = .ok endpoint ↔
      config.get? engineEndpointKey = some (.string endpoint) := by
  unfold engineEndpoint
  split
  next found same => simp [same]
  next other =>
    constructor
    · intro located
      cases located
    · intro found
      exact absurd found (other endpoint)

theorem engineEndpoint_eq_error_iff (config : LiveConfig) (failure : Failure) :
    engineEndpoint config = .error failure ↔
      (∀ endpoint, config.get? engineEndpointKey ≠ some (.string endpoint)) ∧
      failure = ⟨.missingField, "failed to retrieve dockerEndpoint from kubelet config"⟩ := by
  unfold engineEndpoint
  split
  next found same => simp [same]
  next other =>
    constructor
    · intro nowhere
      cases nowhere
      exact ⟨other, rfl⟩
    · intro nowhere
      rw [nowhere.2]
      rfl

/-- The overrides set their own keys: those that are there keep their places, the others follow in
the order of the table, and nothing else changes. Applied once more they change nothing, and
neither do they change a configuration that is patched already. -/
theorem overrides_fit (config : LiveConfig) :
    config.withOverrides.keys =
      config.keys ++ (Members.keys Overrides.table).filter (· ∉ config.keys) ∧
    (∀ key, config.withOverrides.get? key = (Overrides.get? key).or (config.get? key)) ∧
    config.withOverrides.withOverrides = config.withOverrides ∧
    config.withOverrides.withOverrides.compact = config.withOverrides.compact ∧
    config.withOverrides.withOverrides.pretty = config.withOverrides.pretty ∧
    config.withOverrides.isPatched = true ∧
    (config.isPatched = true ↔ config.withOverrides = config) ∧
    engineEndpoint config.withOverrides = engineEndpoint config := by
  have patched := config.isPatched_withOverrides
  have idempotent := LiveConfig.withOverrides_of_isPatched patched
  exact ⟨config.keys_withOverrides_eq, config.get?_withOverrides, idempotent,
    congrArg LiveConfig.compact idempotent, congrArg LiveConfig.pretty idempotent, patched,
    config.isPatched_iff_withOverrides, engineEndpoint_withOverrides config⟩

end RuntimeHandover.Kubelet
