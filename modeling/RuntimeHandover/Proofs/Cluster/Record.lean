import RuntimeHandover.Cluster.Api
import RuntimeHandover.Proofs.Act
import RuntimeHandover.Proofs.Kubelet.LiveConfig
import RuntimeHandover.Proofs.Text.Utf8

/-! What is posted for a record, and that whoever reads it finds the configuration there. -/
namespace RuntimeHandover.Cluster
open Http Json Kubelet Text

/-- The body of a request holds the record of a configuration under a node's name: as its only
data the configuration as text. -/
def Carries (body : List UInt8) (node : String) (config : LiveConfig) : Prop :=
  ∃ members metadata payload,
    parseValue (Utf8.symbols body) = .ok (.object members) ∧
    Members.get? "data" members = some (.object [("kubelet.config", .string payload)]) ∧
    LiveConfig.parse payload = .ok config ∧
    Members.get? "metadata" members = some (.object metadata) ∧
    Members.get? "name" metadata = some (.string ("kubelet-" ++ node)) ∧
    Members.get? "namespace" metadata = some (.string "kube-system")

private theorem readable_toConfigMap (node : NodeIdentity) (config : LiveConfig) :
    Readable depthLimit (Record.forNode node config).toConfigMap := by
  have data : Readable 127 (.object [("kubelet.config", .string config.compact)]) := by
    refine .object (by simp [Members.keys]) (by simp [Members.keys, numberMark]) ?_
    intro member inside
    rw [List.mem_singleton.mp inside]
    exact .string _
  have metadata : Readable 127 (.object
      [("name", .string (recordName node)), ("namespace", .string recordNamespace)]) := by
    refine .object (by simp [Members.keys]) (by simp [Members.keys, numberMark]) ?_
    simp only [List.forall_mem_cons, List.not_mem_nil, false_implies, implies_true, and_true]
    exact ⟨.string _, .string _⟩
  have whole : Readable 128 (.object [("apiVersion", .string "v1"), ("kind", .string "ConfigMap"),
      ("data", .object [("kubelet.config", .string config.compact)]),
      ("metadata", .object
        [("name", .string (recordName node)), ("namespace", .string recordNamespace)])]) := by
    refine .object (by simp [Members.keys]) (by simp [Members.keys, numberMark]) ?_
    simp only [List.forall_mem_cons, List.not_mem_nil, false_implies, implies_true, and_true]
    exact ⟨.string _, .string _, data, metadata⟩
  exact whole

theorem forNode_carries {config : LiveConfig} (sound : config.Sound) (node : NodeIdentity) :
    Carries (bytesOf (Record.forNode node config).toConfigMap.compact) node.name config := by
  have back := parseValue_compact (readable_toConfigMap node config)
  rw [← Utf8.symbols_bytesOf] at back
  exact ⟨_, [("name", .string (recordName node)), ("namespace", .string recordNamespace)],
    config.compact, back, rfl, LiveConfig.parse_compact sound, rfl, rfl, rfl⟩

def recordsPlace : Uri where
  path := "/api/v1/namespaces/kube-system/configmaps"
  query := some ""

theorem recordsTarget_namespace : recordsTarget recordNamespace = .ok recordsPlace := rfl

section publishing

variable {σ : Type} {api : Api σ} {record : Record} {target : Uri}

def Api.bearer? (api : Api σ) : Option String := api.token.map ("Bearer " ++ ·)

def Api.making (api : Api σ) (record : Record) (target : Uri) : Request :=
  ⟨.post, below api.root target, api.bearer?, bytesOf record.toConfigMap.compact⟩

/-- A token that cannot stand in a header keeps the record from being sent. -/
theorem create_unsent (found : recordsTarget record.space = .ok target)
    (bad : (api.bearer?.map isHeaderText).getD true = false) (s : σ) :
    api.create record s = (.error .badToken, s) := by
  unfold Api.bearer? at bad
  unfold Api.create
  rw [found]
  dsimp only
  rw [bad]
  rfl

/-- Else the API is asked once, and its answer decides. -/
theorem create_sent (found : recordsTarget record.space = .ok target)
    (good : (api.bearer?.map isHeaderText).getD true = true) (s : σ) :
    let answered := api.wire (api.making record target) s
    api.create record s = (match answered.1 with
      | .error fault => .error (.wire fault)
      | .ok answer => ((received answer).map published).getD (.error (.wire .unanswered)),
      answered.2) := by
  intro answered
  unfold Api.bearer? at good
  unfold Api.create
  rw [found]
  dsimp only
  rw [good]
  rcases came : answered with ⟨fault | answer, after⟩
  · exact bind_of_ran came _
  · exact bind_of_ran came _

theorem run_publish (api : Api σ) (record : Record) (s : σ) :
    (api.publish record).run s = ((api.create record s).1.mapError fun fault =>
      ⟨.publish, s!"failed to put ConfigMap {record.space}/{record.name}: {fault.message}"⟩,
      (api.create record s).2) := by
  unfold Api.publish
  rw [Act.run_bind, Act.run_liftM]
  dsimp only
  cases (api.create record s).1 with
  | error fault => rfl
  | ok _ => rfl

end publishing

end RuntimeHandover.Cluster
