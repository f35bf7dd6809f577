import RuntimeHandover.Kubelet.Introspection
import RuntimeHandover.Proofs.Json.Image
import RuntimeHandover.Proofs.Kubelet.Overrides

/-! A live configuration that was read is read back from its text, in either form and with
the overrides in it. -/
namespace RuntimeHandover.Kubelet
open Json Text

namespace LiveConfig

variable {config : LiveConfig}

private theorem ofMembers_members (config : LiveConfig) : ofMembers config.members = config :=
  ext_members (Members.ofList_of_nodup config.distinct)

def Sound (config : LiveConfig) : Prop :=
  ∀ member ∈ config.members, Readable (depthLimit - 1) member.2

private theorem parse_of_objectMembers {text : String}
    (read : document objectMembers (symbolsOf text) = .ok config.members) :
    parse text = .ok config := by
  unfold parse
  rw [read]
  exact congrArg Except.ok (ofMembers_members config)

theorem parse_compact (sound : config.Sound) : parse config.compact = .ok config := by
  apply parse_of_objectMembers
  unfold compact toValue Value.compact
  rw [symbolsOf_ofList, printValue_eq 0]
  exact objectMembers_laid .tight config.distinct sound 0

theorem parse_pretty (sound : config.Sound) : parse config.pretty = .ok config := by
  apply parse_of_objectMembers
  unfold pretty toValue Value.pretty
  rw [symbolsOf_ofList, prettyValue_eq]
  exact objectMembers_laid .lined config.distinct sound 0

theorem sound_of_parse {text : String} (parsed : parse text = .ok config) : config.Sound := by
  unfold parse at parsed
  cases read : document objectMembers (symbolsOf text) with
  | error fault =>
    rw [read] at parsed
    cases parsed
  | ok members =>
    rw [read] at parsed
    cases parsed
    intro member inside
    exact (objectMembers_readable read).2 member (Members.mem_ofList inside)

/-- A configuration is sound when there is a text that reads as it. -/
theorem sound_iff_parse (config : LiveConfig) :
    config.Sound ↔ ∃ text, parse text = .ok config := by
  constructor
  · intro sound
    exact ⟨config.compact, parse_compact sound⟩
  · rintro ⟨text, parsed⟩
    exact sound_of_parse parsed

private theorem sound_insert {key : String} {value : Value} (sound : config.Sound)
    (readable : Readable (depthLimit - 1) value) : (config.insert key value).Sound := by
  intro member inside
  rcases Members.mem_insert inside with same | before
  · rw [same]
    exact readable
  · exact sound member before

private theorem sound_withMembers {entries : List (String × Value)} (sound : config.Sound)
    (readable : ∀ entry ∈ entries, Readable (depthLimit - 1) entry.2) :
    (config.withMembers entries).Sound := by
  induction entries generalizing config with
  | nil => exact sound
  | cons entry rest ih =>
    have set : (config.insert entry.1 entry.2).Sound :=
      sound_insert sound (readable entry List.mem_cons_self)
    exact ih set fun later inside => readable later (List.mem_cons_of_mem _ inside)

theorem sound_withOverrides (sound : config.Sound) : config.withOverrides.Sound := by
  rw [← withMembers_table]
  apply sound_withMembers sound
  simp only [Overrides.table, List.forall_mem_cons, List.not_mem_nil, false_implies,
    implies_true, and_true]
  exact ⟨.string _, .bool _, .string _, .string _⟩

section embedded

variable {depth : Nat}

private theorem readable_insert {key : String} {value : Value}
    (readable : Readable (depth + 2) config.toValue) (unmarked : key ≠ numberMark)
    (inner : Readable (depth + 1) value) :
    Readable (depth + 2) (config.insert key value).toValue := by
  cases readable with
  | object distinct first inside =>
    refine .object (config.insert key value).distinct ?_ ?_
    · intro marked
      change (Members.keys (Members.insert key value config.members)).head? = _ at marked
      by_cases empty : config.members = []
      · rw [empty] at marked
        exact unmarked (Option.some.inj marked)
      · rw [Members.head?_keys_insert value empty] at marked
        exact first marked
    · intro member there
      rcases Members.mem_insert there with same | before
      · rw [same]
        exact inner
      · exact inside member before

private theorem readable_withMembers {entries : List (String × Value)}
    (readable : Readable (depth + 2) config.toValue)
    (unmarked : ∀ entry ∈ entries, entry.1 ≠ numberMark)
    (inner : ∀ entry ∈ entries, Readable (depth + 1) entry.2) :
    Readable (depth + 2) (config.withMembers entries).toValue := by
  induction entries generalizing config with
  | nil => exact readable
  | cons entry rest ih =>
    obtain ⟨headUnmarked, unmarked⟩ := List.forall_mem_cons.mp unmarked
    obtain ⟨headInner, inner⟩ := List.forall_mem_cons.mp inner
    exact ih (readable_insert readable headUnmarked headInner) unmarked inner

/-- With the overrides a configuration needs no more levels than without, and is no number. -/
theorem readable_withOverrides (readable : Readable (depth + 2) config.toValue) :
    Readable (depth + 2) config.withOverrides.toValue := by
  rw [← withMembers_table]
  apply readable_withMembers readable
  · decide
  · simp only [Overrides.table, List.forall_mem_cons, List.not_mem_nil, false_implies,
      implies_true, and_true]
    exact ⟨.string _, .bool _, .string _, .string _⟩

theorem sound_of_readable (readable : Readable (depthLimit - 1) config.toValue) :
    config.Sound := by
  cases readable with
  | object _ _ inside => exact fun member there => (inside member there).mono (by decide)

/-- The configuration in an answer is the object there as it is, one level below it. -/
theorem liveConfigIn_eq_ok {text : List Symbol} {members : List (String × Value)}
    (parsed : parseValue text = .ok (.object members))
    (found : liveConfigIn members = .ok config) :
    Readable (depthLimit - 1) config.toValue ∧
      Members.get? "componentconfig" members = some config.toValue := by
  unfold liveConfigIn at found
  split at found
  next inner got =>
    cases found
    have whole := parseValue_readable parsed
    cases whole with
    | object _ _ inside =>
      have readable := inside _ (Members.mem_of_get? got)
      cases readable with
      | object distinct unmarked deeper =>
        have same : (ofMembers inner).toValue = .object inner :=
          congrArg Value.object (Members.ofList_of_nodup distinct)
        rw [same, got]
        exact ⟨.object distinct unmarked deeper, rfl⟩
  next => cases found

theorem liveConfigIn_of_get? {members : List (String × Value)}
    (held : Members.get? "componentconfig" members = some config.toValue) :
    liveConfigIn members = .ok config := by
  unfold liveConfigIn
  rw [held]
  exact congrArg Except.ok (ofMembers_members config)

end embedded

end LiveConfig

end RuntimeHandover.Kubelet
