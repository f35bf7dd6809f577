import Mathlib
import RuntimeHandover.Kubelet.Configuration
import RuntimeHandover.Proofs.Files.Document
import RuntimeHandover.Proofs.Json.Plain
import RuntimeHandover.Proofs.Json.Typed
import RuntimeHandover.Proofs.Kubelet.Patch

/-! What a saved configuration shows of the live configuration that it is the backup of. -/
namespace RuntimeHandover.Kubelet
open Files Json Text

namespace Configuration

def settingKeys : List String :=
  ["containerRuntime", "enableCRI", "remoteRuntimeEndpoint", "remoteImageEndpoint",
    "dockerEndpoint"]

def others (members : List (String × Value)) : List (String × Value) :=
  members.filter (·.1 ∉ settingKeys)

structure Shows (members : List (String × Value)) (config : Configuration) : Prop where
  containerRuntime : Kind.text.shown (Members.get? "containerRuntime" members) =
    some config.containerRuntime
  enableCri : Kind.flag.shown (Members.get? "enableCRI" members) = some config.enableCri
  remoteRuntimeEndpoint : Kind.text.shown (Members.get? "remoteRuntimeEndpoint" members) =
    some config.remoteRuntimeEndpoint
  remoteImageEndpoint : Kind.text.shown (Members.get? "remoteImageEndpoint" members) =
    some config.remoteImageEndpoint
  dockerEndpoint : Kind.text.shown (Members.get? "dockerEndpoint" members) =
    some config.dockerEndpoint
  other : config.other = others members

private theorem Shows.unique {members : List (String × Value)} {config config' : Configuration}
    (shows : Shows members config) (shows' : Shows members config') : config = config' := by
  obtain ⟨runtime, enableCri, remote, image, engine, other⟩ := config
  obtain ⟨runtime', enableCri', remote', image', engine', other'⟩ := config'
  have same {α : Type} {held : Option α} {a a' : α} (first : held = some a)
      (second : held = some a') : a = a' := Option.some.inj (first.symm.trans second)
  simp only [Configuration.mk.injEq]
  exact ⟨same shows.containerRuntime shows'.containerRuntime, same shows.enableCri shows'.enableCri,
    same shows.remoteRuntimeEndpoint shows'.remoteRuntimeEndpoint,
    same shows.remoteImageEndpoint shows'.remoteImageEndpoint,
    same shows.dockerEndpoint shows'.dockerEndpoint, shows.other.trans shows'.other.symm⟩

def put (config : Configuration) : String × Value → Option Configuration
  | ("containerRuntime", value) =>
    (Kind.text.shown value).map fun text => {config with containerRuntime := text}
  | ("enableCRI", value) => (Kind.flag.shown value).map fun b => {config with enableCri := b}
  | ("remoteRuntimeEndpoint", value) =>
    (Kind.text.shown value).map fun text => {config with remoteRuntimeEndpoint := text}
  | ("remoteImageEndpoint", value) =>
    (Kind.text.shown value).map fun text => {config with remoteImageEndpoint := text}
  | ("dockerEndpoint", value) =>
    (Kind.text.shown value).map fun text => {config with dockerEndpoint := text}
  | member => some {config with other := config.other ++ [member]}

section reading

variable {depth level : Nat} {layout : Layout} {member : String × Value}

private theorem of_read {α : Type} {name : String} {read : Reader α}
    {set : α → Configuration → Configuration} {input rest : List Symbol} {shown : Option α}
    (reads : (read depth input).toOption = shown.map (·, rest)) :
    ((FieldReader.of name read set).read depth input).toOption =
      (shown.map set).map (·, rest) := by
  change (read depth input >>= _).toOption = _
  rw [toOption_bind, reads]
  cases shown with
  | none => rfl
  | some a => rfl

private theorem find?_fields (key : String) :
    fields.find? (·.name == key) = none ∧ key ∉ settingKeys ∨
      ∃ field ∈ fields, fields.find? (·.name == key) = some field ∧ field.name = key := by
  cases found : fields.find? (·.name == key) with
  | none =>
    refine .inl ⟨rfl, ?_⟩
    intro inside
    have names : settingKeys = fields.map (·.name) := rfl
    rw [names] at inside
    obtain ⟨field, known, named⟩ := List.mem_map.mp inside
    have missed := List.find?_eq_none.mp found field known
    simp [named] at missed
  | some field =>
    exact .inr ⟨field, List.mem_of_find?_eq_some found, rfl,
      by simpa using List.find?_some found⟩

/-- A field reads the member that has its name, and changes what the member changes. -/
private theorem field_read (layout : Layout) (level : Nat) {field : FieldReader Configuration}
    (known : field ∈ fields) (named : field.name = member.1) (readable : Readable depth member.2)
    (config : Configuration) (rest : List Symbol) :
    ∃ set? : Option (Configuration → Configuration),
      (field.read depth
        (chars (laidMember layout level member).item.spelled ++ rest)).toOption =
          set?.map (·, rest) ∧
      put config member = set?.map (· config) := by
  obtain ⟨key, value⟩ := member
  dsimp only at named
  subst named
  simp only [fields, List.mem_cons, List.not_mem_nil, or_false] at known
  rcases known with rfl | rfl | rfl | rfl | rfl
  case inr.inl =>
    have flag := readOption_laid layout level readable fun notNull =>
      readBool_laid readable notNull rest
    refine ⟨_, of_read flag, ?_⟩
    simp [put, FieldReader.of, Function.comp_def]
  all_goals
    have text := readOption_laid layout level readable fun notNull =>
      readText_laid "a string" readable notNull rest
    refine ⟨_, of_read text, ?_⟩
    simp [put, FieldReader.of, engineEndpointKey, Function.comp_def]

private theorem put_other (config : Configuration) (new : member.1 ∉ settingKeys) :
    put config member = some {config with other := config.other ++ [member]} := by
  obtain ⟨key, value⟩ := member
  unfold put
  split
  case h_6 => rfl
  all_goals
    next same =>
      cases same
      exact absurd (by simp [settingKeys]) new

section step

variable {spelled : Member} (keyed : spelled.Keyed) (fuel : Nat) (first : Bool)
  {seen : List String} (config : Configuration) {onward left : List Symbol}
include keyed

private theorem readMembers_other {value : Value}
    (missing : fields.find? (·.name == spelled.key) = none)
    (read : readValue false (steps (chars spelled.item.spelled ++ onward)) depth
      (chars spelled.item.spelled ++ onward) = .ok (value, left)) :
    readMembers depth (fuel + 1) first seen config
        (chars ((if first then [] else [',']) ++ spelled.spelled) ++ onward) =
      readMembers depth fuel false seen
        {config with other := config.other ++ [(spelled.key, value)]} left := by
  rw [readMembers, nextKey_commaed keyed first onward]
  simp only [bind, Except.bind, missing, readColon_gap keyed.gap, read]

private theorem readMembers_setting {field : FieldReader Configuration}
    (found : fields.find? (·.name == spelled.key) = some field) (unseen : spelled.key ∉ seen) :
    readMembers depth (fuel + 1) first seen config
        (chars ((if first then [] else [',']) ++ spelled.spelled) ++ onward) =
      (do
        let (set, left) ← field.read depth (chars spelled.item.spelled ++ onward)
        readMembers depth fuel false (spelled.key :: seen) (set config) left) := by
  have new : ¬ seen.contains spelled.key = true := by simpa using unseen
  rw [readMembers, nextKey_commaed keyed first onward]
  simp only [bind, Except.bind, found, readColon_gap keyed.gap, if_neg new]

end step

/-- The members of a configuration are read one after the other. -/
private theorem readMembers_laid (layout : Layout) (level : Nat) {members : List (String × Value)}
    (distinct : (Members.keys members).Nodup)
    (readable : ∀ member ∈ members, Readable depth member.2) {ending : List Char}
    (closing : Blank ending) {fuel : Nat} (enough : members.length < fuel) (first : Bool)
    (seen : List String) (unseen : ∀ key ∈ Members.keys members, key ∉ seen)
    (config : Configuration) (rest : List Symbol) :
    (readMembers depth fuel first seen config
        (chars (commaed first ((members.map (laidMember layout level)).map Member.spelled)) ++
          (chars ending ++ .char '\x7d' :: rest))).toOption =
      (members.foldlM put config).map (·, .char '\x7d' :: rest) := by
  obtain ⟨less, rfl⟩ : ∃ less, fuel = less + 1 := Nat.exists_eq_add_one.mpr (by omega)
  induction members generalizing first less seen config with
  | nil =>
    have ended : nextKey first (chars ending ++ .char '\x7d' :: rest) = _ :=
      nextKey_end closing first
    simp only [readMembers, List.map_nil, commaed, chars, List.nil_append] at ended ⊢
    rw [ended]
    rfl
  | cons member members ih =>
    obtain ⟨fresh, distinct⟩ := List.nodup_cons.mp distinct
    obtain ⟨headReadable, readable⟩ := List.forall_mem_cons.mp readable
    obtain ⟨headUnseen, unseen⟩ := List.forall_mem_cons.mp unseen
    obtain ⟨fewer, rfl⟩ : ∃ fewer, less = fewer + 1 :=
      Nat.exists_eq_add_one.mpr (by simp at enough; omega)
    have enough : members.length < fewer + 1 := by simpa using enough
    have keyed := laidMember_keyed layout level member
    let onward := chars (commaed false ((members.map (laidMember layout level)).map
      Member.spelled)) ++ (chars ending ++ .char '\x7d' :: rest)
    have split : chars (commaed first (((member :: members).map (laidMember layout level)).map
          Member.spelled)) ++ (chars ending ++ .char '\x7d' :: rest) =
        chars ((if first then [] else [',']) ++ (laidMember layout level member).spelled) ++
          onward := by
      simp only [List.map_cons, commaed, chars, List.map_append, List.append_assoc, onward]
    have ends : Ends onward := ends_commaed _ (ends_blank closing (ends_cons (by decide) _))
    rw [split, List.foldlM_cons]
    rcases find?_fields member.1 with ⟨missing, new⟩ | ⟨field, known, found, named⟩
    · rw [readMembers_other keyed (fewer + 1) first config missing
        (headReadable.readValue_laid ends), put_other config new]
      exact ih distinct readable false seen unseen _ fewer enough
    -- A setting of another kind ends the reading, with a fault of its own.
    · obtain ⟨set?, read, made⟩ := field_read layout level known named headReadable config onward
      rw [readMembers_setting keyed (fewer + 1) first config found headUnseen, toOption_bind,
        show (field.read depth _).toOption = _ from read, made]
      cases set? with
      | none => rfl
      | some set =>
        refine ih distinct readable false _ ?_ _ fewer enough
        intro key inside before
        rcases List.mem_cons.mp before with rfl | before
        · exact fresh inside
        · exact unseen key inside before

end reading

def Kept {α : Type} (kind : Kind α) (key : String) (members : List (String × Value))
    (before after : Option α) : Prop :=
  match Members.get? key members with
  | none => before = after
  | some value => kind.shown (some value) = some after

section shown

variable {α : Type} {kind : Kind α} {key : String} {value : Value}
  {members : List (String × Value)} {before after : Option α}

private theorem kept_self :
    Kept kind key ((key, value) :: members) before after ↔
      kind.shown (some value) = some after := by
  simp [Kept, Members.get?]

private theorem kept_absent (absent : key ∉ Members.keys members) :
    Kept kind key members before after ↔ before = after := by
  simp [Kept, Members.get?_of_not_mem absent]

private theorem kept_other {other : String} (differ : other ≠ key) :
    Kept kind key ((other, value) :: members) before after ↔
      Kept kind key members before after := by
  simp [Kept, Members.get?, differ]

private theorem kept_first (kind : Kind α) (key : String) (after : Option α) :
    Kept kind key members none after ↔
      kind.shown (Members.get? key members) = some after := by
  unfold Kept
  cases Members.get? key members with
  | none => simp [Kind.shown]
  | some value => rfl

/-- Putting the members in one after the other, each setting comes from the only member with its
key, and the others stay in order. -/
private theorem foldlM_put_iff (distinct : (Members.keys members).Nodup)
    (start config : Configuration) :
    members.foldlM put start = some config ↔
      Kept .text "containerRuntime" members start.containerRuntime config.containerRuntime ∧
      Kept .flag "enableCRI" members start.enableCri config.enableCri ∧
      Kept .text "remoteRuntimeEndpoint" members start.remoteRuntimeEndpoint
        config.remoteRuntimeEndpoint ∧
      Kept .text "remoteImageEndpoint" members start.remoteImageEndpoint
        config.remoteImageEndpoint ∧
      Kept .text "dockerEndpoint" members start.dockerEndpoint config.dockerEndpoint ∧
      config.other = start.other ++ others members := by
  induction members generalizing start with
  | nil =>
    obtain ⟨⟩ := start
    obtain ⟨⟩ := config
    simp [Kept, Members.get?, others, eq_comm]
  | cons member members ih =>
    obtain ⟨key, value⟩ := member
    obtain ⟨fresh, later⟩ : key ∉ Members.keys members ∧ (Members.keys members).Nodup :=
      List.nodup_cons.mp distinct
    rw [List.foldlM_cons]
    by_cases setting : key ∈ settingKeys
    · have rest : others ((key, value) :: members) = others members := by simp [others, setting]
      simp only [settingKeys, List.mem_cons, List.not_mem_nil, or_false] at setting
      -- Later members leave a setting as it is, since no key comes twice.
      rcases setting with rfl | rfl | rfl | rfl | rfl
      case inr.inl =>
        cases flag : Kind.flag.shown (some value) <;>
          simp [put, flag, ih later, kept_self, kept_absent fresh, kept_other, rest]
      all_goals
        cases text : Kind.text.shown (some value) <;>
          simp [put, text, ih later, kept_self, kept_absent fresh, kept_other, rest]
    · have rest : others ((key, value) :: members) = (key, value) :: others members := by
        simp [others, setting]
      rw [put_other start setting]
      simp only [settingKeys, List.mem_cons, List.not_mem_nil, or_false, not_or] at setting
      simp [ih later, kept_other setting.1, kept_other setting.2.1, kept_other setting.2.2.1,
        kept_other setting.2.2.2.1, kept_other setting.2.2.2.2, rest]

private theorem shows_iff (distinct : (Members.keys members).Nodup) (config : Configuration) :
    members.foldlM put {} = some config ↔ Shows members config := by
  rw [foldlM_put_iff distinct]
  simp only [kept_first, List.nil_append]
  constructor
  · rintro ⟨containerRuntime, enableCri, remoteRuntime, remoteImage, engine, other⟩
    exact ⟨containerRuntime, enableCri, remoteRuntime, remoteImage, engine, other⟩
  · rintro ⟨containerRuntime, enableCri, remoteRuntime, remoteImage, engine, other⟩
    exact ⟨containerRuntime, enableCri, remoteRuntime, remoteImage, engine, other⟩

end shown

section texts

variable {members : List (String × Value)}

private theorem settle_others (distinct : (Members.keys members).Nodup) {depth : Nat}
    (readable : ∀ member ∈ members, Readable depth member.2) :
    settleMembers (others members) = .ok (others members) ∧
      Members.ofList (others members) = others members := by
  have part : (others members).Sublist members := List.filter_sublist
  constructor
  · apply settleMembers_eq
    intro member inside
    exact (readable member (part.subset inside)).settleMarks
  · exact Members.ofList_of_nodup (distinct.sublist (part.map _))

/-- A configuration is read from the text of an object as its members show it. -/
private theorem parse_laid (layout : Layout) (distinct : (Members.keys members).Nodup)
    (readable : ∀ member ∈ members, Readable (depthLimit - 1) member.2) (level : Nat) :
    (document read (chars (layValue layout level (.object members)))).toOption =
      members.foldlM put {} := by
  rw [layValue, layMembers_eq]
  let body := commaed true ((members.map (laidMember layout level)).map Member.spelled) ++
    (closing layout level (true && members.isEmpty) ++ ['\x7d'])
  have enough : members.length < steps (chars body) := by
    have counted := length_le_commaed true (members.map (laidMember layout level))
    simp only [List.length_map] at counted
    simp only [steps, chars, body, List.length_map, List.length_append]
    omega
  have inner := readMembers_laid layout level distinct readable
    (closing_blank layout level (true && members.isEmpty)) enough true [] (by simp) {} []
  have same : chars (commaed true ((members.map (laidMember layout level)).map Member.spelled)) ++
      (chars (closing layout level (true && members.isEmpty)) ++ [.char '\x7d']) = chars body := by
    simp [body]
  rw [same] at inner
  have skipped : skipSpace (chars ('\x7b' :: body)) = .char '\x7b' :: chars body := rfl
  change (document read (chars ('\x7b' :: body))).toOption = _
  simp only [document, read, skipped]
  rw [if_neg (by decide)]
  cases fold : members.foldlM put {} with
  | none =>
    rw [fold] at inner
    obtain ⟨stop, refused⟩ := error_of_toOption inner
    rw [refused]
    obtain ⟨other, closes⟩ : ∃ other, closed endMembers
      (.error stop : Except Stop (Taken Configuration)) = .error other := closed_error _ stop
    simp only [bind, Except.bind, closes]
    rfl
  | some config =>
    rw [fold] at inner
    have taken := ok_of_toOption inner
    have shows := (shows_iff distinct config).mp fold
    obtain ⟨settled, kept⟩ := settle_others distinct readable
    rw [taken]
    simp only [bind, Except.bind, shows.other, settled, kept]
    change some {config with other := others members} = some config
    rw [← shows.other]

private theorem parse_pretty_iff {live : LiveConfig} (sound : live.Sound) (config : Configuration) :
    parse live.pretty = .ok config ↔ Shows live.members config := by
  have laid := parse_laid .lined live.distinct sound 0
  have text : symbolsOf live.pretty = chars (layValue .lined 0 (.object live.members)) := by
    unfold LiveConfig.pretty LiveConfig.toValue Value.pretty
    rw [symbolsOf_ofList, prettyValue_eq]
  rw [← shows_iff live.distinct, ← laid, ← text]
  constructor
  · intro parsed
    exact congrArg Except.toOption parsed
  · exact ok_of_toOption

end texts

section serialised

variable {members : List (String × Value)} {config : Configuration}

def settings (config : Configuration) : List (String × Value) :=
  let text (key : String) (value : Option String) : List (String × Value) :=
    value.toList.map fun text => (key, .string text)
  text "containerRuntime" config.containerRuntime ++
    config.enableCri.toList.map (fun b => ("enableCRI", .bool b)) ++
    text "remoteRuntimeEndpoint" config.remoteRuntimeEndpoint ++
    text "remoteImageEndpoint" config.remoteImageEndpoint ++
    text "dockerEndpoint" config.dockerEndpoint

private theorem toValue_eq (config : Configuration) :
    config.toValue = .object (settings config ++ config.other) := rfl

private theorem mem_setting {α : Type} (kind : Kind α) {key : String} {a? : Option α}
    (distinct : (Members.keys members).Nodup)
    (shown : kind.shown (Members.get? key members) = some a?) (member : String × Value) :
    member ∈ a?.toList.map (fun a => (key, kind.wrap a)) ↔
      member.1 = key ∧ member ∈ members ∧ member.2 ≠ .null := by
  have held := (kind.shown_eq_some_iff _ _).mp shown
  constructor
  · intro inside
    obtain ⟨a, there, rfl⟩ := List.mem_map.mp inside
    rw [Option.mem_toList] at there
    cases there
    obtain held | ⟨none, -⟩ := held
    · exact ⟨rfl, Members.mem_of_get? held, kind.wrap_ne_null a⟩
    · cases none
  · rintro ⟨rfl, inside, notNull⟩
    have found := Members.get?_of_mem distinct inside
    rw [found] at held
    obtain held | ⟨-, null⟩ := held
    · obtain ⟨a, rfl, same⟩ := Option.map_eq_some_iff.mp held.symm
      simp [same]
    · exact absurd (Option.some.inj null) notNull

private theorem mem_settings (distinct : (Members.keys members).Nodup)
    (shows : Shows members config)
    (member : String × Value) :
    member ∈ settings config ↔
      member.1 ∈ settingKeys ∧ member ∈ members ∧ member.2 ≠ .null := by
  have text {key : String} {text? : Option String}
      (shown : Kind.text.shown (Members.get? key members) = some text?) :
      member ∈ text?.toList.map (fun text => (key, Value.string text)) ↔
        member.1 = key ∧ member ∈ members ∧ member.2 ≠ .null :=
    mem_setting .text distinct shown member
  have flag : member ∈ config.enableCri.toList.map (fun b => ("enableCRI", Value.bool b)) ↔
      member.1 = "enableCRI" ∧ member ∈ members ∧ member.2 ≠ .null :=
    mem_setting .flag distinct shows.enableCri member
  simp only [settings, List.mem_append, text shows.containerRuntime, flag,
    text shows.remoteRuntimeEndpoint, text shows.remoteImageEndpoint, text shows.dockerEndpoint,
    settingKeys, List.mem_cons, List.not_mem_nil, or_false, ← or_and_right, or_assoc]

private theorem keys_settings (config : Configuration) :
    (Members.keys (settings config)).Sublist settingKeys := by
  have one {α : Type} (wrap : α → Value) (key : String) (a? : Option α) :
      (Members.keys (a?.toList.map fun a => (key, wrap a))).Sublist [key] := by
    cases a? with
    | none => exact List.nil_sublist _
    | some a => exact List.Sublist.refl _
  simp only [settings, Members.keys, List.map_append]
  exact ((((one .string _ _).append (one .bool _ _)).append (one .string _ _)).append
    (one .string _ _)).append (one .string _ _)

/-- Two configurations hold the same members, the others in the same order. Only settings may
stand elsewhere, or be missing where they were null. -/
structure Rearranged (live back : LiveConfig) : Prop where
  members : back.members.Perm
    (live.members.filter fun member => ¬ (member.1 ∈ settingKeys ∧ member.2 = .null))
  others : others back.members = others live.members

private theorem serialised_back {live : LiveConfig} (sound : live.Sound)
    (shows : Shows live.members config) :
    ∃ back, LiveConfig.parse config.toValue.compact = .ok back ∧
      LiveConfig.parse config.toValue.pretty = .ok back ∧ Rearranged live back := by
  have distinct := live.distinct
  have ofSettings := mem_settings distinct shows
  have ofOthers (member : String × Value) : member ∈ config.other ↔
      member ∈ live.members ∧ member.1 ∉ settingKeys := by
    rw [shows.other]
    simp [others]
  have fresh : (Members.keys (settings config ++ config.other)).Nodup := by
    rw [Members.keys, List.map_append, List.nodup_append, shows.other]
    refine ⟨(keys_settings config).nodup (by decide), ?_, ?_⟩
    · exact distinct.sublist (List.filter_sublist.map _)
    · rintro key inside other later rfl
      obtain ⟨member, there, rfl⟩ := List.mem_map.mp later
      have known := (keys_settings config).subset inside
      simp [others, known] at there
  let back : LiveConfig := ⟨settings config ++ config.other, fresh⟩
  have same : config.toValue = back.toValue := toValue_eq config
  have backSound : back.Sound := by
    intro member inside
    rcases List.mem_append.mp inside with set | kept
    · exact sound member ((ofSettings member).mp set).2.1
    · exact sound member ((ofOthers member).mp kept).1
  rw [same]
  refine ⟨back, LiveConfig.parse_compact backSound, LiveConfig.parse_pretty backSound, ?_, ?_⟩
  · change (settings config ++ config.other).Perm _
    apply (List.perm_ext_iff_of_nodup (List.Nodup.of_map _ fresh)
      ((List.Nodup.of_map _ distinct).filter _)).mpr
    intro member
    rw [List.mem_append, ofSettings, ofOthers, List.mem_filter, decide_eq_true_iff]
    tauto
  · change others (settings config ++ config.other) = _
    have none : others (settings config) = [] := by
      apply List.filter_eq_nil_iff.mpr
      intro member set
      simp [((ofSettings member).mp set).1]
    have all : others config.other = config.other := by
      apply List.filter_eq_self.mpr
      intro member kept
      simp [((ofOthers member).mp kept).2]
    have split : others (settings config ++ config.other) =
        others (settings config) ++ others config.other := List.filter_append ..
    rw [split, none, all, List.nil_append, shows.other]

end serialised

end Configuration

structure Typed (live : LiveConfig) : Prop where
  texts : ∀ key ∈ ["containerRuntime", "remoteRuntimeEndpoint", "remoteImageEndpoint",
      "dockerEndpoint"],
    live.get? key = none ∨ live.get? key = some .null ∨ ∃ text, live.get? key = some (.string text)
  flag : live.get? "enableCRI" = none ∨ live.get? "enableCRI" = some .null ∨
    ∃ b, live.get? "enableCRI" = some (.bool b)

section backup

variable {live : LiveConfig}

private theorem exists_shows_iff (live : LiveConfig) :
    (∃ config, Configuration.Shows live.members config) ↔ Typed live := by
  constructor
  · rintro ⟨config, shows⟩
    refine ⟨?_, (Kind.flag.exists_shown_iff _).mp ⟨_, shows.enableCri⟩⟩
    simp only [List.forall_mem_cons, List.not_mem_nil, false_implies, implies_true, and_true]
    exact ⟨(Kind.text.exists_shown_iff _).mp ⟨_, shows.containerRuntime⟩,
      (Kind.text.exists_shown_iff _).mp ⟨_, shows.remoteRuntimeEndpoint⟩,
      (Kind.text.exists_shown_iff _).mp ⟨_, shows.remoteImageEndpoint⟩,
      (Kind.text.exists_shown_iff _).mp ⟨_, shows.dockerEndpoint⟩⟩
  · rintro ⟨texts, flag⟩
    simp only [List.forall_mem_cons, List.not_mem_nil, false_implies, implies_true,
      and_true] at texts
    obtain ⟨runtime, remote, image, engine⟩ := texts
    obtain ⟨enableCri, enableCriShown⟩ := (Kind.flag.exists_shown_iff _).mpr flag
    obtain ⟨containerRuntime, runtimeShown⟩ := (Kind.text.exists_shown_iff _).mpr runtime
    obtain ⟨remoteRuntime, remoteShown⟩ := (Kind.text.exists_shown_iff _).mpr remote
    obtain ⟨remoteImage, imageShown⟩ := (Kind.text.exists_shown_iff _).mpr image
    obtain ⟨dockerEndpoint, engineShown⟩ := (Kind.text.exists_shown_iff _).mpr engine
    exact ⟨⟨containerRuntime, enableCri, remoteRuntime, remoteImage, dockerEndpoint, _⟩,
      runtimeShown, enableCriShown, remoteShown, imageShown, engineShown, rfl⟩

private theorem configurationIn_text (path : Path) (text : String) :
    configurationIn path (.ok text) = (Configuration.parse text).mapError fun fault =>
      ⟨.decode, s!"failed to load kubelet config from {path.quoted}: {fault.message}"⟩ := rfl

private theorem configurationIn_eq_ok_iff (path : Path) (text : String) (config : Configuration) :
    configurationIn path (.ok text) = .ok config ↔ Configuration.parse text = .ok config := by
  rw [configurationIn_text]
  cases Configuration.parse text with
  | error fault => simp [Except.mapError]
  | ok found => simp [Except.mapError]

private theorem configurationIn_eq_error {path : Path} {text : String} {failure : Failure}
    (failed : configurationIn path (.ok text) = .error failure) : failure.kind = .decode := by
  rw [configurationIn_text] at failed
  cases parsed : Configuration.parse text with
  | error fault =>
    rw [parsed] at failed
    cases failed
    rfl
  | ok found =>
    rw [parsed] at failed
    cases failed

private theorem loadConfiguration_patched {mishap : Mishap} {path : Path} {disk : Disk}
    (unpatched : live.isPatched = false)
    (wrote : (disk.writePrivate mishap path (bytesOf live.pretty)).1 = .ok ()) :
    loadConfiguration
        ((patch (fun live => ExceptT.mk (writeBackup mishap path live)) live).run disk).2 path =
      configurationIn path (if (disk.makeParents mishap path).2.passesItself path
        then .error (.os .notDirectory) else .ok live.pretty) := by
  have ok : disk.writePrivate mishap path (bytesOf live.pretty) = (.ok (), _) := Prod.ext wrote rfl
  rw [run_patch_written unpatched ok]
  exact congrArg (configurationIn path) (Disk.text_written ok)

/-- A configuration that was read is shown by its backup: reading the backup gives a configuration
exactly when every setting is absent, null or of its kind, and fails to decode it otherwise. The
settings are then what they were, the other members are the same in the same order, and the
text of what was read is a configuration with the same members. Only by a path through the link
that the backup replaced, nothing is found. -/
theorem backup_shows (mishap : Mishap) (path : Path) (live : LiveConfig) (disk : Disk)
    (sound : live.Sound) (unpatched : live.isPatched = false)
    (wrote : (disk.writePrivate mishap path (bytesOf live.pretty)).1 = .ok ()) :
    let ended := (patch (fun live => ExceptT.mk (writeBackup mishap path live)) live).run disk
    let loaded := loadConfiguration ended.2 path
    let through := (disk.makeParents mishap path).2.passesItself path
    (through = false →
      ((∃ config, loaded = .ok config) ↔ Typed live) ∧
      (∀ config, loaded = .ok config → Configuration.Shows live.members config ∧
        ∃ back, LiveConfig.parse config.toValue.compact = .ok back ∧
          LiveConfig.parse config.toValue.pretty = .ok back ∧
          Configuration.Rearranged live back) ∧
      ∀ failure, loaded = .error failure → failure.kind = .decode) ∧
    (through = true →
      let cause := "IO error: Not a directory (os error 20)"
      loaded =
        .error ⟨.persistence, s!"failed to read kubelet config from {path.quoted}: {cause}"⟩) := by
  intro ended loaded through
  have same : loaded = configurationIn path
      (if through then .error (.os .notDirectory) else .ok live.pretty) :=
    loadConfiguration_patched unpatched wrote
  rw [same]
  constructor
  · intro direct
    rw [direct]
    have shown (config : Configuration) :
        configurationIn path (.ok live.pretty) = .ok config ↔
          Configuration.Shows live.members config :=
      (configurationIn_eq_ok_iff path _ config).trans (Configuration.parse_pretty_iff sound config)
    refine ⟨?_, ?_, ?_⟩
    · exact (exists_congr shown).trans (exists_shows_iff live)
    · intro config read
      have shows := (shown config).mp read
      exact ⟨shows, Configuration.serialised_back sound shows⟩
    · intro failure failed
      exact configurationIn_eq_error failed
  · intro passed
    rw [passed]
    rfl

/-- A number below an array keeps its text, and a setting that was null is not set. -/
theorem backup_shows_nested :
    let path := Path.ofString "saved.json"
    let limits := Value.array [.object [("cpu", .number "0.10")]]
    let live := LiveConfig.ofMembers [("limits", limits), ("enableCRI", .bool false),
      ("dockerEndpoint", .null), ("containerRuntime", .string "docker")]
    let ended := (patch (fun live => ExceptT.mk (writeBackup noMishap path live)) live).run
      Disk.bare
    loadConfiguration ended.2 path =
      .ok ⟨some "docker", some false, none, none, none, [("limits", limits)]⟩ := by
  intro path limits live ended
  have fine (contents : List UInt8) :
      (Disk.bare.writePrivate noMishap (.ofString "saved.json") contents).1 = .ok () := by cbv
  have direct : (Disk.bare.makeParents noMishap (.ofString "saved.json")).2.passesItself
      (.ofString "saved.json") = false := by cbv
  have unpatched : live.isPatched = false := by decide
  have kept : IsNumber "0.10".toList :=
    wholeNumber_number (by cbv : wholeNumber "0.10".toList = .ok "0.10")
  have cpu : Readable 126 (.object [("cpu", .number "0.10")]) :=
    .object (by decide) (by decide) (by simpa using .number kept)
  have nested : Readable 127 limits := .array (by simpa using cpu)
  have sound : live.Sound := by
    intro member inside
    have pairs := Members.mem_ofList inside
    simp only [List.mem_cons, List.not_mem_nil, or_false] at pairs
    obtain rfl | rfl | rfl | rfl := pairs
    · exact nested
    · exact .bool false
    · exact .null
    · exact .string "docker"
  have shows : Configuration.Shows live.members
      ⟨some "docker", some false, none, none, none, [("limits", limits)]⟩ := by
    constructor
    all_goals decide
  have typed : Typed live := (exists_shows_iff live).mp ⟨_, shows⟩
  obtain ⟨shown, -⟩ := backup_shows noMishap path live Disk.bare sound unpatched (fine _)
  obtain ⟨read, fields, -⟩ := shown direct
  obtain ⟨config, loaded⟩ := read.mpr typed
  rw [(fields config loaded).1.unique shows] at loaded
  exact loaded

/-- The path `l/../l` leads through the link that the backup replaces, so the backup is not found
by it. A configuration that was never read may hold what no reader takes. -/
theorem backup_not_shown :
    (¬ ∀ (mishap : Mishap) (path : Path) (live : LiveConfig) (disk : Disk),
      live.Sound → live.isPatched = false →
      (disk.writePrivate mishap path (bytesOf live.pretty)).1 = .ok () → Typed live →
      let ended := (patch (fun live => ExceptT.mk (writeBackup mishap path live)) live).run disk
      ∃ config, loadConfiguration ended.2 path = .ok config) ∧
    ¬ ∀ (mishap : Mishap) (path : Path) (live : LiveConfig) (disk : Disk),
      (disk.makeParents mishap path).2.passesItself path = false → live.isPatched = false →
      (disk.writePrivate mishap path (bytesOf live.pretty)).1 = .ok () → Typed live →
      let ended := (patch (fun live => ExceptT.mk (writeBackup mishap path live)) live).run disk
      ∃ config, loadConfiguration ended.2 path = .ok config := by
  constructor
  · intro found
    let live : LiveConfig := .ofMembers []
    have fine : (Disk.linked.writePrivate noMishap (.ofString "l/../l")
        (bytesOf live.pretty)).1 = .ok () := by cbv
    have passed : (Disk.linked.makeParents noMishap (.ofString "l/../l")).2.passesItself
        (.ofString "l/../l") = true := by cbv
    have typed : Typed live := (exists_shows_iff live).mp ⟨{}, rfl, rfl, rfl, rfl, rfl, rfl⟩
    have sound : live.Sound := by
      intro member inside
      cases inside
    obtain ⟨config, loaded⟩ := found noMishap (.ofString "l/../l") live Disk.linked sound
      (by decide) fine typed
    rw [loadConfiguration_patched (by decide) fine, passed] at loaded
    cases loaded
  · intro found
    let live : LiveConfig := .ofMembers [("a", .object [(numberMark, .null)])]
    have fine : (Disk.bare.writePrivate noMishap (.ofString "s") (bytesOf live.pretty)).1 =
        .ok () := by cbv
    have direct : (Disk.bare.makeParents noMishap (.ofString "s")).2.passesItself
        (.ofString "s") = false := by cbv
    have typed : Typed live :=
      (exists_shows_iff live).mp ⟨⟨none, none, none, none, none, live.members⟩, by
        constructor
        all_goals decide⟩
    obtain ⟨config, loaded⟩ := found noMishap (.ofString "s") live Disk.bare direct
      (by decide) fine typed
    have refused : (Configuration.parse live.pretty).toOption = none := by cbv
    rw [loadConfiguration_patched (by decide) fine, direct] at loaded
    have parsed := (configurationIn_eq_ok_iff _ _ _).mp loaded
    rw [parsed] at refused
    cases refused

end backup

end RuntimeHandover.Kubelet
