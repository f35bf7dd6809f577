import RuntimeHandover.Proofs.Json.Structure
import RuntimeHandover.Settings.Reader

/-! How settings may be written as JSON. A field that has its default may be left out at either
level, members stand in any order and others may stand between them, and all that is read back is
the settings that were written. -/
namespace RuntimeHandover.Settings
open Json Text

section spelling

def SpellsText (text : String) (spelled : List Char) : Prop :=
  ∃ inner, Quotes inner text.toList ∧ spelled = '"' :: (inner ++ ['"'])

def SpellsFlag (b : Bool) (spelled : List Char) : Prop :=
  spelled = if b then ['t', 'r', 'u', 'e'] else ['f', 'a', 'l', 's', 'e']

def SpellsNat (n : Nat) (spelled : List Char) : Prop := spelled = (toString n).toList

def SpellsLevel (level : LogLevel) (spelled : List Char) : Prop :=
  ∃ name, LogLevel.parse name = .ok level ∧ SpellsText name spelled

def SpellsOptional : Option String → List Char → Prop
  | none, spelled => spelled = ['n', 'u', 'l', 'l']
  | some text, spelled => SpellsText text spelled

def SpellsTexts (texts : List String) (spelled : List Char) : Prop :=
  ∃ items ending, (∀ item ∈ items, item.Padded) ∧
    List.Forall₂ (fun (item : Item) text => SpellsText text item.text) items texts ∧
    Blank ending ∧ spelled = '[' :: (commaed true (items.map Item.spelled) ++ (ending ++ [']']))

def kubeletSpelling : List (FieldSpelling KubeletSettings) := [
  ⟨"configz_base_url", String, (·.configzBaseUrl), SpellsText⟩,
  ⟨"stats_base_url", String, (·.statsBaseUrl), SpellsText⟩,
  ⟨"insecure_skip_verify", Bool, (·.insecureSkipVerify), SpellsFlag⟩,
  ⟨"timeout_secs", Nat, (·.timeoutSecs), SpellsNat⟩]

def proxySpelling : List (FieldSpelling ProxySettings) := [
  ⟨"path", String, (·.path), SpellsText⟩,
  ⟨"args", List String, (·.args), SpellsTexts⟩,
  ⟨"socket_path", String, (·.socketPath), SpellsText⟩,
  ⟨"socket_timeout_ms", Nat, (·.socketTimeoutMs), SpellsNat⟩,
  ⟨"socket_poll_interval_ms", Nat, (·.socketPollIntervalMs), SpellsNat⟩]

def spelling : List (FieldSpelling Settings) := [
  ⟨"log_level", LogLevel, (·.logLevel), SpellsLevel⟩,
  ⟨"json_logs", Bool, (·.jsonLogs), SpellsFlag⟩,
  ⟨"log_file", Option String, (·.logFile), SpellsOptional⟩,
  ⟨"kubelet", KubeletSettings, (·.kubelet), Structured kubeletSpelling {}⟩,
  ⟨"proxy", ProxySettings, (·.proxy), Structured proxySpelling {}⟩,
  ⟨"saved_config_path", String, (·.savedConfigPath), SpellsText⟩,
  ⟨"verify_proxy_liveness", Bool, (·.verifyProxyLiveness), SpellsFlag⟩]

end spelling

structure Fits (settings : Settings) : Prop where
  timeoutSecs : settings.kubelet.timeoutSecs < wordLimit
  socketTimeoutMs : settings.proxy.socketTimeoutMs < wordLimit
  socketPollIntervalMs : settings.proxy.socketPollIntervalMs < wordLimit

section accepts

variable {depth : Nat} {spelled : List Char}

private theorem accepts_spellsText {expected text : String} (spells : SpellsText text spelled) :
    AcceptsAs (readText expected) depth spelled text := by
  obtain ⟨inner, quotes, rfl⟩ := spells
  have accepts : AcceptsAs (readText expected) depth ('"' :: (inner ++ ['"']))
      (String.ofList text.toList) := accepts_text quotes
  rwa [String.ofList_toList] at accepts

private theorem accepts_spellsFlag {b : Bool} (spells : SpellsFlag b spelled) :
    AcceptsAs readBool depth spelled b := by
  rw [SpellsFlag] at spells
  cases b with
  | true => exact spells ▸ accepts_true
  | false => exact spells ▸ accepts_false

private theorem accepts_spellsNat {n : Nat} (fits : n < wordLimit) (spells : SpellsNat n spelled) :
    AcceptsAs readNat64 depth spelled n := by
  rw [SpellsNat] at spells
  exact spells ▸ accepts_nat64 fits

private theorem accepts_spellsLevel {named : LogLevel} (spells : SpellsLevel named spelled) :
    AcceptsAs level depth spelled named := by
  obtain ⟨name, parsed, spells⟩ := spells
  intro before rest leading ends
  have read : text depth _ = _ := accepts_spellsText spells before rest leading ends
  simp only [level, read, bind, Except.bind, parsed]

private theorem accepts_spellsOptional {text? : Option String}
    (spells : SpellsOptional text? spelled) :
    AcceptsAs (readOption pathText) depth spelled text? := by
  cases text? with
  | none =>
    change spelled = _ at spells
    exact spells ▸ accepts_null
  | some text =>
    have accepts : AcceptsAs pathText depth spelled text := accepts_spellsText spells
    obtain ⟨inner, -, same⟩ := spells
    rw [same] at accepts ⊢
    exact accepts_some accepts rfl (by decide)

private theorem accepts_spellsTexts {texts : List String} (spells : SpellsTexts texts spelled) :
    AcceptsAs (readList text) (depth + 2) spelled texts := by
  obtain ⟨items, ending, padded, each, closing, rfl⟩ := spells
  have starts : ∀ item ∈ items, Starts item.text := by
    clear padded
    induction each with
    | nil => exact fun _ inside => absurd inside List.not_mem_nil
    | cons spells _ ih =>
      obtain ⟨inner, -, same⟩ := spells
      exact List.forall_mem_cons.mpr ⟨⟨'"', _, same, rfl, by decide⟩, ih⟩
  exact accepts_list padded starts (each.imp fun _ _ spells => accepts_spellsText spells) closing

end accepts

section serves

variable {depth : Nat}

private theorem kubelet_ext {s t : KubeletSettings}
    (same : ∀ field ∈ kubeletSpelling, field.get t = field.get s) : t = s := by
  simp only [kubeletSpelling, List.forall_mem_cons] at same
  obtain ⟨configz, stats, skips, secs, -⟩ := same
  cases s
  cases t
  simp_all

private theorem proxy_ext {s t : ProxySettings}
    (same : ∀ field ∈ proxySpelling, field.get t = field.get s) : t = s := by
  simp only [proxySpelling, List.forall_mem_cons] at same
  obtain ⟨path, args, socket, wait, poll, -⟩ := same
  cases s
  cases t
  simp_all

private theorem settings_ext {s t : Settings}
    (same : ∀ field ∈ spelling, field.get t = field.get s) : t = s := by
  simp only [spelling, List.forall_mem_cons] at same
  obtain ⟨level, json, file, kubelet, proxy, saved, live, -⟩ := same
  cases s
  cases t
  simp_all

private theorem serves_kubelet {s : KubeletSettings} (fits : s.timeoutSecs < wordLimit) :
    List.Forall₂ (Serves kubeletSpelling s depth) kubeletFields kubeletSpelling := by
  refine .cons (.of (fun _ => accepts_spellsText) ?_) <|
    .cons (.of (fun _ => accepts_spellsText) ?_) <|
    .cons (.of (fun _ => accepts_spellsFlag) ?_) <|
    .cons (.of (fun _ => accepts_spellsNat fits) ?_) .nil
  all_goals simp [kubeletSpelling]

private theorem serves_proxy {s : ProxySettings} (wait : s.socketTimeoutMs < wordLimit)
    (poll : s.socketPollIntervalMs < wordLimit) :
    List.Forall₂ (Serves proxySpelling s (depth + 2)) proxyFields proxySpelling := by
  refine .cons (.of (fun _ => accepts_spellsText) ?_) <|
    .cons (.of (fun _ => accepts_spellsTexts) ?_) <|
    .cons (.of (fun _ => accepts_spellsText) ?_) <|
    .cons (.of (fun _ => accepts_spellsNat wait) ?_) <|
    .cons (.of (fun _ => accepts_spellsNat poll) ?_) .nil
  all_goals simp [proxySpelling]

end serves

/-- Each field by itself has the default that the structures give it. -/
private theorem leftOut_eq : kubeletLeftOut = {} ∧ proxyLeftOut = {} ∧ leftOut =
    {} := ⟨rfl, rfl, rfl⟩

private theorem serves_settings {s : Settings} (fits : Fits s) {depth : Nat} :
    List.Forall₂ (Serves spelling s (depth + 4)) fields spelling := by
  obtain ⟨kubeletLeft, proxyLeft, -⟩ := leftOut_eq
  have kubelet (text : List Char) (spells : Structured kubeletSpelling {} s.kubelet text) :
      AcceptsAs (readStructure "KubeletSettings" kubeletFields kubeletLeftOut) (depth + 4) text
        s.kubelet := by
    rw [kubeletLeft]
    exact accepts_structure (serves_kubelet fits.timeoutSecs) (fun _ => kubelet_ext) spells
  have proxy (text : List Char) (spells : Structured proxySpelling {} s.proxy text) :
      AcceptsAs (readStructure "ProxySettings" proxyFields proxyLeftOut) (depth + 4) text
        s.proxy := by
    rw [proxyLeft]
    exact accepts_structure (serves_proxy fits.socketTimeoutMs fits.socketPollIntervalMs)
      (fun _ => proxy_ext) spells
  refine .cons (.of (fun _ => accepts_spellsLevel) ?_) <|
    .cons (.of (fun _ => accepts_spellsFlag) ?_) <|
    .cons (.of (fun _ => accepts_spellsOptional) ?_) <|
    .cons (.of kubelet ?_) <|
    .cons (.of proxy ?_) <|
    .cons (.of (fun _ => accepts_spellsText) ?_) <|
    .cons (.of (fun _ => accepts_spellsFlag) ?_) .nil
  all_goals simp [spelling]

private theorem parse_structured {s : Settings} (fits : Fits s) {text before after : List Char}
    (structured : Structured spelling {} s text) (leading : Blank before)
    (trailing : Blank after) : parse (String.ofList (before ++ text ++ after)) = .ok s := by
  obtain ⟨-, -, left⟩ := leftOut_eq
  have accepts : AcceptsAs (readStructure "Settings" fields leftOut) depthLimit text s := by
    rw [left]
    exact accepts_structure (serves_settings fits) (fun _ => settings_ext) structured
  have read := accepts before (chars after) leading
    (by simpa using ends_blank trailing ends_nil)
  have skipped : skipSpace (chars after) = [] := by
    have spaced := skipSpace_of_blank trailing []
    rwa [List.append_nil] at spaced
  have shown : symbolsOf (String.ofList (before ++ text ++ after)) =
      chars before ++ (chars text ++ chars after) := by
    rw [symbolsOf_ofList]
    simp
  simp only [parse, document, shown, read, skipped]

section laid

variable {layout : Layout} {depth : Nat}

private theorem spellsText_laid (text : String) :
    SpellsText text (layValue layout depth (.string text)) :=
  ⟨_, quotes_escaped text.toList, rfl⟩

private theorem spellsFlag_laid (b : Bool) : SpellsFlag b (layValue layout depth (.bool b)) := by
  cases b <;> rfl

private theorem spellsNat_laid (n : Nat) :
    SpellsNat n (layValue layout depth (.number (toString n))) :=
  rfl

private theorem spellsLevel_laid (level : LogLevel) :
    SpellsLevel level (layValue layout depth (.string level.name)) := by
  refine ⟨level.name, ?_, spellsText_laid _⟩
  cases level <;> decide

private theorem spellsOptional_laid (text? : Option String) :
    SpellsOptional text? (layValue layout depth (match text? with
      | some text => .string text
      | none => .null)) := by
  cases text? with
  | none => rfl
  | some text => exact spellsText_laid text

private theorem spellsTexts_laid (texts : List String) :
    SpellsTexts texts (layValue layout depth (.array (texts.map .string))) := by
  refine ⟨(texts.map Value.string).map (laidItem layout depth), _, ?_, ?_,
    closing_blank layout depth (texts.map Value.string).isEmpty, ?_⟩
  · exact List.forall_mem_map.mpr fun value _ => laidItem_padded layout depth value
  · induction texts with
    | nil => exact .nil
    | cons text texts ih =>
      have first : SpellsText text (layValue layout (depth + 1) (.string text)) :=
        spellsText_laid text
      exact .cons first ih
  · rw [layValue, layItems_eq]
    rfl

end laid

def kubeletMembers (kubelet : KubeletSettings) : List (String × Value) := [
  ("configz_base_url", .string kubelet.configzBaseUrl),
  ("stats_base_url", .string kubelet.statsBaseUrl),
  ("insecure_skip_verify", .bool kubelet.insecureSkipVerify),
  ("timeout_secs", .number (toString kubelet.timeoutSecs))]

def proxyMembers (proxy : ProxySettings) : List (String × Value) := [
  ("path", .string proxy.path),
  ("args", .array (proxy.args.map .string)),
  ("socket_path", .string proxy.socketPath),
  ("socket_timeout_ms", .number (toString proxy.socketTimeoutMs)),
  ("socket_poll_interval_ms", .number (toString proxy.socketPollIntervalMs))]

structure Dropped where
  settings : List String
  kubelet : List String
  proxy : List String

structure Dropped.Agrees (dropped : Dropped) (s : Settings) : Prop where
  settings : ∀ field ∈ spelling, field.name ∈ dropped.settings → field.get s = field.get {}
  kubelet : ∀ field ∈ kubeletSpelling, field.name ∈ dropped.kubelet →
    field.get s.kubelet = field.get {}
  proxy : ∀ field ∈ proxySpelling, field.name ∈ dropped.proxy → field.get s.proxy = field.get {}

def toValueWithout (dropped : Dropped) (s : Settings) : Value :=
  .object (kept dropped.settings [
    ("log_level", .string s.logLevel.name),
    ("json_logs", .bool s.jsonLogs),
    ("log_file", match s.logFile with
      | some path => .string path
      | none => .null),
    ("kubelet", .object (kept dropped.kubelet (kubeletMembers s.kubelet))),
    ("proxy", .object (kept dropped.proxy (proxyMembers s.proxy))),
    ("saved_config_path", .string s.savedConfigPath),
    ("verify_proxy_liveness", .bool s.verifyProxyLiveness)])

private theorem toValueWithout_none (s : Settings) : s.toValueWithout ⟨[], [], []⟩ = s.toValue := by
  simp only [toValueWithout, kept_nil]
  rfl

private theorem structured_without (layout : Layout) (depth : Nat) {s : Settings}
    {dropped : Dropped}
    (agrees : dropped.Agrees s) :
    Structured spelling {} s (layValue layout depth (s.toValueWithout dropped)) := by
  have kubelet : Structured kubeletSpelling {} s.kubelet (layValue layout (depth + 1)
      (.object (kept dropped.kubelet (kubeletMembers s.kubelet)))) := by
    refine structured_kept layout (depth + 1) rfl (by decide) ?_ agrees.kubelet
    simp [kubeletMembers, kubeletSpelling, spellsText_laid, spellsFlag_laid, spellsNat_laid,
      -Nat.toString_eq_repr]
  have proxy : Structured proxySpelling {} s.proxy (layValue layout (depth + 1)
      (.object (kept dropped.proxy (proxyMembers s.proxy)))) := by
    refine structured_kept layout (depth + 1) rfl (by decide) ?_ agrees.proxy
    simp [proxyMembers, proxySpelling, spellsText_laid, spellsTexts_laid, spellsNat_laid,
      -Nat.toString_eq_repr]
  refine structured_kept layout depth rfl (by decide) ?_ agrees.settings
  simp [spelling, spellsText_laid, spellsFlag_laid, spellsLevel_laid, spellsOptional_laid, kubelet,
    proxy]

private theorem parse_without {s : Settings} (fits : Fits s) {dropped : Dropped}
    (agrees : dropped.Agrees s) :
    parse (s.toValueWithout dropped).compact = .ok s ∧
      parse (s.toValueWithout dropped).pretty = .ok s := by
  have tight := parse_structured fits (structured_without .tight 0 agrees) .nil .nil
  have lined := parse_structured fits (structured_without .lined 0 agrees) .nil .nil
  rw [List.nil_append, List.append_nil] at tight lined
  rw [Value.compact, Value.pretty, printValue_eq 0, prettyValue_eq]
  exact ⟨tight, lined⟩

/-- A field left out is as good as its default. Settings are read back from every text that writes
them: fields that have their defaults may be left out at either level, or an inner object with all
of its fields; members stand in any order and unknown ones may stand between them. So what is
written of settings reads back, whole or without such fields. The defaults of the fields that an
object leaves out and those of the structures are the same. -/
theorem parse_left_out (s : Settings) (fits : Fits s) :
    (∀ text before after, Structured spelling {} s text → Blank before → Blank after →
      parse (String.ofList (before ++ text ++ after)) = .ok s) ∧
    (∀ dropped : Dropped, dropped.Agrees s →
      parse (s.toValueWithout dropped).compact = .ok s ∧
        parse (s.toValueWithout dropped).pretty = .ok s) ∧
    parse s.toValue.compact = .ok s ∧ parse s.toValue.pretty = .ok s ∧
    kubeletLeftOut = {} ∧ proxyLeftOut = {} ∧ leftOut = {} := by
  have complete : Dropped.Agrees ⟨[], [], []⟩ s :=
    ⟨fun _ _ absent => absurd absent List.not_mem_nil,
      fun _ _ absent => absurd absent List.not_mem_nil,
      fun _ _ absent => absurd absent List.not_mem_nil⟩
  have whole := parse_without fits complete
  rw [toValueWithout_none] at whole
  refine ⟨?_, fun _ agrees => parse_without fits agrees, whole.1, whole.2, leftOut_eq⟩
  intro text before after structured leading trailing
  exact parse_structured fits structured leading trailing

/-- All but four fields are left out, and with them no inner object is whole. -/
theorem parse_left_out_partial :
    let s : Settings :=
      { logLevel := .debug
        kubelet := { statsBaseUrl := "http://10.0.0.5:10255" }
        proxy := { args := ["-v", "2"], socketTimeoutMs := wordLimit - 1 } }
    let dropped : Dropped :=
      ⟨["json_logs", "log_file", "saved_config_path", "verify_proxy_liveness"],
        ["configz_base_url", "insecure_skip_verify", "timeout_secs"],
        ["path", "socket_path", "socket_poll_interval_ms"]⟩
    Fits s ∧ dropped.Agrees s ∧ (s.toValueWithout dropped).compact =
        "\x7b\"log_level\":\"debug\",\"kubelet\":\x7b\"stats_base_url\":" ++
          "\"http://10.0.0.5:10255\"\x7d,\"proxy\":\x7b\"args\":[\"-v\",\"2\"]," ++
          "\"socket_timeout_ms\":18446744073709551615\x7d\x7d" ∧
      parse (s.toValueWithout dropped).compact = .ok s := by
  intro s dropped
  have fits : Fits s := ⟨by decide, by decide, by decide⟩
  have agrees : dropped.Agrees s := by
    constructor
    · simp [spelling, s, dropped]
    · simp [kubeletSpelling, s, dropped]
    · simp [proxySpelling, s, dropped]
  exact ⟨fits, agrees, by cbv, ((parse_left_out s fits).2.1 dropped agrees).1⟩

end RuntimeHandover.Settings
