import RuntimeHandover.Proofs.Act
import RuntimeHandover.Proofs.Kubelet.LiveConfig
import RuntimeHandover.Proofs.Text.Utf8

/-! What a fetch from a kubelet gives, by the answer that came. -/
namespace RuntimeHandover.Kubelet
open Http Json Text

theorem answeredObject_eq_ok {url : String} {answer : Answer} {members : List (String × Value)} :
    answeredObject url answer = .ok members ↔
      isSuccess answer.status = true ∧ ∃ body, answer.body = some body ∧
        parseValue (Utf8.symbols body) = .ok (.object members) := by
  unfold answeredObject
  cases success : isSuccess answer.status with
  | false => simp
  | true =>
    cases answer.body with
    | none => simp
    | some body =>
      simp only [Bool.not_true, Bool.false_eq_true, if_false, true_and, Option.some.injEq,
        exists_eq_left']
      split
      next same => simp [same]
      next other same =>
        simp only [reduceCtorEq, same, Except.ok.injEq, false_iff]
        exact other members
      next same => simp [same]

theorem answeredObject_unparsed {url : String} {answer : Answer} {body : List UInt8}
    {fault : Fault} (success : isSuccess answer.status = true) (whole : answer.body = some body)
    (refused : parseValue (Utf8.symbols body) = .error fault) :
    answeredObject url answer =
      .error ⟨.decode, s!"failed to unmarshal json from {quoted url}: {fault.message}"⟩ := by
  unfold answeredObject
  simp only [success, whole, refused, Bool.not_true, Bool.false_eq_true, if_false]

variable {σ : Type} {wire : Wire σ} {base suffix : String} {s after : σ}

/-- An answer that comes whole and sends no one on is the answer that is got. -/
theorem get_of_answered {url : Url} {answer : Answer} (sendable : isSendable (Request.get url).url = true)
    (answered : wire (Request.get url) s = (.ok answer, after))
    (whole : received answer = some answer)
    (final : redirect? (Request.get url).url answer = none) :
    Http.get wire url s = (.ok answer, after) := by
  unfold Http.get
  rw [if_pos sendable]
  unfold follow
  refine (bind_of_ran answered _).trans ?_
  have got : (Except.ok answer : Except WireFault Answer).toOption.bind received = some answer := whole
  rw [got]
  dsimp only
  rw [final]
  rfl

/-- Once an answer is got, what a fetch gives is what is in it. -/
theorem fetchObject_answered {url : Url} {answer : Answer} (addressed : address base suffix = .ok url)
    (got : Http.get wire url s = (.ok answer, after)) :
    (fetchObject wire base suffix).run s = (answeredObject url.text answer, after) := by
  unfold fetchObject
  refine (Act.run_bind_ok (Act.run_ofExcept_eq_ok.mpr ⟨addressed, rfl⟩)).trans ?_
  exact Act.run_bind_ok (Act.run_liftM_eq_ok.mpr got)

theorem fetchObject_eq_ok {members : List (String × Value)} :
    (fetchObject wire base suffix).run s = (.ok members, after) ↔
      ∃ url answer, address base suffix = .ok url ∧ Http.get wire url s = (.ok answer, after) ∧
        answeredObject url.text answer = .ok members := by
  unfold fetchObject
  rw [Act.run_bind_eq_ok]
  constructor
  · intro fetched
    obtain ⟨url, there, started, onward⟩ := fetched
    obtain ⟨addressed, rfl⟩ := Act.run_ofExcept_eq_ok.mp started
    obtain ⟨got, between, getting, ended⟩ := Act.run_bind_eq_ok.mp onward
    cases got with
    | error fault => cases ended
    | ok answer =>
      obtain ⟨answered, rfl⟩ := Act.run_ofExcept_eq_ok.mp ended
      exact ⟨url, answer, addressed, Act.run_liftM_eq_ok.mp getting, answered⟩
  · intro fetched
    obtain ⟨url, answer, addressed, getting, answered⟩ := fetched
    refine ⟨url, s, Act.run_ofExcept_eq_ok.mpr ⟨addressed, rfl⟩, ?_⟩
    refine Act.run_bind_eq_ok.mpr ⟨.ok answer, after, Act.run_liftM_eq_ok.mpr getting, ?_⟩
    exact Act.run_ofExcept_eq_ok.mpr ⟨answered, rfl⟩

private theorem run_bind_ofExcept_eq_ok {α β : Type} {first : Act σ α}
    {next : α → Except Failure β} {b : β} :
    (do Act.ofExcept (next (← first)) : Act σ β).run s = (.ok b, after) ↔
      ∃ a, first.run s = (.ok a, after) ∧ next a = .ok b := by
  rw [Act.run_bind_eq_ok]
  constructor
  · intro went
    obtain ⟨a, between, first, went⟩ := went
    obtain ⟨next, rfl⟩ := Act.run_ofExcept_eq_ok.mp went
    exact ⟨a, first, next⟩
  · intro went
    obtain ⟨a, first, next⟩ := went
    exact ⟨a, after, first, Act.run_ofExcept_eq_ok.mpr ⟨next, rfl⟩⟩

theorem fetchLiveConfig_eq_ok {live : LiveConfig} :
    (fetchLiveConfig wire base).run s = (.ok live, after) ↔
      ∃ members, (fetchObject wire base configPath).run s = (.ok members, after) ∧
        liveConfigIn members = .ok live :=
  run_bind_ofExcept_eq_ok

theorem fetchNode_eq_ok {node : NodeIdentity} :
    (fetchNode wire base).run s = (.ok node, after) ↔
      ∃ members, (fetchObject wire base statsPath).run s = (.ok members, after) ∧
        nodeIn members = .ok node :=
  run_bind_ofExcept_eq_ok

theorem readable_of_fetched {live : LiveConfig}
    (fetched : (fetchLiveConfig wire base).run s = (.ok live, after)) :
    Readable (depthLimit - 1) live.toValue := by
  obtain ⟨members, fetched, found⟩ := fetchLiveConfig_eq_ok.mp fetched
  obtain ⟨_, _, _, _, answered⟩ := fetchObject_eq_ok.mp fetched
  obtain ⟨_, _, _, parsed⟩ := answeredObject_eq_ok.mp answered
  exact (LiveConfig.liveConfigIn_eq_ok parsed found).1

/-- The text of an object that has the value as its live configuration, with any other members
and any blanks. -/
inductive Holding (value : Value) : List Char → Prop
  | mk {before text after : List Char} {members : List (String × Value)} (leading : Blank before)
      (trailing : Blank after) (written : Written depthLimit text (.object members))
      (held : Members.get? "componentconfig" members = some value) :
      Holding value (before ++ text ++ after)

def Serves (wire : Wire σ) (base : String) (value : Value) (s : σ) : Prop :=
  ∃ url answer text after, address base configPath = .ok url ∧
    Http.get wire url s = (.ok answer, after) ∧ isSuccess answer.status = true ∧
    answer.body = some (bytesOf (String.ofList text)) ∧ Holding value text

theorem fetched_of_holding {config : LiveConfig} {url : Url} {answer : Answer} {text : List Char}
    (addressed : address base configPath = .ok url)
    (got : Http.get wire url s = (.ok answer, after)) (success : isSuccess answer.status = true)
    (body : answer.body = some (bytesOf (String.ofList text)))
    (holding : Holding config.toValue text) :
    (fetchLiveConfig wire base).run s = (.ok config, after) := by
  cases holding with
  | @mk before text trail members leading trailing written held =>
    have parsed := parseValue_written written leading trailing
    rw [← symbolsOf_ofList, ← Utf8.symbols_bytesOf] at parsed
    have answered : answeredObject url.text answer = .ok members :=
      answeredObject_eq_ok.mpr ⟨success, _, body, parsed⟩
    have fetched := fetchObject_eq_ok.mpr ⟨url, answer, addressed, got, answered⟩
    exact fetchLiveConfig_eq_ok.mpr ⟨members, fetched, LiveConfig.liveConfigIn_of_get? held⟩

theorem fetched_of_serves {config : LiveConfig} (serves : Serves wire base config.toValue s) :
    ∃ after, (fetchLiveConfig wire base).run s = (.ok config, after) := by
  obtain ⟨url, answer, text, after, addressed, got, success, body, holding⟩ := serves
  exact ⟨after, fetched_of_holding addressed got success body holding⟩

end RuntimeHandover.Kubelet
