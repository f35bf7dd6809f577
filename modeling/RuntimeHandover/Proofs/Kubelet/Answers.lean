import RuntimeHandover.Proofs.Json.Grammar
import RuntimeHandover.Proofs.Kubelet.Introspection
import RuntimeHandover.Proofs.Rehearsal.World

/-! How a fetch from a kubelet ends, by the reply: no reply of use, a body that is no object, an
object that lacks what was asked for, or that itself. No reply belongs to two of these. -/
namespace RuntimeHandover.Kubelet
open Http Json Text

variable {σ α : Type} {wire : Wire σ} {base suffix : String} {s : σ}

section replies

variable (wire base suffix s)

def Delivers (body : List UInt8) : Prop :=
  ∃ url answer, address base suffix = .ok url ∧ (Http.get wire url s).1 = .ok answer ∧
    isSuccess answer.status = true ∧ answer.body = some body

inductive Undelivered : Prop
  | unaddressed {failure : Failure} (invalid : address base suffix = .error failure)
  | unanswered {url : Url} {fault : GetFault} (addressed : address base suffix = .ok url)
      (failed : (Http.get wire url s).1 = .error fault)
  | refused {url : Url} {answer : Answer} (addressed : address base suffix = .ok url)
      (got : (Http.get wire url s).1 = .ok answer) (status : isSuccess answer.status = false)
  | broken {url : Url} {answer : Answer} (addressed : address base suffix = .ok url)
      (got : (Http.get wire url s).1 = .ok answer) (cut : answer.body = none)

end replies

section objects

private theorem address_eq_error {failure : Failure}
    (invalid : address base suffix = .error failure) :
    ∃ detail, failure = ⟨.transport, detail⟩ := by
  unfold address at invalid
  dsimp only at invalid
  cases parsed : Url.parse (withoutEndingSlashes base ++ suffix) with
  | ok url =>
    rw [parsed] at invalid
    cases invalid
  | error fault =>
    rw [parsed] at invalid
    cases invalid
    exact ⟨_, rfl⟩

inductive Fetched (wire : Wire σ) (base suffix : String) (s : σ) :
    Except Failure (List (String × Value)) → Prop
  | undelivered {detail : String} (undelivered : Undelivered wire base suffix s) :
      Fetched wire base suffix s (.error ⟨.transport, detail⟩)
  | undecoded {body : List UInt8} {detail : String} (delivers : Delivers wire base suffix s body)
      (unfit : ∀ pairs, ¬ ObjectBody body pairs) :
      Fetched wire base suffix s (.error ⟨.decode, detail⟩)
  | found {body : List UInt8} {pairs : List (String × Value)}
      (delivers : Delivers wire base suffix s body) (object : ObjectBody body pairs) :
      Fetched wire base suffix s (.ok (Members.ofList pairs))

private theorem fetched_of_answer {url : Url} {answer : Answer}
    (addressed : address base suffix = .ok url)
    (got : (Http.get wire url s).1 = .ok answer) :
    Fetched wire base suffix s (answeredObject url.text answer) := by
  unfold answeredObject
  cases status : isSuccess answer.status with
  | false => exact .undelivered (.refused addressed got status)
  | true =>
    cases whole : answer.body with
    | none => exact .undelivered (.broken addressed got whole)
    | some body =>
      have delivers : Delivers wire base suffix s body := ⟨url, answer, addressed, got, status, whole⟩
      simp only [Bool.not_true, Bool.false_eq_true, if_false]
      split
      next parsed =>
        obtain ⟨pairs, object, rfl⟩ := parseValue_object_iff.mp parsed
        exact .found delivers object
      next other parsed =>
        refine .undecoded delivers ?_
        intro pairs object
        have objectRead := parseValue_object_iff.mpr ⟨pairs, object, rfl⟩
        rw [parsed] at objectRead
        exact other _ (Except.ok.inj objectRead)
      next parsed =>
        refine .undecoded delivers ?_
        intro pairs object
        have objectRead := parseValue_object_iff.mpr ⟨pairs, object, rfl⟩
        rw [parsed] at objectRead
        cases objectRead

private theorem fetched (wire : Wire σ) (base suffix : String) (s : σ) :
    Fetched wire base suffix s ((fetchObject wire base suffix).run s).1 := by
  unfold fetchObject
  cases addressed : address base suffix with
  | error failure =>
    obtain ⟨detail, rfl⟩ := address_eq_error addressed
    exact .undelivered (.unaddressed addressed)
  | ok url =>
    rw [Act.run_bind_ok (Act.run_ofExcept_eq_ok.mpr ⟨rfl, rfl⟩), Act.run_bind, Act.run_liftM]
    cases got : (Http.get wire url s).1 with
    | error fault => exact .undelivered (.unanswered addressed got)
    | ok answer => exact fetched_of_answer addressed got

/-- One reply delivers one body. -/
private theorem Delivers.unique {body other : List UInt8}
    (delivers : Delivers wire base suffix s body)
    (also : Delivers wire base suffix s other) : body = other := by
  obtain ⟨url, answer, addressed, got, _, whole⟩ := delivers
  obtain ⟨url', answer', addressed', got', _, whole'⟩ := also
  cases addressed.symm.trans addressed'
  cases got.symm.trans got'
  exact Option.some.inj (whole.symm.trans whole')

private theorem Undelivered.not_delivers {body : List UInt8}
    (undelivered : Undelivered wire base suffix s) :
    ¬ Delivers wire base suffix s body := by
  rintro ⟨url, answer, addressed, got, status, whole⟩
  cases undelivered with
  | unaddressed invalid => cases addressed.symm.trans invalid
  | unanswered addressed' failed =>
    cases addressed.symm.trans addressed'
    cases got.symm.trans failed
  | refused addressed' got' refused =>
    cases addressed.symm.trans addressed'
    cases got.symm.trans got'
    cases status.symm.trans refused
  | broken addressed' got' cut =>
    cases addressed.symm.trans addressed'
    cases got.symm.trans got'
    cases whole.symm.trans cut

end objects

section classes

/-- Every way in which a fetch ends, and when: `Held` is when an object holds what is looked for
in it. -/
structure Classified (wire : Wire σ) (base suffix : String) (s : σ)
    (Held : List (String × Value) → α → Prop) (Lacks : List (String × Value) → Prop)
    (result : Except Failure α) : Prop where
  transport : (∃ detail, result = .error ⟨.transport, detail⟩) ↔ Undelivered wire base suffix s
  decode : (∃ detail, result = .error ⟨.decode, detail⟩) ↔
    ∃ body, Delivers wire base suffix s body ∧ ∀ pairs, ¬ ObjectBody body pairs
  missing : (∃ detail, result = .error ⟨.missingField, detail⟩) ↔
    ∃ body pairs, Delivers wire base suffix s body ∧ ObjectBody body pairs ∧ Lacks pairs
  found (a : α) : result = .ok a ↔
    ∃ body pairs, Delivers wire base suffix s body ∧ ObjectBody body pairs ∧ Held pairs a
  kinds (failure : Failure) :
    result = .error failure → failure.kind ∈ [.transport, .decode, .missingField]

namespace Classified

variable {Held : List (String × Value) → α → Prop} {Lacks : List (String × Value) → Prop}

private theorem of_undelivered {detail : String} (undelivered : Undelivered wire base suffix s) :
    Classified wire base suffix s Held Lacks (.error ⟨.transport, detail⟩) := by
  constructor
  case transport => exact ⟨fun _ => undelivered, fun _ => ⟨_, rfl⟩⟩
  case decode =>
    refine ⟨nofun, ?_⟩
    rintro ⟨body, delivers, -⟩
    exact (undelivered.not_delivers delivers).elim
  case missing =>
    refine ⟨nofun, ?_⟩
    rintro ⟨body, pairs, delivers, -⟩
    exact (undelivered.not_delivers delivers).elim
  case found =>
    refine fun a => ⟨nofun, ?_⟩
    rintro ⟨body, pairs, delivers, -⟩
    exact (undelivered.not_delivers delivers).elim
  case kinds =>
    rintro failure same
    cases same
    simp

private theorem of_undecoded {detail : String} {body : List UInt8}
    (delivers : Delivers wire base suffix s body) (unfit : ∀ pairs, ¬ ObjectBody body pairs) :
    Classified wire base suffix s Held Lacks (.error ⟨.decode, detail⟩) := by
  constructor
  case transport =>
    exact ⟨nofun, fun undelivered => (undelivered.not_delivers delivers).elim⟩
  case decode => exact ⟨fun _ => ⟨body, delivers, unfit⟩, fun _ => ⟨_, rfl⟩⟩
  case missing =>
    refine ⟨nofun, ?_⟩
    rintro ⟨other, pairs, also, object, -⟩
    exact (unfit pairs (delivers.unique also ▸ object)).elim
  case found =>
    refine fun a => ⟨nofun, ?_⟩
    rintro ⟨other, pairs, also, object, -⟩
    exact (unfit pairs (delivers.unique also ▸ object)).elim
  case kinds =>
    rintro failure same
    cases same
    simp

end Classified

structure Looks (find : List (String × Value) → Except Failure α)
    (Held : List (String × Value) → α → Prop) (Lacks : List (String × Value) → Prop) : Prop where
  found {body : List UInt8} {pairs : List (String × Value)} (object : ObjectBody body pairs)
    (a : α) : find (Members.ofList pairs) = .ok a ↔ Held pairs a
  lacking (pairs : List (String × Value)) :
    (∃ detail, find (Members.ofList pairs) = .error ⟨.missingField, detail⟩) ↔ Lacks pairs
  kind {fields : List (String × Value)} {failure : Failure}
    (failed : find fields = .error failure) : failure.kind = .missingField

section looks

variable {find : List (String × Value) → Except Failure α}
  {Held : List (String × Value) → α → Prop} {Lacks : List (String × Value) → Prop}

private theorem Looks.classified_found (looks : Looks find Held Lacks) {body : List UInt8}
    {pairs : List (String × Value)} (delivers : Delivers wire base suffix s body)
    (object : ObjectBody body pairs) :
    Classified wire base suffix s Held Lacks (find (Members.ofList pairs)) := by
  have same {other : List UInt8} {others : List (String × Value)}
      (also : Delivers wire base suffix s other) (object' : ObjectBody other others) :
      Members.ofList pairs = Members.ofList others :=
    object.unique (delivers.unique also ▸ object')
  constructor
  case transport =>
    refine ⟨?_, fun undelivered => (undelivered.not_delivers delivers).elim⟩
    rintro ⟨detail, failed⟩
    cases looks.kind failed
  case decode =>
    constructor
    · rintro ⟨detail, failed⟩
      cases looks.kind failed
    · rintro ⟨other, also, unfit⟩
      exact (unfit pairs (delivers.unique also ▸ object)).elim
  case missing =>
    constructor
    · intro failed
      exact ⟨body, pairs, delivers, object, (looks.lacking pairs).mp failed⟩
    · rintro ⟨other, others, also, object', lacks⟩
      rw [same also object']
      exact (looks.lacking others).mpr lacks
  case found =>
    intro a
    constructor
    · intro ok
      exact ⟨body, pairs, delivers, object, (looks.found object a).mp ok⟩
    · rintro ⟨other, others, also, object', held⟩
      rw [same also object']
      exact (looks.found object' a).mpr held
  case kinds =>
    intro failure failed
    rw [looks.kind failed]
    simp

/-- A look into the object that was fetched ends by the reply and by what is in the object. -/
private theorem Looks.classified (looks : Looks find Held Lacks) (wire : Wire σ)
    (base suffix : String)
    (s : σ) :
    Classified wire base suffix s Held Lacks
      ((do Act.ofExcept (find (← fetchObject wire base suffix)) : Act σ α).run s).1 := by
  have ends := fetched wire base suffix s
  rw [Act.run_bind]
  rcases ran : (fetchObject wire base suffix).run s with ⟨result, after⟩
  rw [ran] at ends
  cases ends with
  | undelivered undelivered => exact .of_undelivered undelivered
  | undecoded delivers unfit => exact .of_undecoded delivers unfit
  | found delivers object => exact looks.classified_found delivers object

end looks

def HoldsConfig (pairs : List (String × Value)) (config : LiveConfig) : Prop :=
  Members.last? "componentconfig" pairs = some config.toValue

def LacksConfig (pairs : List (String × Value)) : Prop :=
  ∀ members, Members.last? "componentconfig" pairs ≠ some (.object members)

def HoldsNode (pairs : List (String × Value)) (node : NodeIdentity) : Prop :=
  ∃ members, Members.last? "node" pairs = some (.object members) ∧
    Members.get? "nodeName" members = some (.string node.name)

def LacksNode (pairs : List (String × Value)) : Prop :=
  ∀ members name, Members.last? "node" pairs = some (.object members) →
    Members.get? "nodeName" members = some (.string name) → name = ""

private theorem looks_liveConfigIn : Looks liveConfigIn HoldsConfig LacksConfig := by
  constructor
  case found =>
    intro body pairs object config
    have parsed := parseValue_object_iff.mpr ⟨pairs, object, rfl⟩
    rw [HoldsConfig, ← Members.get?_ofList]
    exact ⟨fun found => (LiveConfig.liveConfigIn_eq_ok parsed found).2,
      LiveConfig.liveConfigIn_of_get?⟩
  case lacking =>
    intro pairs
    rw [LacksConfig, liveConfigIn, Members.get?_ofList]
    split
    next config held => exact ⟨nofun, fun lacks => (lacks config held).elim⟩
    next other => exact ⟨fun _ => other, fun _ => ⟨_, rfl⟩⟩
  case kind =>
    intro fields failure failed
    unfold liveConfigIn at failed
    split at failed
    next => cases failed
    next =>
      cases failed
      rfl

private theorem ofName_nonempty {name : String} (nonempty : name ≠ "") :
    NodeIdentity.ofName name = .ok ⟨name, nonempty⟩ :=
  dif_pos nonempty

private theorem nodeIn_eq_ok_iff {fields : List (String × Value)} {node : NodeIdentity} :
    nodeIn fields = .ok node ↔ ∃ members, Members.get? "node" fields = some (.object members) ∧
      Members.get? "nodeName" members = some (.string node.name) := by
  constructor
  · intro found
    unfold nodeIn at found
    split at found
    next members held =>
      split at found
      next name named =>
        split at found
        next nonempty =>
          rw [ofName_nonempty nonempty] at found
          cases found
          exact ⟨members, held, named⟩
        next => cases found
      next => cases found
    next => cases found
  · rintro ⟨members, held, named⟩
    unfold nodeIn
    rw [held]
    dsimp only
    rw [named]
    dsimp only
    rw [if_pos node.nonempty, ofName_nonempty node.nonempty]

/-- The failures of a look for the node; a name that is empty is turned away before it could be
refused for that. -/
private theorem nodeIn_eq_error {fields : List (String × Value)} {failure : Failure}
    (failed : nodeIn fields = .error failure) :
    failure = ⟨.missingField, s!"couldn't get node properties from {statsPath}"⟩ ∨
      failure = ⟨.missingField, s!"couldn't get node name via {statsPath}"⟩ := by
  unfold nodeIn at failed
  split at failed
  next =>
    split at failed
    next =>
      split at failed
      next nonempty =>
        rw [ofName_nonempty nonempty] at failed
        cases failed
      next =>
        cases failed
        exact .inr rfl
    next =>
      cases failed
      exact .inr rfl
  next =>
    cases failed
    exact .inl rfl

private theorem looks_nodeIn : Looks nodeIn HoldsNode LacksNode := by
  have kind {fields : List (String × Value)} {failure : Failure}
      (failed : nodeIn fields = .error failure) : failure.kind = .missingField := by
    rcases nodeIn_eq_error failed with rfl | rfl
    · rfl
    · rfl
  constructor
  case found =>
    intro body pairs object node
    rw [nodeIn_eq_ok_iff, HoldsNode, Members.get?_ofList]
  case kind => exact kind
  case lacking =>
    intro pairs
    constructor
    · rintro ⟨detail, failed⟩ members name held named
      refine Decidable.byContradiction fun nonempty => ?_
      have found : nodeIn (Members.ofList pairs) = .ok ⟨name, nonempty⟩ :=
        nodeIn_eq_ok_iff.mpr ⟨members, by rwa [Members.get?_ofList], named⟩
      rw [found] at failed
      cases failed
    · intro lacks
      cases ended : nodeIn (Members.ofList pairs) with
      | ok node =>
        obtain ⟨members, held, named⟩ := nodeIn_eq_ok_iff.mp ended
        rw [Members.get?_ofList] at held
        exact (node.nonempty (lacks members node.name held named)).elim
      | error failure => exact ⟨failure.detail, by rw [← kind ended]⟩

private theorem fetchNode_eq_error {failure : Failure}
    (failed : ((fetchNode wire base).run s).1 = .error failure)
    (kind : failure.kind = .missingField) : ∃ fields, nodeIn fields = .error failure := by
  have ends := fetched wire base statsPath s
  rw [fetchNode, Act.run_bind] at failed
  rcases ran : (fetchObject wire base statsPath).run s with ⟨result, after⟩
  rw [ran] at ends failed
  cases ends with
  | undelivered =>
    cases failed
    cases kind
  | undecoded =>
    cases failed
    cases kind
  | found delivers object => exact ⟨_, failed⟩

/-- Every reply to either question falls into one class: what was asked for is given exactly if
it is there. No node is given without a name, and no empty name gets as far as being refused. -/
theorem replies_classified (wire : Wire σ) (base : String) (s : σ) :
    let config := ((fetchLiveConfig wire base).run s).1
    let node := ((fetchNode wire base).run s).1
    Classified wire base configPath s HoldsConfig LacksConfig config ∧
    Classified wire base statsPath s HoldsNode LacksNode node ∧
    (∀ identity, node = .ok identity → identity.name ≠ "") ∧
    ∀ failure, NodeIdentity.ofName "" = .error failure → node ≠ .error failure := by
  refine ⟨looks_liveConfigIn.classified wire base configPath s,
    looks_nodeIn.classified wire base statsPath s, fun identity _ => identity.nonempty, ?_⟩
  intro failure refused failed
  cases refused
  obtain ⟨fields, look⟩ := fetchNode_eq_error failed rfl
  rcases nodeIn_eq_error look with same | same
  · exact absurd (congrArg Failure.detail same) (by decide)
  · exact absurd (congrArg Failure.detail same) (by decide)

end classes

section refused
open Rehearsal

def bringing (text : String) : Wire Unit := fun _ => pure (.ok ⟨200, [], some (bytesOf text)⟩)

private theorem delivers_bringing (text : String) :
    Delivers (bringing text) "http://[::1]" configPath () (bytesOf text) := by
  have addressed : address "http://[::1]" configPath = .ok (loopback ["configz"]) := by cbv
  have sendable : isSendable (loopback ["configz"]) = true := by cbv
  have got : Http.get (bringing text) (loopback ["configz"]) () =
      (.ok ⟨200, [], some (bytesOf text)⟩, ()) :=
    get_of_answered (get_loopback _ ▸ sendable) rfl (received_plain _) rfl
  exact ⟨_, _, addressed, congrArg Prod.fst got, rfl, rfl⟩

private theorem undecoded_bringing {text : String} {fault : Fault}
    (refused : parseValue (symbolsOf text) = .error fault) :
    ∃ detail, ((fetchLiveConfig (bringing text) "http://[::1]").run ()).1 =
      .error ⟨.decode, detail⟩ := by
  have classes := looks_liveConfigIn.classified (bringing text) "http://[::1]" configPath ()
  refine classes.decode.mpr ⟨_, delivers_bringing text, ?_⟩
  intro pairs object
  have read := parseValue_object_iff.mpr ⟨pairs, object, rfl⟩
  rw [Utf8.symbols_bytesOf, refused] at read
  cases read

def nested : Nat → List Char × Value
  | 0 => (['[', ']'], .array [])
  | n + 1 => ('[' :: ((nested n).1 ++ [']']), .array [(nested n).2])

private theorem nested_written (n : Nat) : Written (n + 2) (nested n).1 (nested n).2 := by
  induction n with
  | zero => exact .array (by simp : ∀ item ∈ ([] : List Item), item.Padded) (by simp) .nil
  | succ n ih =>
    let item : Item := ⟨[], (nested n).1, [], (nested n).2⟩
    have padded : ∀ inner ∈ [item], inner.Padded := by
      simpa [item] using ⟨Blank.nil, Blank.nil⟩
    have inner : ∀ inner ∈ [item], Written (n + 2) inner.text inner.value := by
      simpa [item] using ih
    have written := Written.array padded inner .nil
    simpa [commaed, Item.spelled, item, nested] using written

private theorem nested_begins (n : Nat) : ∃ more, (nested n).1 = '[' :: more := by
  cases n with
  | zero => exact ⟨_, rfl⟩
  | succ n => exact ⟨_, rfl⟩

/-- Arrays are refused where too few levels are left for them. -/
private theorem nested_refused (n fuel : Nat) {depth : Nat} (few : depth ≤ n + 1)
    (rest : List Symbol) :
    ∃ stop, readValue true fuel depth (chars (nested n).1 ++ rest) = .error stop := by
  induction n generalizing fuel depth rest with
  | zero =>
    cases fuel with
    | zero => exact ⟨_, rfl⟩
    | succ fuel =>
      have level : depth ≤ 1 := few
      exact ⟨_, if_pos level⟩
  | succ n ih =>
    cases fuel with
    | zero => exact ⟨_, rfl⟩
    | succ fuel =>
      by_cases level : depth ≤ 1
      · exact ⟨_, if_pos level⟩
      · obtain ⟨less, rfl⟩ : ∃ less, depth = less + 2 := ⟨depth - 2, by omega⟩
        let inside := chars (nested n).1 ++ .char ']' :: rest
        have items : ∃ stop, readItems true fuel (less + 1) true inside = .error stop := by
          cases fuel with
          | zero => exact ⟨_, rfl⟩
          | succ fuel =>
            have lower : less + 1 ≤ n + 1 := by omega
            obtain ⟨stop, refused⟩ := ih fuel lower (.char ']' :: rest)
            obtain ⟨more, begins⟩ := nested_begins n
            have first : nextItem true inside = .ok (true, inside) := by
              simp only [inside, begins, chars, List.map_cons, List.cons_append]
              exact nextItem_first (skipSpace_of_not rfl _) (by decide)
            refine ⟨stop, ?_⟩
            rw [readItems, first]
            simp only [bind, Except.bind, inside, refused]
        obtain ⟨stop, refused⟩ := items
        have whole : chars (nested (n + 1)).1 ++ rest = .char '[' :: inside := by
          simp [nested, inside]
        rw [whole, readValue_array, refused]
        exact closed_error endItems stop

/-- An object is refused when the value of its first member is. -/
private theorem parseValue_refused {member : Member} (keyed : member.Keyed)
    (unmarked : member.key ≠ numberMark)
    (refused : ∀ fuel rest, ∃ stop,
      readValue true fuel (depthLimit - 1) (chars member.item.spelled ++ rest) = .error stop)
    (tail : List Char) :
    ∃ fault, parseValue (chars ('\x7b' :: (member.spelled ++ tail))) = .error fault := by
  let text := '\x7b' :: (member.spelled ++ tail)
  have key := nextKey_commaed keyed true (chars tail)
  rw [if_pos rfl, List.nil_append] at key
  obtain ⟨less, fuel⟩ : ∃ less, steps (chars text) = less + 1 := ⟨_, rfl⟩
  obtain ⟨stop, value⟩ := refused less (chars tail)
  obtain ⟨other, closes⟩ :
      ∃ other, closed endMembers (.error stop : Except Stop (Taken Value)) = .error other :=
    closed_error endMembers stop
  have read : Json.value depthLimit (chars text) = .error other := by
    have split : chars text = .char '\x7b' :: (chars member.spelled ++ chars tail) := by
      simp [text]
    rw [Json.value, fuel, split, depthLimit, readValue, skipSpace_of_not rfl]
    simp only [key, readColon_gap keyed.gap, bind, Except.bind, unmarked, and_false, if_false]
    rw [if_neg (by decide)]
    change readValue true less (128 - 1) _ = _ at value
    rw [value]
    exact closes
  refine ⟨Fault.ofStop (chars text) other, ?_⟩
  change parseValue (chars text) = _
  simp only [parseValue, document, read]

def plainMember (key : String) (text : List Char) (value : Value) : Member :=
  ⟨[], key.toList, key, [], ⟨[], text, [], value⟩⟩

private theorem plainMember_keyed {key : String} (plain : Quotes key.toList key.toList)
    (text : List Char)
    (value : Value) : (plainMember key text value).Keyed :=
  ⟨.nil, plain, .nil, .nil, .nil⟩

def markedMember : Member := plainMember numberMark ['t', 'r', 'u', 'e'] (.bool true)

def deepMember (n : Nat) : Member :=
  plainMember "componentconfig" (nested n).1 (nested n).2

def alone (member : Member) : String := String.ofList ('\x7b' :: (member.spelled ++ ['\x7d']))

private theorem alone_written {depth : Nat} {member : Member} (keyed : member.Keyed)
    (unmarked : member.key ≠ numberMark)
    (inner : Written (depth + 1) member.item.text member.item.value) :
    Written (depth + 2) (alone member).toList (.object [member.pair]) := by
  have written := Written.object (List.forall_mem_singleton.mpr keyed) (by simpa using unmarked)
    (List.forall_mem_singleton.mpr inner) .nil
  rw [alone, String.toList_ofList]
  simpa [commaed, Members.ofList, Members.insert] using written

private theorem markedMember_keyed : markedMember.Keyed := by
  have quotes : Quotes numberMark.toList numberMark.toList := quotes_escaped numberMark.toList
  exact plainMember_keyed quotes _ _

private theorem deepMember_keyed (n : Nat) : (deepMember n).Keyed := by
  have quotes : Quotes "componentconfig".toList "componentconfig".toList :=
    quotes_escaped "componentconfig".toList
  exact plainMember_keyed quotes _ _

private theorem deep_refused {n : Nat} (many : depthLimit - 1 ≤ n + 1) :
    ∃ fault, parseValue (symbolsOf (alone (deepMember n))) = .error fault := by
  rw [alone, symbolsOf_ofList]
  have other : "componentconfig" ≠ numberMark := by decide
  refine parseValue_refused (deepMember_keyed n) other ?_ ['\x7d']
  intro fuel rest
  have value := nested_refused n fuel many rest
  simpa [deepMember, plainMember, Item.spelled] using value

private theorem marked_lacks : LacksConfig [(numberMark, .bool true)] := by
  intro members held
  cases held

private theorem deep_lacks (n : Nat) : LacksConfig [("componentconfig", (nested n).2)] := by
  intro members held
  cases n with
  | zero => cases held
  | succ n => cases held

/-- Objects are refused that begin with the number mark, and those with a level too many, though
neither has a configuration. -/
theorem objects_refused :
    ObjectText [(numberMark, .bool true)] (alone markedMember).toList ∧
    LacksConfig [(numberMark, .bool true)] ∧
    Written (depthLimit + 1) (alone (deepMember 126)).toList
      (.object [("componentconfig", (nested 126).2)]) ∧
    LacksConfig [("componentconfig", (nested 126).2)] ∧
    ∀ text ∈ [alone markedMember, alone (deepMember 126)],
      Delivers (bringing text) "http://[::1]" configPath () (bytesOf text) ∧
      ∃ detail, ((fetchLiveConfig (bringing text) "http://[::1]").run ()).1 =
        .error ⟨.decode, detail⟩ := by
  have object : ObjectText [(numberMark, .bool true)] (alone markedMember).toList := by
    have text := ObjectText.mk .nil (List.forall_mem_singleton.mpr markedMember_keyed)
      (List.forall_mem_singleton.mpr .yes) .nil .nil rfl
    have whole : ObjectText [markedMember.pair] ('\x7b' :: (markedMember.spelled ++ ['\x7d'])) := by
      simpa [commaed] using text
    rw [alone, String.toList_ofList]
    exact whole
  have marked : ∃ fault, parseValue (symbolsOf (alone markedMember)) = .error fault := by
    rw [alone, symbolsOf_ofList]
    exact parseValue_unmarked markedMember_keyed rfl rfl rfl (by decide) ['\x7d']
  obtain ⟨_, marked⟩ := marked
  obtain ⟨_, deep⟩ := deep_refused (Nat.le_refl (126 + 1))
  refine ⟨object, marked_lacks, ?_, deep_lacks 126, ?_⟩
  · exact alone_written (deepMember_keyed 126) (by decide) (nested_written 126)
  · simp only [List.forall_mem_cons, List.not_mem_nil, false_implies, implies_true, and_true]
    exact ⟨⟨delivers_bringing _, undecoded_bringing marked⟩,
      ⟨delivers_bringing _, undecoded_bringing deep⟩⟩

end refused

end RuntimeHandover.Kubelet
