import RuntimeHandover.Json.Typed
import RuntimeHandover.Proofs.Json.RoundTrip

/-! What the readers of texts and truth values make of a value among the members of an
object. -/
namespace RuntimeHandover.Json
open Text

structure Kind (α : Type) where
  wrap : α → Value
  unwrap : Value → Option α
  unwrap_eq_some_iff (value : Value) (a : α) : unwrap value = some a ↔ value = wrap a
  wrap_ne_null (a : α) : wrap a ≠ .null

namespace Kind

def asText : Value → Option String
  | .string text => some text
  | _ => none

def asFlag : Value → Option Bool
  | .bool b => some b
  | _ => none

private theorem asText_eq_some_iff (value : Value) (text : String) :
    asText value = some text ↔ value = .string text := by
  cases value <;> simp [asText]

private theorem asFlag_eq_some_iff (value : Value) (b : Bool) :
    asFlag value = some b ↔ value = .bool b := by
  cases value <;> simp [asFlag]

private theorem string_ne_null (text : String) : Value.string text ≠ .null := by simp

private theorem bool_ne_null (b : Bool) : Value.bool b ≠ .null := by simp

def text : Kind String := ⟨.string, asText, asText_eq_some_iff, string_ne_null⟩

def flag : Kind Bool := ⟨.bool, asFlag, asFlag_eq_some_iff, bool_ne_null⟩

variable {α : Type} (kind : Kind α)

/-- What a member shows that should be of a kind: nothing if it is absent or null. There is no
telling if it is of another kind. -/
def shown : Option Value → Option (Option α)
  | none | some .null => some none
  | some value => (kind.unwrap value).map some

private theorem shown_some {value : Value} (notNull : value ≠ .null) :
    kind.shown (some value) = (kind.unwrap value).map some := by
  cases value with
  | null => exact absurd rfl notNull
  | _ => rfl

theorem shown_eq_some_iff (held : Option Value) (a? : Option α) :
    kind.shown held = some a? ↔ held = a?.map kind.wrap ∨ a? = none ∧ held = some .null := by
  cases held with
  | none => cases a? <;> simp [shown]
  | some value =>
    by_cases isNull : value = .null
    · subst isNull
      cases a? with
      | none => simp [shown]
      | some a => simp [shown, (kind.wrap_ne_null a).symm]
    · rw [kind.shown_some isNull]
      cases a? with
      | none => simp [isNull]
      | some a => simp [kind.unwrap_eq_some_iff]

theorem exists_shown_iff (held : Option Value) :
    (∃ a?, kind.shown held = some a?) ↔
      held = none ∨ held = some .null ∨ ∃ a, held = some (kind.wrap a) := by
  simp only [kind.shown_eq_some_iff]
  constructor
  · rintro ⟨_ | a, same | ⟨same, null⟩⟩
    · exact .inl same
    · exact .inr (.inl null)
    · exact .inr (.inr ⟨a, same⟩)
    · cases same
  · rintro (absent | null | ⟨a, same⟩)
    · exact ⟨none, .inl absent⟩
    · exact ⟨none, .inr ⟨rfl, null⟩⟩
    · exact ⟨some a, .inl same⟩

end Kind

theorem toOption_bind {ε α β : Type} (x : Except ε α) (f : α → Except ε β) :
    (x >>= f).toOption = x.toOption >>= fun a => (f a).toOption := by
  cases x with
  | error fault => rfl
  | ok a => rfl

theorem error_of_toOption {ε α : Type} {x : Except ε α} (failed : x.toOption = none) :
    ∃ fault, x = .error fault := by
  cases x with
  | error fault => exact ⟨fault, rfl⟩
  | ok a => cases failed

theorem ok_of_toOption {ε α : Type} {x : Except ε α} {a : α} (made : x.toOption = some a) :
    x = .ok a := by
  cases x with
  | error fault => cases made
  | ok b =>
    cases made
    rfl

section kinds

variable {depth : Nat} {input more : List Symbol} {c : Char}

theorem readOption_null {α : Type} {read : Reader α}
    (skipped : skipSpace input = chars ['n', 'u', 'l', 'l'] ++ more) :
    readOption read depth input = .ok (none, more) := by
  unfold readOption
  rw [skipped]
  rfl

theorem readOption_some {α : Type} {read : Reader α} (skipped : skipSpace input = .char c :: more)
    (other : c ≠ 'n') :
    (readOption read depth input).toOption =
      (read depth (.char c :: more)).toOption.map fun taken => (some taken.1, taken.2) := by
  unfold readOption
  rw [skipped]
  split
  next same =>
    cases same
    exact absurd rfl other
  next => cases read depth (.char c :: more) <;> rfl

private theorem readText_quotes {expected : String} {spelled text : List Char}
    (quotes : Quotes spelled text) (rest : List Symbol) :
    readText expected depth (.char '"' :: (chars spelled ++ .char '"' :: rest)) =
      .ok (String.ofList text, rest) := by
  unfold readText
  rw [skipSpace_of_not rfl]
  simp only [readString_quotes quotes, bind, Except.bind]

private theorem readText_refuses {expected : String} (solid : isSpace (.char c) = false)
    (other : c ≠ '"') : (readText expected depth (.char c :: more)).toOption = none := by
  unfold readText
  rw [skipSpace_of_not solid]
  split
  next same => cases same
  next same =>
    cases same
    exact absurd rfl other
  next => rfl

private theorem readBool_refuses (solid : isSpace (.char c) = false) (notTrue : c ≠ 't')
    (notFalse : c ≠ 'f') : (readBool depth (.char c :: more)).toOption = none := by
  unfold readBool
  rw [skipSpace_of_not solid]
  split
  next same => cases same
  next same =>
    cases same
    exact absurd rfl notTrue
  next same =>
    cases same
    exact absurd rfl notFalse
  next => rfl

end kinds

section laid

variable {depth level : Nat} {layout : Layout} {value : Value} {member : String × Value}

/-- The first character of a value tells of what kind it is. -/
private theorem laid_opens (readable : Readable depth value) (notNull : value ≠ .null) :
    ∃ c more, layValue layout level value = c :: more ∧ isSpace (.char c) = false ∧ c ≠ 'n' ∧
      ((∀ text, value ≠ .string text) → c ≠ '"') ∧
      ((∀ b, value ≠ .bool b) → c ≠ 't' ∧ c ≠ 'f') := by
  cases readable with
  | null => exact absurd rfl notNull
  | bool b =>
    cases b with
    | true => exact ⟨'t', _, rfl, rfl, by simp⟩
    | false => exact ⟨'f', _, rfl, rfl, by simp⟩
  | number kept =>
    obtain ⟨c, more, same, starts⟩ := spells_startsNumber kept.spells
    have letter {d : Char} (no : startsNumber (.char d) = false) : c ≠ d := by
      rintro rfl
      rw [no] at starts
      cases starts
    exact ⟨c, more, same, (startsNumber_solid starts).1, letter rfl, fun _ => letter rfl,
      fun _ => ⟨letter rfl, letter rfl⟩⟩
  | string text => exact ⟨'"', _, rfl, rfl, by simp⟩
  | array inner => exact ⟨'[', _, rfl, rfl, by simp⟩
  | object distinct unmarked inner => exact ⟨'\x7b', _, rfl, rfl, by simp⟩

private theorem skip_laid {c : Char} {text : List Char}
    (opens : layValue layout (level + 1) member.2 = c :: text)
    (solid : isSpace (.char c) = false) (rest : List Symbol) :
    skipSpace (chars (laidMember layout level member).item.spelled ++ rest) =
      chars (c :: text) ++ rest := by
  have spelled : chars (laidMember layout level member).item.spelled ++ rest =
      chars layout.colon ++ .char c :: (chars text ++ rest) := by
    simp [Item.spelled, laidMember, opens]
  rw [spelled]
  exact skip_to layout.colon_blank solid _

/-- A member of some kind, or null, is read as what it shows. -/
theorem readOption_laid {α : Type} {kind : Kind α} {read : Reader α} (layout : Layout) (level : Nat)
    (readable : Readable depth member.2) {rest : List Symbol}
    (reads : member.2 ≠ .null →
      (read depth (chars (layValue layout (level + 1) member.2) ++ rest)).toOption =
        (kind.unwrap member.2).map (·, rest)) :
    (readOption read depth
        (chars (laidMember layout level member).item.spelled ++ rest)).toOption =
      (kind.shown (some member.2)).map (·, rest) := by
  by_cases isNull : member.2 = .null
  · have opens : layValue layout (level + 1) member.2 = ['n', 'u', 'l', 'l'] := by
      rw [isNull]
      rfl
    rw [readOption_null (skip_laid opens rfl rest), isNull]
    rfl
  · obtain ⟨c, more, opens, solid, other, -⟩ := laid_opens readable isNull
    have inner := reads isNull
    rw [opens] at inner
    rw [readOption_some (skip_laid opens solid rest) other, kind.shown_some isNull]
    change ((read depth (chars (c :: more) ++ rest)).toOption.map _) = _
    rw [inner, Option.map_map, Option.map_map]
    rfl

theorem readText_laid (expected : String) (readable : Readable depth value)
    (notNull : value ≠ .null) (rest : List Symbol) :
    (readText expected depth (chars (layValue layout level value) ++ rest)).toOption =
      (Kind.text.unwrap value).map (·, rest) := by
  obtain ⟨c, more, opens, solid, -, unquoted, -⟩ := laid_opens readable notNull
  have refused (notText : ∀ text, value ≠ .string text) :
      (readText expected depth (chars (layValue layout level value) ++ rest)).toOption = none := by
    rw [opens]
    exact readText_refuses solid (unquoted notText)
  cases value with
  | string text =>
    have laid : chars (layValue layout level (.string text)) ++ rest =
        .char '"' :: (chars (text.toList.flatMap escapedChar) ++ .char '"' :: rest) := by
      simp [layValue, printString]
    rw [laid, readText_quotes (quotes_escaped text.toList), String.ofList_toList]
    rfl
  | null => exact absurd rfl notNull
  | bool b => exact refused (by simp)
  | number text => exact refused (by simp)
  | array items => exact refused (by simp)
  | object members => exact refused (by simp)

theorem readBool_laid (readable : Readable depth value) (notNull : value ≠ .null)
    (rest : List Symbol) :
    (readBool depth (chars (layValue layout level value) ++ rest)).toOption =
      (Kind.flag.unwrap value).map (·, rest) := by
  obtain ⟨c, more, opens, solid, -, -, unsaid⟩ := laid_opens readable notNull
  have refused (notBool : ∀ b, value ≠ .bool b) :
      (readBool depth (chars (layValue layout level value) ++ rest)).toOption = none := by
    obtain ⟨notTrue, notFalse⟩ := unsaid notBool
    rw [opens]
    exact readBool_refuses solid notTrue notFalse
  cases value with
  | bool b =>
    cases b with
    | true => rfl
    | false => rfl
  | null => exact absurd rfl notNull
  | string text => exact refused (by simp)
  | number text => exact refused (by simp)
  | array items => exact refused (by simp)
  | object members => exact refused (by simp)

end laid

end RuntimeHandover.Json
