import RuntimeHandover.Settings.LogLevel
import RuntimeHandover.Text.Alphanumeric
import RuntimeHandover.Text.Blank
import RuntimeHandover.Text.Pattern
import RuntimeHandover.Text.Utf8

/-! Which messages are logged, by where they come from and what fields they have. A filter
is a list such as `warn,net=debug`; of the directives that fit a message the one with the
longest source decides, and of those the one with more fields. -/
namespace RuntimeHandover.CommandLine
open Settings Text

structure FieldTest where
  name : List Char
  valued : Bool
  deriving DecidableEq, Repr

structure Directive where
  source : Option (List Char) := none
  inSpan : Bool := false
  field : Option FieldTest := none
  level : Option LogLevel := some .trace
  deriving DecidableEq, Repr

def number? (text : List Char) : Option Nat :=
  let digits := match text with
    | '+' :: digits => digits
    | digits => digits
  if !digits.isEmpty && digits.all Char.isDigit then some (Nat.ofDigitChars 10 digits 0) else none

def threshold? (text : List Char) : Option (Option LogLevel) :=
  match number? text with
  | some 0 => some none
  | some 1 => some (some .error)
  | some 2 => some (some .warn)
  | some 3 => some (some .info)
  | some 4 => some (some .debug)
  | some 5 => some (some .trace)
  | some _ => none
  | none =>
    match String.ofList (text.map Char.toLower) with
    | "off" => some none
    | "error" => some (some .error)
    | "warn" => some (some .warn)
    | "info" => some (some .info)
    | "debug" => some (some .debug)
    | "trace" => some (some .trace)
    | _ => none

def opensDirective (c : Char) : Bool :=
  isAlphanumeric c || "_:-[".toList.contains c

def slice? (text : List Char) (first last : Nat) : Option (List Char) :=
  decodeText? (((bytesOf (String.ofList text)).take last).drop first) |>.map String.toList

def isSignedNumber (text : List Char) : Bool :=
  match text with
  | '+' :: rest =>
    let whole := rest.takeWhile Char.isDigit
    let after := rest.drop whole.length
    let (part, after) := match after with
      | '.' :: more => (more.takeWhile Char.isDigit, more.dropWhile Char.isDigit)
      | after => ([], after)
    let ends := match after with
      | [] => true
      | c :: more =>
        let digits := match more with
          | '+' :: digits | '-' :: digits => digits
          | digits => digits
        (c = 'e' || c = 'E') && !digits.isEmpty && digits.all Char.isDigit
    (!(whole ++ part).isEmpty && ends) ||
      ["inf", "infinity", "nan"].contains (String.ofList (rest.map Char.toLower))
  | _ => false

def fieldTest? (text : List Char) : Option FieldTest :=
  if text.isEmpty then none
  else match pieces (· == '=') text with
    | name :: value :: _ =>
      if isSignedNumber value || Pattern.isPattern value then some ⟨name, true⟩ else none
    | name :: [] => some ⟨name, false⟩
    | [] => none

/-- Where the reading of a directive stands; a part that is being read has the byte at
which it begins. -/
inductive ReadState where
  | start
  | source (first : Nat)
  | span (first : Nat)
  | field (first : Nat)
  | afterField
  | afterSpan
  | level (first : Nat)
  deriving DecidableEq, Repr

def readChar (text : List Char) (state : ReadState × Directive) (place : Nat) (c : Char) :
    Option (ReadState × Directive) :=
  let (reading, directive) := state
  match reading with
  | .start =>
    if c = '[' then some (.span (place + 1), directive)
    else if opensDirective c then some (.source place, directive)
    else none
  | .source first =>
    if c = '=' ∨ c = '[' then do
      let source ← slice? text first place
      let next := if c = '=' then ReadState.level (place + 1) else .span (place + 1)
      some (next, {directive with source := some source})
    else some state
  | .span first =>
    if c = ']' then some (.afterSpan, {directive with inSpan := true})
    else if c = '\x7b' then some (.field (place + 1), {directive with inSpan := first < place})
    else some state
  | .field first =>
    if c = '\x7d' then do
      let field ← fieldTest? (← slice? text first place)
      some (.afterField, {directive with field := some field})
    else some state
  | .afterField => if c = ']' then some (.afterSpan, directive) else none
  | .afterSpan => if c = '=' then some (.level (place + 1), directive) else none
  | .level _ => some state

def readChars (text : List Char) (state : ReadState × Directive) (place : Nat) :
    List Char → Option (ReadState × Directive)
  | [] => some state
  | c :: rest => do readChars text (← readChar text state place c) (place + c.utf8Size) rest

/-- A directive is a level, a source, or both; a span and a field may follow the source in
brackets. Without a level all that it fits is logged. Places count from the first
character that is no blank, but the parts are cut out of the text with its blanks. -/
def directive? (text : List Char) : Option Directive := do
  let size := width (text.map .char)
  let (state, directive) ← readChars text (.start, {}) 0 (trim text)
  match state with
  | .source first =>
    let said ← slice? text first size
    match threshold? said with
    | some level => some {directive with level}
    | none => some {directive with source := some said}
  | .level first =>
    let said ← slice? text first size
    if said.isEmpty then some directive
    else do some {directive with level := ← threshold? said}
  | .afterSpan => some directive
  | _ => none

def filter? (text : String) : Option (List Directive) :=
  let pieces := (pieces (· == ',') text.toList).filter fun piece => !piece.isEmpty
  if pieces.isEmpty then some [{level := some .error}] else pieces.mapM directive?

def messageFields : List (List Char) := ["message".toList]

def Directive.fits (directive : Directive) (source : List Char) : Bool :=
  !directive.inSpan && (directive.source.getD []).isPrefixOf source &&
    (directive.field.map fun field => !field.valued && messageFields.contains field.name).getD true

/-- A directive with a source is more than one without, and fields come after that. -/
def Directive.rank (directive : Directive) : Nat × Nat :=
  ((directive.source.map fun source => width (source.map .char) + 1).getD 0,
    if directive.field.isSome then 1 else 0)

/-- The directive that decides about a source: the one that says most about it, and of two
alike the later. -/
def deciding? (source : List Char) (directives : List Directive) : Option Directive :=
  (directives.filter (·.fits source)).foldl (fun best directive =>
    match best with
    | none => some directive
    | some found =>
      let (length, fields) := directive.rank
      let (foundLength, foundFields) := found.rank
      if length > foundLength || (length = foundLength && fields ≥ foundFields) then some directive
      else best)
    none

def lets (directives : List Directive) (source : String) (level : LogLevel) : Bool :=
  match (deciding? source.toList directives).bind (·.level) with
  | some threshold => threshold.shows level
  | none => false

def programSource : String := "criproxy_bootstrap"

def filterVariable : String := "RUST_LOG"

/-- Whether the program's own messages of a level are logged. A filter in the
environment goes before the settings if it can be read. -/
def logs (environment : String → Option String) (threshold level : LogLevel) : Bool :=
  match (environment filterVariable).bind filter? with
  | some directives => lets directives programSource level
  | none => threshold.shows level

end RuntimeHandover.CommandLine
