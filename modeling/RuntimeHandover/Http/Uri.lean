import RuntimeHandover.Text.Utf8
import RuntimeHandover.Url.Host

/-! URIs as requests write them. Fewer characters may stand in them than in a URL, and
nothing in them is brought into another form. -/
namespace RuntimeHandover.Http
open Text

inductive UriFault where
  | empty
  | tooLong
  | schemeTooLong
  | badCharacter
  | badAuthority
  | badForm
  deriving DecidableEq, Repr

def UriFault.message : UriFault → String
  | .empty => "empty string"
  | .tooLong => "uri too long"
  | .schemeTooLong => "scheme too long"
  | .badCharacter => "invalid uri character"
  | .badAuthority => "invalid authority"
  | .badForm => "invalid format"

/-- Without a scheme it is a target, which begins with a slash, or an authority alone. -/
structure Uri where
  scheme : Option String := none
  authority : String := ""
  path : String := ""
  query : Option String := none
  deriving DecidableEq, Repr

namespace Uri

def largestSize : Nat := 65534

def longestScheme : Nat := 64

def isPlain (c : Char) : Bool :=
  c.toNat > 0x20 && c ≠ '\x7f' && c ≠ '<' && c ≠ '>'

def readTarget (text : List Char) : Except UriFault Uri :=
  let target := text.takeWhile (· ≠ '#')
  let path := target.takeWhile (· ≠ '?')
  let query := target.dropWhile (· ≠ '?')
  if path.all (fun c => isPlain c && c ≠ '\x60') && query.all fun c => isPlain c && c ≠ '"' then
    .ok {
      path := String.ofList path
      query := if query.isEmpty then none else some (String.ofList (query.drop 1)) }
  else .error .badCharacter

def isAuthorityChar (c : Char) : Bool :=
  c.isAlphanum || "!#$&'()*+,-./:;=?@[]_~".toList.contains c

/-- What has been seen of an authority. Colons and percent signs count since the last
at sign or closing bracket. -/
structure AuthorityState where
  colons : Nat := 0
  opened : Bool := false
  closed : Bool := false
  coded : Bool := false
  hostless : Bool := false

def tooManyColons : Nat := 9

def scanAuthority (state : AuthorityState) :
    List Char → Except UriFault (AuthorityState × List Char)
  | [] => .ok (state, [])
  | c :: rest =>
    let next := {state with hostless := false}
    match c with
    | '/' | '?' | '#' => .ok (state, c :: rest)
    | ':' =>
      if state.colons + 1 = tooManyColons then .error .badAuthority
      else scanAuthority {next with colons := state.colons + 1} rest
    | '[' =>
      if state.coded || state.opened then .error .badAuthority
      else scanAuthority {next with opened := true} rest
    | ']' =>
      if !state.opened || state.closed then .error .badAuthority
      else scanAuthority {next with closed := true, colons := 0, coded := false} rest
    | '@' => scanAuthority {next with colons := 0, coded := false, hostless := true} rest
    | '%' => scanAuthority {next with coded := true} rest
    | c => if isAuthorityChar c then scanAuthority next rest else .error .badCharacter

/-- An authority has brackets in one pair, one colon at most outside them, and a host
that is not coded. -/
def readAuthority (text : List Char) : Except UriFault (String × List Char) := do
  let (state, rest) ← scanAuthority {} text
  if state.opened ≠ state.closed ∨ state.colons > 1 ∨ state.hostless ∨ state.coded then
    throw .badAuthority
  .ok (String.ofList (text.take (text.length - rest.length)), rest)

def isSchemeChar (c : Char) : Bool :=
  c.isAlphanum || c = '+' || c = '-' || c = '.'

def splitScheme? (text : List Char) : Option (List Char × List Char) :=
  match text.dropWhile isSchemeChar with
  | ':' :: '/' :: '/' :: rest => some (text.takeWhile isSchemeChar, rest)
  | _ => none

def read (text : List Char) : Except UriFault Uri := do
  if width (text.map .char) > largestSize then throw .tooLong
  if text.isEmpty then throw .empty
  if text.head? = some '/' then readTarget text
  else match splitScheme? text with
    | none =>
      let (authority, rest) ← readAuthority text
      if rest.isEmpty then .ok {authority} else .error .badForm
    | some (scheme, rest) =>
      if scheme.length > longestScheme then throw .schemeTooLong
      if rest.isEmpty then throw .empty
      let (authority, rest) ← readAuthority rest
      if authority.isEmpty then throw .badForm
      let target ← readTarget rest
      .ok {target with scheme := some (String.ofList scheme), authority}

def text (uri : Uri) : String :=
  let query := (uri.query.map ("?" ++ ·)).getD ""
  match uri.scheme with
  | none => uri.authority ++ uri.path ++ query
  | some scheme =>
    scheme ++ "://" ++ uri.authority ++ (if uri.path = "" then "/" else uri.path) ++ query

def hostText (uri : Uri) : List Char :=
  let named := (uri.authority.toList.reverse.takeWhile (· ≠ '@')).reverse
  match named with
  | '[' :: rest => rest.takeWhile (· ≠ ']')
  | name => name.takeWhile (· ≠ ':')

def port? (uri : Uri) : Option Nat :=
  let backward := uri.authority.toList.reverse
  let digits := (backward.takeWhile (· ≠ ':')).reverse
  let port := Nat.ofDigitChars 10 digits 0
  if digits.length = backward.length ∨ digits.isEmpty ∨ !digits.all Char.isDigit ∨ port > 65535 then
    none
  else some port

def host (uri : Uri) : Url.Host :=
  let written := uri.hostText
  match Url.ipv6? written with
  | some pieces => .ipv6 pieces
  | none => match Url.ipv4Tail? written with
    | some pieces => .ipv4 (pieces.foldl (fun n piece => n * 65536 + piece) 0)
    | none => .domain (String.ofList (written.map Char.toLower))

end Uri

end RuntimeHandover.Http
