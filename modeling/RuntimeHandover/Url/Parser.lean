import RuntimeHandover.Url.Host

/-! Reading a URL, by itself or relative to another. -/
namespace RuntimeHandover.Url

def cleaned (text : List Char) : List Char :=
  let outer (c : Char) : Bool := c.toNat ≤ 0x20
  let inner := ((text.dropWhile outer).reverse.dropWhile outer).reverse
  inner.filter fun c => c ≠ '\t' && c ≠ '\n' && c ≠ '\r'

def isSchemeChar (c : Char) : Bool :=
  c.isAlphanum || c = '+' || c = '-' || c = '.'

def splitScheme? (input : List Char) : Option (String × List Char) :=
  let scheme := input.takeWhile isSchemeChar
  match scheme, input.dropWhile isSchemeChar with
  | first :: _, ':' :: rest =>
    if first.isAlpha then some (String.ofList (scheme.map Char.toLower), rest) else none
  | _, _ => none

def isSeparator (special : Bool) (c : Char) : Bool := c = '/' || (special && c = '\\')

def endsPath (c : Char) : Bool := c = '?' || c = '#'

def isSingleDot (segment : List Char) : Bool :=
  ["." , "%2e"].contains (String.ofList (segment.map Char.toLower))

def isDoubleDot (segment : List Char) : Bool :=
  ["..", "%2e.", ".%2e", "%2e%2e"].contains (String.ofList (segment.map Char.toLower))

def driveLetter? : List Char → Option Char
  | [letter, mark] => if letter.isAlpha && (mark = ':' || mark = '|') then some letter else none
  | _ => none

def isDrive (name : String) : Bool := (driveLetter? name.toList).isSome

def parent (names : List String) : List String :=
  if names.getLast?.any isDrive then names else names.dropLast

/-- How the segments of a path are read: a scheme may be special, and a path of files
may begin with a drive. -/
inductive Manner where
  | plain
  | special
  | files
  deriving DecidableEq, Repr

namespace Manner

def ofScheme (scheme : String) : Manner :=
  if scheme = "file" then .files else if isSpecial scheme then .special else .plain

def separates (manner : Manner) (c : Char) : Bool :=
  isSeparator (manner != .plain) c

def written (manner : Manner) (before : List String) (segment : List Char) : String :=
  match if manner = .files ∧ before.isEmpty then driveLetter? segment else none with
  | some letter => String.ofList [letter, ':']
  | none => String.ofList (percentEncode inPathSet segment)

end Manner

def addSegment (manner : Manner) (before : List String) (segment : List Char) (last : Bool) :
    List String :=
  if isDoubleDot segment then
    if last then parent before ++ [""] else parent before
  else if isSingleDot segment then
    if last then before ++ [""] else before
  else before ++ [manner.written before segment]

def readSegments (manner : Manner) (before : List String) (input : List Char) :
    List String × List Char :=
  let stops (c : Char) : Bool := manner.separates c || endsPath c
  let segment := input.takeWhile (!stops ·)
  match _rest : input.dropWhile (!stops ·) with
  | [] => (addSegment manner before segment true, [])
  | c :: after =>
    if manner.separates c then
      readSegments manner (addSegment manner before segment false) after
    else (addSegment manner before segment true, c :: after)
termination_by input.length
decreasing_by
  have shorter := (List.dropWhile_suffix (fun c => !stops c) : input.dropWhile _ <:+ input).length_le
  simp only [_rest, List.length_cons] at shorter
  omega

def readPath (manner : Manner) (input : List Char) : List String × List Char :=
  match input with
  | [] => (if manner = .plain then [] else [""], [])
  | c :: rest =>
    if manner.separates c then readSegments manner [] rest
    else if endsPath c && manner = .plain then ([], input)
    else readSegments manner [] input

def readTail (special : Bool) (input : List Char) : Option String × Option String :=
  let fragment (input : List Char) : Option String :=
    match input with
    | '#' :: rest => some (String.ofList (percentEncode inFragmentSet rest))
    | _ => none
  match input with
  | '?' :: rest =>
    let query := rest.takeWhile (· ≠ '#')
    let coded := if special then inSpecialQuerySet else inQuerySet
    (some (String.ofList (percentEncode coded query)), fragment (rest.dropWhile (· ≠ '#')))
  | input => (none, fragment input)

def readCredentials (special : Bool) (input : List Char) :
    Except Fault (String × String × List Char) :=
  let stops (c : Char) : Bool := c = '/' || c = '?' || c = '#' || (special && c = '\\')
  let authority := input.takeWhile (!stops ·)
  let backward := authority.reverse
  let host := (backward.takeWhile (· ≠ '@')).reverse
  match (backward.dropWhile (· ≠ '@')).reverse with
  | [] => .ok ("", "", input)
  | user =>
    let user := user.dropLast
    let rest := host ++ input.drop authority.length
    if user.isEmpty ∧ host.isEmpty ∧ !rest.isEmpty then .error .emptyHost
    else
      let code (text : List Char) : String := String.ofList (percentEncode inUserSet text)
      let name := user.takeWhile (· ≠ ':')
      .ok (code name, code ((user.dropWhile (· ≠ ':')).drop 1), rest)

def splitHost (special inBrackets : Bool) : List Char → List Char × List Char
  | [] => ([], [])
  | c :: rest =>
    if (c = ':' ∧ !inBrackets) ∨ c = '/' ∨ c = '?' ∨ c = '#' ∨ (special ∧ c = '\\') then
      ([], c :: rest)
    else
      let inside := if c = '[' then true else if c = ']' then false else inBrackets
      let (host, left) := splitHost special inside rest
      (c :: host, left)

def readPort (scheme : String) (input : List Char) :
    Except Fault (Option Nat × List Char) :=
  let digits := input.takeWhile Char.isDigit
  let rest := input.dropWhile Char.isDigit
  let port := Nat.ofDigitChars 10 digits 0
  let ends := match rest with
    | [] => true
    | c :: _ => c = '/' || c = '\\' || c = '?' || c = '#'
  if port > 65535 ∨ !ends then .error .invalidPort
  else if digits.isEmpty ∨ defaultPort? scheme = some port then .ok (none, rest)
  else .ok (some port, rest)

def readAuthority (scheme : String) (input : List Char) : Except Fault Url := do
  let special := isSpecial scheme
  let (username, password, input) ← readCredentials special input
  let (name, input) := splitHost special false input
  if special ∧ name.isEmpty then .error .emptyHost
  let host ← if special then specialHost name else plainHost name
  if name.isEmpty ∧ input.head? = some ':' then .error .emptyHost
  let (port, input) ← match input with
    | ':' :: rest => readPort scheme rest
    | input => .ok (none, input)
  if name.isEmpty ∧ (username ≠ "" ∨ password ≠ "") then .error .emptyHost
  let (segments, input) := readPath (.ofScheme scheme) input
  let (query, fragment) := readTail special input
  .ok {
    scheme, username, password, host := some host, port, path := .segments segments
    query, fragment }

def readPlain (scheme : String) (input : List Char) : Url :=
  match input with
  | '/' :: rest =>
    let (segments, input) := readSegments .plain [] rest
    let (query, fragment) := readTail false input
    { scheme, path := .segments segments, query, fragment }
  | input =>
    let text := input.takeWhile (!endsPath ·)
    let (query, fragment) := readTail false (input.dropWhile (!endsPath ·))
    { scheme, path := .plain (String.ofList (percentEncode inControlSet text)), query, fragment }

def filePath (segments : List String) : List String :=
  let segments := segments.dropWhile (· == "")
  if segments.isEmpty then [""] else segments

/-- What stands before the path of a file as its host, and the path. A drive's letter
is no host. -/
def splitFileHost (input : List Char) : List Char × List Char :=
  let slash (c : Char) : Bool := isSeparator true c
  match input with
  | a :: b :: rest =>
    if slash a && slash b then
      let stops (c : Char) : Bool := slash c || endsPath c
      let name := rest.takeWhile (!stops ·)
      if (driveLetter? name).isSome then ([], rest)
      else (name, rest.dropWhile (!stops ·))
    else ([], input)
  | input => ([], input)

/-- A file on this host has none in its URL, under the name `localhost` neither, nor
has one on a drive. -/
def readFile (input : List Char) : Except Fault Url := do
  let (name, input) := splitFileHost input
  let host ← if name.isEmpty then .ok (.domain "") else specialHost name
  let (segments, input) := readPath .files input
  let here := host = .domain "localhost" ∨ segments.head?.any isDrive
  let (query, fragment) := readTail true input
  .ok {
    scheme := "file", host := some (if here then .domain "" else host), query, fragment
    path := .segments (filePath segments) }

def dropSlashes (input : List Char) : List Char :=
  input.dropWhile (isSeparator true)

def readAfterScheme (scheme : String) (input : List Char) : Except Fault Url :=
  if scheme = "file" then readFile input
  else if isSpecial scheme then readAuthority scheme (dropSlashes input)
  else match input with
    | '/' :: '/' :: rest => readAuthority scheme rest
    | input => .ok (readPlain scheme input)

def readRelative (base : Url) (input : List Char) : Except Fault Url :=
  let special := isSpecial base.scheme
  let manner := Manner.ofScheme base.scheme
  let segments := match base.path with
    | .segments names => names
    | .plain _ => []
  let finish (read : List String × List Char) : Url :=
    let (query, fragment) := readTail special read.2
    {base with path := .segments read.1, query, fragment}
  match input with
  | [] => .ok {base with fragment := none}
  | '#' :: _ => .ok {base with fragment := (readTail special input).2}
  | '?' :: _ =>
    let (query, fragment) := readTail special input
    .ok {base with query, fragment}
  | c :: rest =>
    if c = '/' ∨ c = '\\' then
      if (input.takeWhile (isSeparator true)).length ≥ 2 then
        match input with
        | '/' :: '/' :: rest => readAuthority base.scheme rest
        | input => readAuthority base.scheme (dropSlashes input)
      else .ok (finish (readSegments manner [] rest))
    else .ok (finish (readSegments manner segments.dropLast input))

def parse (text : String) : Except Fault Url :=
  let input := cleaned text.toList
  match splitScheme? input with
  | some (scheme, rest) => readAfterScheme scheme rest
  | none => .error .relativeWithoutBase

def join (base : Url) (text : String) : Except Fault Url :=
  let input := cleaned text.toList
  match splitScheme? input with
  | some (scheme, rest) =>
    let slashes := (rest.takeWhile (isSeparator true)).length
    if isSpecial scheme ∧ scheme ≠ "file" ∧ scheme = base.scheme ∧ slashes < 2 then
      readRelative base rest
    else readAfterScheme scheme rest
  | none =>
    match base.path, input with
    | .plain _, '#' :: _ => readRelative base input
    | .plain _, _ => .error .relativeToPlainPath
    | .segments _, _ => readRelative base input

end RuntimeHandover.Url
