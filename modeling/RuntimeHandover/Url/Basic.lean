/-! URLs in parts, and their text. -/
namespace RuntimeHandover

namespace Url

inductive Fault where
  | emptyHost
  | invalidDomain
  | invalidDomainCharacter
  | invalidPort
  | invalidIpv4
  | invalidIpv6
  | relativeWithoutBase
  | relativeToPlainPath
  deriving DecidableEq, Repr

def Fault.message : Fault → String
  | .emptyHost => "empty host"
  | .invalidDomain => "invalid international domain name"
  | .invalidDomainCharacter => "invalid domain character"
  | .invalidPort => "invalid port number"
  | .invalidIpv4 => "invalid IPv4 address"
  | .invalidIpv6 => "invalid IPv6 address"
  | .relativeWithoutBase => "relative URL without a base"
  | .relativeToPlainPath => "relative URL with a cannot-be-a-base base"

inductive Host where
  | domain (name : String)
  | ipv4 (address : Nat)
  | ipv6 (pieces : List Nat)
  deriving DecidableEq, Repr

inductive Path where
  /-- A path that is no list of segments, as after `mailto:`. -/
  | plain (text : String)
  | segments (names : List String)
  deriving DecidableEq, Repr

end Url

structure Url where
  scheme : String
  username : String := ""
  password : String := ""
  host : Option Url.Host := none
  port : Option Nat := none
  path : Url.Path := .segments []
  query : Option String := none
  fragment : Option String := none
  deriving DecidableEq, Repr

namespace Url

def defaultPort? (scheme : String) : Option Nat :=
  match scheme with
  | "http" | "ws" => some 80
  | "https" | "wss" => some 443
  | "ftp" => some 21
  | _ => none

def isSpecial (scheme : String) : Bool :=
  (defaultPort? scheme).isSome || scheme == "file"

def ipv4Text (address : Nat) : String :=
  ".".intercalate ([24, 16, 8, 0].map fun shift => toString (address / Nat.pow 2 shift % 256))

def longestZeros (pieces : List Nat) : Option (Nat × Nat) :=
  let runs := (List.range pieces.length).map fun start =>
    (start, ((pieces.drop start).takeWhile (· = 0)).length)
  runs.foldl (fun best run =>
    if run.2 < 2 then best
    else match best with
      | none => some run
      | some found => if run.2 > found.2 then some run else some found) none

def ipv6Text (pieces : List Nat) : String :=
  let text (pieces : List Nat) : String :=
    ":".intercalate (pieces.map fun piece => String.ofList (Nat.toDigits 16 piece))
  match longestZeros pieces with
  | none => text pieces
  | some (start, length) => text (pieces.take start) ++ "::" ++ text (pieces.drop (start + length))

def Host.text : Host → String
  | .domain name => name
  | .ipv4 address => ipv4Text address
  | .ipv6 pieces => "[" ++ ipv6Text pieces ++ "]"

def Path.text : Path → String
  | .plain text => text
  | .segments names => String.join (names.map ("/" ++ ·))

def credentials (url : Url) : String :=
  if url.username = "" ∧ url.password = "" then ""
  else if url.password = "" then url.username ++ "@"
  else url.username ++ ":" ++ url.password ++ "@"

def authority (url : Url) : String :=
  match url.host with
  | none => ""
  | some host =>
    "//" ++ url.credentials ++ host.text ++ ((url.port.map fun port => s!":{port}").getD "")

def target (url : Url) : String :=
  url.path.text ++ ((url.query.map ("?" ++ ·)).getD "")

/-- A path that begins with two slashes is set apart when no host stands before it. -/
def text (url : Url) : String :=
  let apart := match url.host, url.path with
    | none, .segments ("" :: _ :: _) => "/."
    | _, _ => ""
  url.scheme ++ ":" ++ url.authority ++ apart ++ url.target ++
    ((url.fragment.map ("#" ++ ·)).getD "")

end Url

end RuntimeHandover
