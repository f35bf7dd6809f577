import RuntimeHandover.Http.Status
import RuntimeHandover.Text.Base64
import RuntimeHandover.Text.Utf8
import RuntimeHandover.Url.Basic
import RuntimeHandover.Url.Percent

/-! Requests, answers, and what carries them. -/
namespace RuntimeHandover.Http
open Text

inductive Method where
  | get
  | post
  deriving DecidableEq, Repr

def Method.name : Method → String
  | .get => "GET"
  | .post => "POST"

structure Request where
  method : Method
  url : Url
  authorization : Option String
  body : List UInt8
  deriving DecidableEq, Repr

structure Answer where
  status : Nat
  headers : List (String × String)
  /-- Nothing when the connection ends before the body does. -/
  body : Option (List UInt8)
  deriving DecidableEq, Repr

def Answer.header? (answer : Answer) (name : String) : Option String :=
  (answer.headers.find? fun header => header.1.toLower == name.toLower).map (·.2)

inductive WireFault where
  | unreachable
  /-- The connection was made but brought no answer in time. -/
  | unanswered
  deriving DecidableEq, Repr

abbrev Wire (σ : Type) := Request → StateM σ (Except WireFault Answer)

def credentials? (url : Url) : Option (String × Option String) := do
  let meant (coded : String) : Option String := decodeText? (Url.percentDecode (bytesOf coded))
  let username ← meant url.username
  let password := if url.password = "" then none else meant url.password
  if username = "" ∧ password = none then none
  some (username, password)

def basicAuthorization (username : String) (password : Option String) : String :=
  let secret := username ++ ":" ++ password.getD ""
  "Basic " ++ lossyText (Base64.encode (bytesOf secret))

def Request.get (url : Url) : Request :=
  match credentials? url with
  | none => ⟨.get, url, none, []⟩
  | some (username, password) =>
    ⟨.get, {url with username := "", password := ""},
      some (basicAuthorization username password), []⟩

end RuntimeHandover.Http
