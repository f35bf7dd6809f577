import RuntimeHandover.Cluster.Answer
import RuntimeHandover.Cluster.Record
import RuntimeHandover.Http.Fields
import RuntimeHandover.Http.Uri

/-! Keeping records in the cluster through its API. A record is made once; the API
refuses to make it again. -/
namespace RuntimeHandover.Cluster
open Http Json Text

structure Api (σ : Type) where
  root : Uri
  token : Option String
  wire : Wire σ

inductive PublishFault where
  | unwritable (fault : UriFault)
  | badToken
  | wire (fault : WireFault)
  | cutShort
  | notText (flaw : Utf8.Flaw)
  | refused (refusal : Refusal)
  | notRecord (fault : Json.Fault)

def PublishFault.message : PublishFault → String
  | .unwritable fault => s!"Failed to build request: failed to build request: {fault.message}"
  | .badToken => "ServiceError: invalid bearer token: failed to parse header value"
  | .wire .unreachable => "ServiceError: client error (Connect)"
  | .wire .unanswered => "ServiceError: client error (SendRequest)"
  | .cutShort => "ServiceError: error reading a body from connection"
  | .notText flaw => s!"UTF-8 Error: {flaw.message}"
  | .refused refusal =>
    s!"ApiError: {refusal.message}: {refusal.reason} ({refusal.shown})"
  | .notRecord fault => s!"Error deserializing response: {fault.message}"

def recordsTarget (space : String) : Except UriFault Uri :=
  Uri.read s!"/api/v1/namespaces/{space}/configmaps?".toList

def below (root target : Uri) : Url :=
  let base := String.ofList (root.path.toList.reverse.dropWhile (· = '/')).reverse
  { scheme := root.scheme.getD "", host := some root.host, port := root.port?
    path := .plain (base ++ target.path), query := target.query }

def isHeaderText (text : String) : Bool :=
  (bytesOf text).all fun b => b = 9 || (b ≥ 32 && b ≠ 127)

def refusalIn (status : Nat) (text : String) : Refusal :=
  (Refusal.parse? text).getD
    ⟨statusText status, quoted text, "Failed to parse error data", status⟩

def published (answer : Answer) : Except PublishFault Unit :=
  match answer.body with
  | none => .error .cutShort
  | some body =>
    match Utf8.flaw? body with
    | some flaw => .error (.notText flaw)
    | none =>
      let text := lossyText body
      if isRefusal answer.status then .error (.refused (refusalIn answer.status text))
      else (checkConfigMap text).mapError .notRecord

variable {σ : Type}

def Api.create (api : Api σ) (record : Record) : StateM σ (Except PublishFault Unit) := do
  let bearer := api.token.map ("Bearer " ++ ·)
  match recordsTarget record.space with
  | .error fault => pure (.error (.unwritable fault))
  | .ok target =>
    if !(bearer.map isHeaderText).getD true then pure (.error .badToken)
    else
      let body := bytesOf record.toConfigMap.compact
      match ← api.wire ⟨.post, below api.root target, bearer, body⟩ with
      | .error fault => pure (.error (.wire fault))
      | .ok answer => pure (((received answer).map published).getD (.error (.wire .unanswered)))

def Api.publish (api : Api σ) (record : Record) : Act σ Unit := do
  match ← (api.create record : StateM σ _) with
  | .ok () => pure ()
  | .error fault =>
    throw ⟨.publish, s!"failed to put ConfigMap {record.space}/{record.name}: {fault.message}"⟩

end RuntimeHandover.Cluster
