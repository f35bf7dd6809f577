import RuntimeHandover.Cluster.Certificate
import RuntimeHandover.Http.Message
import RuntimeHandover.Text.Blank

/-! A network with one server behind every address, which answers from a list. -/
namespace RuntimeHandover.Rehearsal
open Cluster Http Text

inductive Trust where
  | all
  | none
  | anchors (certificates : List Certificate)
  deriving DecidableEq, Repr

structure Route where
  target : String
  /-- Without one the server reads the request and says nothing. -/
  answer : Option Answer
  deriving DecidableEq, Repr

structure Network where
  up : Bool := false
  secure : Bool := false
  certificate : Certificate := []
  names : List Url.Host := []
  routes : List Route := []
  seen : List Request := []

namespace Network

def localName : String := "localhost"

def resolves : Url.Host → Bool
  | .domain name => name = localName
  | .ipv4 _ | .ipv6 _ => true

def accepted (network : Network) (host : Url.Host) : Trust → Bool
  | .all => true
  | .none => false
  | .anchors certificates =>
    certificates.contains network.certificate && network.names.contains host

def reaches (network : Network) (trust : Trust) (url : Url) : Bool :=
  match url.host with
  | some host => network.up && resolves host &&
      (url.scheme ≠ "https" || (network.secure && network.accepted host trust))
  | none => false

def missing : Answer := ⟨404, [], some []⟩

def respond (network : Network) (request : Request) : Except WireFault Answer :=
  match network.routes.find? (·.target == request.url.target) with
  | some route => match route.answer with
    | some answer => .ok answer
    | none => .error .unanswered
  | none => .ok missing

/-- A request as the server notes it: blanks around a field's value are none of it. -/
def noted (request : Request) : Request :=
  {request with authorization := request.authorization.map fun value =>
    String.ofList (trim value.toList)}

def wire (trust : Trust) : Wire Network := fun request network =>
  if network.reaches trust request.url then
    (network.respond request, {network with seen := network.seen ++ [noted request]})
  else (.error .unreachable, network)

end Network

end RuntimeHandover.Rehearsal
