import RuntimeHandover.Http.Fields
import RuntimeHandover.Http.Uri
import RuntimeHandover.Url.Parser

/-! Getting what is at a URL: redirects are followed, a few of them at most. -/
namespace RuntimeHandover.Http
open Text

inductive GetFault where
  | unsendable (url : Url)
  | unanswered (url : Url)
  | redirectedTooOften (url : Url)
  deriving DecidableEq, Repr

def GetFault.message : GetFault → String
  | .unsendable url => s!"builder error for url ({url.text})"
  | .unanswered url => s!"error sending request for url ({url.text})"
  | .redirectedTooOften url => s!"error following redirect for url ({url.text})"

def mostRedirects : Nat := 10

def isWeb (url : Url) : Bool := url.scheme == "http" || url.scheme == "https"

def isSendable (url : Url) : Bool :=
  isWeb url && (Uri.read url.text.toList).toBool

/-- Where an answer sends the one who asked for a URL. A place that no request can name
is none. -/
def redirect? (asked : Url) (answer : Answer) : Option Url := do
  if !isRedirect answer.status then none
  let reference ← answer.header? "location"
  let next ← (asked.join reference).toOption
  let uri ← (Uri.read next.text.toList).toOption
  (Url.parse uri.text).toOption

def portOf (url : Url) : Option Nat := url.port.or (Url.defaultPort? url.scheme)

/-- Credentials go along only from a server to itself. -/
def isSameServer (a b : Url) : Bool :=
  a.host = b.host && portOf a = portOf b

variable {σ : Type}

def follow (wire : Wire σ) (origin : Request) :
    Nat → Url → Option String → StateM σ (Except GetFault Answer)
  | left, url, authorization => do
    match (← wire {origin with url, authorization}).toOption.bind received with
    | none => pure (.error (.unanswered origin.url))
    | some answer =>
      match redirect? url answer with
      | none => pure (.ok answer)
      | some next =>
        match left with
        | 0 => pure (.error (.redirectedTooOften {url with fragment := none}))
        | left + 1 =>
          if isWeb next then
            follow wire origin left next
              (if isSameServer next url then origin.authorization else none)
          else pure (.error (.unsendable next))

def get (wire : Wire σ) (url : Url) : StateM σ (Except GetFault Answer) :=
  let request := Request.get url
  if isSendable request.url then
    follow wire request mostRedirects request.url request.authorization
  else pure (.error (.unsendable request.url))

end RuntimeHandover.Http
