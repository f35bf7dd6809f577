import RuntimeHandover.Cluster.Certificate
import RuntimeHandover.Failure
import RuntimeHandover.Files.Disk
import RuntimeHandover.Http.Uri

/-! How a process inside a cluster reaches the cluster's API: the address is in its
environment, certificates and token are in the files of its service account. -/
namespace RuntimeHandover.Cluster
open Files Http Text

structure Access where
  root : Uri
  anchors : List Certificate
  token : String
  deriving DecidableEq, Repr

inductive PortFault where
  | empty
  | badDigit
  | tooLarge
  deriving DecidableEq, Repr

def PortFault.message : PortFault → String
  | .empty => "cannot parse integer from empty string"
  | .badDigit => "invalid digit found in string"
  | .tooLarge => "number too large to fit in target type"

def readPort (text : String) : Except PortFault Nat :=
  let digits := match text.toList with
    | '+' :: c :: rest => c :: rest
    | other => other
  if digits.isEmpty then .error .empty
  else
    let leading := digits.takeWhile Char.isDigit
    let port := Nat.ofDigitChars 10 leading 0
    if port > 65535 then .error .tooLarge
    else if leading.length < digits.length then .error .badDigit
    else .ok port

def securePort : Nat := 443

/-- Where the API is. An address of version 6 is put in brackets, and the port of secure
connections is left out. -/
def apiRoot (host : String) (port : Nat) : Except UriFault Uri :=
  let host := if (Url.ipv6? host.toList).isSome then "[" ++ host ++ "]" else host
  Uri.read ("https://" ++ (if port = securePort then host else s!"{host}:{port}")).toList

def accountFile (name : String) : Path :=
  .ofString ("/var/run/secrets/kubernetes.io/serviceaccount/" ++ name)

def hostVariable : String := "KUBERNETES_SERVICE_HOST"
def portVariable : String := "KUBERNETES_SERVICE_PORT"

inductive AccessFault where
  | noVariable
  | port (fault : PortFault)
  | address (fault : UriFault)
  | space (fault : FileFault)
  | unreadBundle (fault : FileFault)
  | badBundle (fault : Armor.Fault)
  | badAnchor (flaw : Certificate.Flaw)
  | token (fault : FileFault)
  deriving DecidableEq, Repr

def AccessFault.message : AccessFault → String
  | .noVariable => discovering
      "failed to read an incluster environment variable: environment variable not found"
  | .port fault => discovering s!"failed to parse cluster port: {fault.message}"
  | .address fault => discovering s!"failed to parse cluster url: {fault.message}"
  | .space fault => discovering s!"failed to read the default namespace: {fault.message}"
  | .unreadBundle fault => discovering s!"failed to read a certificate bundle: {fault.message}"
  | .badBundle fault =>
    discovering s!"failed to parse PEM-encoded certificates: {fault.message}"
  | .badAnchor flaw => connecting <|
      "rustls tls error: failed to add a root certificate: invalid peer certificate: " ++ flaw.message
  | .token fault =>
    let file := (accountFile "token").quoted
    connecting ("auth error: failed to read token file '" ++ file ++ "': " ++ fault.message)
where
  discovering (words : String) : String := "failed to get in-cluster config: " ++ words
  connecting (words : String) : String := "failed to create client: " ++ words

/-- Finds the API from inside the cluster, in the order in which a fault would show. -/
def findAccess (environment : String → Option String) (disk : Disk) :
    Except AccessFault Access := do
  let required (name : String) : Except AccessFault String :=
    match environment name with
    | some text => .ok text
    | none => .error .noVariable
  let host ← required hostVariable
  let port ← (readPort (← required portVariable)).mapError .port
  let root ← (apiRoot host port).mapError .address
  let _ ← (disk.text (accountFile "namespace")).mapError .space
  let bundle ← (disk.text (accountFile "ca.crt")).mapError .unreadBundle
  let anchors ← (Certificate.bundle bundle).mapError .badBundle
  (anchors.forM Certificate.check).mapError .badAnchor
  let token ← (disk.text (accountFile "token")).mapError .token
  .ok { root, anchors, token }

def access (environment : String → Option String) (disk : Disk) : Except Failure Access :=
  (findAccess environment disk).mapError fun fault => ⟨.clusterConfig, fault.message⟩

end RuntimeHandover.Cluster
