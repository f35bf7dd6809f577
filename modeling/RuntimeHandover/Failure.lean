/-! How a stage of the handover fails. A failure is of one kind and says the rest
in words; the stage that fails first ends the run. -/
namespace RuntimeHandover

inductive FailureKind where
  | io
  | json
  | validation
  | transport
  | decode
  | missingField
  | persistence
  | clusterConfig
  | publish
  | engineUnreachable
  | imagePull
  | container
  | timeout
  | config
  deriving DecidableEq, Repr

def FailureKind.title : FailureKind → String
  | .io => "IO error"
  | .json => "JSON error"
  | .validation => "Validation error"
  | .transport => "Transport error"
  | .decode => "Decode error"
  | .missingField => "Missing field"
  | .persistence => "Persistence error"
  | .clusterConfig => "Cluster config error"
  | .publish => "Publish error"
  | .engineUnreachable => "Container engine unreachable"
  | .imagePull => "Image pull error"
  | .container => "Container error"
  | .timeout => "Timeout"
  | .config => "Configuration error"

structure Failure where
  kind : FailureKind
  detail : String
  deriving DecidableEq, Repr

def Failure.message (failure : Failure) : String :=
  s!"{failure.kind.title}: {failure.detail}"

/-- An action on a world of type `σ` that may fail. What it did before it failed stays done. -/
abbrev Act (σ : Type) := ExceptT Failure (StateM σ)

namespace Act

variable {σ : Type}

def fail {α : Type} (kind : FailureKind) (detail : String) : Act σ α :=
  throw ⟨kind, detail⟩

def ofExcept {α : Type} (result : Except Failure α) : Act σ α :=
  ExceptT.mk (pure result)

def restate {α : Type} (action : Act σ α) (words : Failure → Failure) : Act σ α :=
  ExceptT.mk (Except.mapError words <$> action.run)

def outcome {α : Type} (action : Act σ α) : Act σ (Except Failure α) :=
  ExceptT.mk (Except.ok <$> action.run)

end Act

end RuntimeHandover
