import RuntimeHandover.Container.Engine

/-! Installing the proxy: whatever containers carry its label are removed before
the image is pulled, so that a removal that fails never leaves two proxies. -/
namespace RuntimeHandover.Container

variable {σ : Type}

def staleFailure (id : String) (failure : Failure) : Failure :=
  if failure.kind = .container then failure
  else ⟨.container, s!"failed to remove old container {id}: {failure.message}"⟩

def pullFailure (image : String) (failure : Failure) : Failure :=
  if failure.kind = .imagePull then failure
  else ⟨.imagePull, s!"failed to pull {image}: {failure.message}"⟩

def removeStale (engine : Engine σ) : List String → Act σ Unit
  | [] => pure ()
  | id :: rest => do
    (engine.remove id).restate (staleFailure id)
    removeStale engine rest

def startOrRemove (engine : Engine σ) (id : String) : Act σ String := do
  match ← (engine.start id).outcome with
  | .ok () => pure id
  | .error failure =>
    let _ ← (engine.remove id).outcome
    throw failure

def install (connect : Connector σ) (stamp : StateM σ Int) (endpoint proxyPath : String)
    (args : List String) : Act σ String := do
  let engine ← connect endpoint
  removeStale engine (← engine.list markerLabel)
  (engine.pull proxyImage).restate (pullFailure proxyImage)
  let suffix ← stamp
  let id ← engine.create (Spec.proxy endpoint proxyPath args suffix)
  startOrRemove engine id

end RuntimeHandover.Container
