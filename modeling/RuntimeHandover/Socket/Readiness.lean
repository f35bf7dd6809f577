import RuntimeHandover.Bootstrap.Config
import RuntimeHandover.Text.Duration

/-! Waiting until a socket takes connections. The socket is tried at least once,
and once more after the last pause, which ends at the deadline. -/
namespace RuntimeHandover.Socket
open Bootstrap Files Text

structure Watch (σ : Type) where
  probe : StateM σ Bool
  now : StateM σ Nat
  sleep : Nat → StateM σ Unit

variable {σ : Type}

/-- Tries the socket until it is ready or the deadline has passed; undecided when
that takes more tries than allowed. -/
def poll (watch : Watch σ) (deadline interval : Nat) : Nat → StateM σ (Option Bool)
  | 0 => pure none
  | tries + 1 => do
    if ← watch.probe then pure (some true)
    else
      let now ← watch.now
      if now ≥ deadline then pure (some false)
      else
        watch.sleep (min interval (deadline - now))
        poll watch deadline interval tries

def mostTries (readiness : Readiness) : Nat :=
  if readiness.pollInterval = 0 then readiness.timeout + 1
  else (readiness.timeout + readiness.pollInterval - 1) / readiness.pollInterval + 1

def notReady (path : Path) (readiness : Readiness) : Failure :=
  ⟨.timeout, s!"socket {path.quoted} not ready after {duration readiness.timeout}"⟩

def wait (watch : Watch σ) (path : Path) (readiness : Readiness) : Act σ Unit := do
  let start ← watch.now
  let decided ← poll watch (start + readiness.timeout) readiness.pollInterval
    (mostTries readiness)
  if decided = some true then pure () else throw (notReady path readiness)

end RuntimeHandover.Socket
