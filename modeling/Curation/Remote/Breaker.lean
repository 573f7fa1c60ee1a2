import Curation.Number.Basic

/-!
Circuit breakers: after enough failures in a row a service is left alone for a while, then tried
again, and trusted only after enough successes.
-/
namespace Curation

/-- How many failures open a breaker, how long it stays open, and how many successes close it. -/
structure BreakerLimits where
  failureThreshold : Int := 5
  recoveryTimeout : Number := 60
  successThreshold : Int := 3
  deriving DecidableEq, Repr, Inhabited

inductive BreakerPhase where
  | closed
  | opened
  | halfOpen
  deriving DecidableEq, Repr, Inhabited

def BreakerPhase.name : BreakerPhase → String
  | .closed => "closed"
  | .opened => "open"
  | .halfOpen => "half_open"

structure Breaker where
  phase : BreakerPhase := .closed
  failures : Nat := 0
  successes : Nat := 0
  lastFailure : Number := 0
  deriving DecidableEq, Repr, Inhabited

namespace Breaker

/-- Whether calls are held back at a time, and the breaker after having been asked: an open one
whose time is over goes on trial. -/
def isOpen (limits : BreakerLimits) (now : Number) (breaker : Breaker) : Bool × Breaker :=
  match breaker.phase with
  | .opened =>
    if limits.recoveryTimeout.lt (now.sub breaker.lastFailure) then
      (false, { breaker with phase := .halfOpen, successes := 0 })
    else (true, breaker)
  | _ => (false, breaker)

/-- A call was answered. -/
def succeeded (limits : BreakerLimits) (breaker : Breaker) : Breaker :=
  match breaker.phase with
  | .halfOpen =>
    let successes := breaker.successes + 1
    if limits.successThreshold ≤ successes then
      { breaker with phase := .closed, failures := 0, successes }
    else { breaker with successes }
  | .closed => { breaker with failures := 0 }
  | .opened => breaker

/-- A call failed at a time. -/
def failedAt (limits : BreakerLimits) (now : Number) (breaker : Breaker) : Breaker :=
  let failures := breaker.failures + 1
  { breaker with
    failures
    lastFailure := now
    phase := if limits.failureThreshold ≤ failures then .opened else breaker.phase }

end Breaker

end Curation
