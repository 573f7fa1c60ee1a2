import Curation.Cache.Basic
import Curation.Rehearsal.Network
import Curation.Remote.Breaker
import Curation.Store.Change

/-!
A world in which programs run for a rehearsal: a clock, a network with set answers, the breakers of
the services, a cache, a store and a source of ids. Nothing takes time but what is set to.
-/
namespace Curation.Rehearsal
open Remote (Request Reply Fetch)

structure World where
  now : Number := .real .zero
  stubs : List Stub := []
  /-- The requests made so far, the last one first. -/
  sent : List Request := []
  breakers : List (String × Breaker) := []
  limits : BreakerLimits := {}
  cache : Cache := {}
  session : Store.Session := {}
  /-- How many ids have been drawn. -/
  drawn : Nat := 0
  /-- Calls under way that nobody waits for any more, each with the time when it goes on. -/
  adrift : List (Number × Fetch Int) := []

namespace World

def breaker (name : String) (world : World) : Breaker := (world.breakers.lookup name).getD {}

def setBreaker (name : String) (breaker : Breaker) (world : World) : World :=
  { world with
    breakers := (name, breaker) :: world.breakers.filter fun pair => pair.1 != name }

/-- Whether calls to a service are held back now. -/
def isHeldBack (service : String) (world : World) : Bool × World :=
  let (heldBack, breaker) := (world.breaker service).isOpen world.limits world.now
  (heldBack, world.setBreaker service breaker)

/-- Tells a service's breaker what became of a call. -/
def report (service : String) (success : Bool) (world : World) : World :=
  let breaker := world.breaker service
  world.setBreaker service
    (if success then breaker.succeeded world.limits else breaker.failedAt world.limits world.now)

/-- Sends a request: when its outcome is there, and what it is. -/
def send (request : Request) (world : World) : (Number × Reply) × World :=
  let (stub, stubs) := find? request world.stubs
  let (delay, reply) := outcome request stub
  ((world.now.add delay, reply), { world with stubs, sent := request :: world.sent })

/-- The next id. -/
def newId (world : World) : String × World :=
  let drawn := world.drawn + 1
  (s!"00000000-0000-4000-8000-{Moment.pad 12 drawn}", { world with drawn })

/-- What the wall clock shows; none behind the end of the calendar. -/
def clock? (world : World) : Option Moment :=
  match Span.ofSeconds world.now with
  | .ok micros => Moment.epoch.later? micros
  | .error _ => none

end World

/-- How far a call gets before it has to wait. -/
inductive FetchProgress (α : Type) where
  | ended (outcome : Except Failure α)
  | waits (due : Number) (rest : Fetch α)

/-- Runs a call as far as it gets without waiting. -/
def advanceFetch {α : Type} : Fetch α → World → FetchProgress α × World
  | .done value, world => (.ended (.ok value), world)
  | .failed failure, world => (.ended (.error failure), world)
  | .ask (.isHeldBack service) next, world =>
    let (heldBack, world) := world.isHeldBack service
    advanceFetch (next heldBack) world
  | .ask (.report service success) next, world =>
    advanceFetch (next ()) (world.report service success)
  | .ask (.send request) next, world =>
    let ((due, reply), world) := world.send request
    if world.now.lt due then (.waits due (next reply), world) else advanceFetch (next reply) world

namespace World

/-- Carries on with calls that nobody waits for, those that are due. -/
def carryOn : List (Number × Fetch Int) → World → World
  | [], world => world
  | (due, call) :: rest, world =>
    let (progress, world) := advanceFetch call { world with now := due }
    let world := match progress with
      | .ended _ => world
      | .waits due call => { world with adrift := world.adrift ++ [(due, call)] }
    carryOn rest world

/-- Lets the clock go on to a time. What nobody waits for goes on as well. -/
def passTo (time : Number) (world : World) : World :=
  let due := (world.adrift.filter fun call => call.1.le time).mergeSort fun a b => a.1.le b.1
  let later := world.adrift.filter fun call => !call.1.le time
  { carryOn due { world with adrift := later } with now := time }

end World

end Curation.Rehearsal
