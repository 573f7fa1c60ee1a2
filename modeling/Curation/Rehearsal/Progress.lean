import Curation.Check.Basic
import Curation.Rehearsal.World

/-!
Checks under way in a rehearsal. A check runs as far as it gets in an instant; then it waits for a
time, or for calls that it makes at the same time. The first of those that fails fails them all, and
nobody waits for the others any more. A check that is run to its end lets the clock go on whenever
it waits.
-/
namespace Curation.Rehearsal
open Remote (Fetch)

/-- The time that checks have: until when, and how much for one call if a check does not say. -/
structure Budget where
  deadline : Option Number
  callTime : Number

/-- The time for a call at a moment; none once the deadline has come. -/
def Budget.timeLeft (budget : Budget) (wanted : Option Number) (now : Number) : Option Number :=
  let time := wanted.getD budget.callTime
  match budget.deadline with
  | none => some time
  | some deadline =>
    let remaining := deadline.sub now
    if remaining.le 0 then none else some (time.least remaining)

/-- One of some calls made at the same time. -/
inductive Branch where
  | ended (value : Int)
  | waits (due : Number) (rest : Fetch Int)

/-- What calls made at the same time have come to. -/
inductive Gathered where
  | ended (outcome : Except Failure (List Int))
  | waits (branches : List Branch)

/-- The first failure among calls. -/
def firstFailure? : List (FetchProgress Int) → Option Failure
  | [] => none
  | .ended (.error failure) :: _ => some failure
  | _ :: rest => firstFailure? rest

def branches : List (FetchProgress Int) → List Branch
  | [] => []
  | .ended (.ok value) :: rest => .ended value :: branches rest
  | .ended (.error _) :: rest => branches rest
  | .waits due call :: rest => .waits due call :: branches rest

/-- The values of calls that have all ended. -/
def values? : List Branch → Option (List Int)
  | [] => some []
  | .ended value :: rest => (values? rest).map (value :: ·)
  | .waits .. :: _ => none

def waiting (branches : List Branch) : List (Number × Fetch Int) :=
  branches.filterMap fun branch =>
    match branch with
    | .waits due call => some (due, call)
    | .ended _ => none

/-- Takes stock of calls. -/
def gather (calls : List (FetchProgress Int)) (world : World) : Gathered × World :=
  let branches := branches calls
  match firstFailure? calls with
  | some failure =>
    (.ended (.error failure), { world with adrift := world.adrift ++ waiting branches })
  | none =>
    match values? branches with
    | some values => (.ended (.ok values), world)
    | none => (.waits branches, world)

def startCalls : List (Fetch Int) → World → List (FetchProgress Int) × World
  | [], world => ([], world)
  | call :: rest, world =>
    let (progress, world) := advanceFetch call world
    let (others, world) := startCalls rest world
    (progress :: others, world)

/-- Goes on with the calls that are due. -/
def resumeCalls : List Branch → World → List (FetchProgress Int) × World
  | [], world => ([], world)
  | .ended value :: rest, world =>
    let (others, world) := resumeCalls rest world
    (.ended (.ok value) :: others, world)
  | .waits due call :: rest, world =>
    let (progress, world) :=
      if due.le world.now then advanceFetch call world else (.waits due call, world)
    let (others, world) := resumeCalls rest world
    (progress :: others, world)

variable {ε α : Type}

/-- A check of any result and any kind of failure. -/
abbrev Task (ε α : Type) := Program Check.Ask Check.Answer ε α

/-- How far a check gets before it has to wait. -/
inductive Progress (ε α : Type) where
  | ended (outcome : Except ε α)
  | waits (due : Number) (rest : Task ε α)
  | gathers (branches : List Branch) (rest : Except Failure (List Int) → Task ε α)

/-- A world as a check leaves it, with the last time for a call that the check was granted. -/
structure Surroundings where
  world : World
  granted : Option Number := none

/-- Runs a check as far as it gets without waiting. -/
def advance (budget : Budget) : Task ε α → Surroundings → Progress ε α × Surroundings
  | .done value, around => (.ended (.ok value), around)
  | .failed fault, around => (.ended (.error fault), around)
  | .ask (.remote (.isHeldBack service)) next, around =>
    let (heldBack, world) := around.world.isHeldBack service
    advance budget (next heldBack) { around with world }
  | .ask (.remote (.report service success)) next, around =>
    advance budget (next ()) { around with world := around.world.report service success }
  | .ask (.remote (.send request)) next, around =>
    let ((due, reply), world) := around.world.send request
    if world.now.lt due then (.waits due (next reply), { around with world })
    else advance budget (next reply) { around with world }
  | .ask (.together calls) next, around =>
    let (started, world) := startCalls calls around.world
    match gather started world with
    | (.ended outcome, world) => advance budget (next outcome) { around with world }
    | (.waits branches, world) => (.gathers branches next, { around with world })
  | .ask (.cached key) next, around =>
    let (found, cache) := around.world.cache.get key around.world.now
    advance budget (next found) { around with world := { around.world with cache } }
  | .ask (.keep key value ttl) next, around =>
    let cache := around.world.cache.put key value ttl around.world.now
    advance budget (next ()) { around with world := { around.world with cache } }
  | .ask (.timeLeft wanted) next, around =>
    let time := budget.timeLeft wanted around.world.now
    advance budget (next time) { around with granted := time.orElse fun _ => around.granted }
  | .ask (.pause seconds) next, around =>
    let due := around.world.now.add seconds
    if around.world.now.lt due then (.waits due (next ()), around)
    else advance budget (next ()) around
  | .ask (.clearLogs channel fid) next, around =>
    let (_, session) := around.world.session.write (.deleteLogs channel fid)
    advance budget (next ()) { around with world := { around.world with session } }

/-- The earliest of some times. -/
def earliest? : List Number → Option Number
  | [] => none
  | time :: rest =>
    match earliest? rest with
    | none => some time
    | some other => some (time.least other)

/-- When a check goes on. -/
def Progress.due? : Progress ε α → Option Number
  | .ended _ => none
  | .waits due _ => some due
  | .gathers branches _ => earliest? ((waiting branches).map (·.1))

/-- Goes on with a check that waits. -/
def Progress.resume (budget : Budget) (progress : Progress ε α) (around : Surroundings) :
    Progress ε α × Surroundings :=
  match progress with
  | .ended outcome => (.ended outcome, around)
  | .waits _ rest => advance budget rest around
  | .gathers branches rest =>
    let (resumed, world) := resumeCalls branches around.world
    match gather resumed world with
    | (.ended outcome, world) => advance budget (rest outcome) { around with world }
    | (.waits branches, world) => (.gathers branches rest, { around with world })

/-! ## Runs to the end -/

/-- More rounds than calls made at the same time take. -/
def callRounds : Nat := 1000000

/-- Waits for calls made at the same time, for so many rounds at most. -/
def await : Nat → List Branch → World → Except Failure (List Int) × World
  | 0, _, world => (.error .noTimeLeft, world)
  | rounds + 1, branches, world =>
    match earliest? ((waiting branches).map (·.1)) with
    | none => (.error .noTimeLeft, world)
    | some due =>
      let (resumed, world) := resumeCalls branches (world.passTo due)
      match gather resumed world with
      | (.ended outcome, world) => (outcome, world)
      | (.waits branches, world) => await rounds branches world

/-- Makes calls at the same time. -/
def makeCalls (calls : List (Remote.Fetch Int)) (world : World) :
    Except Failure (List Int) × World :=
  let (started, world) := startCalls calls world
  match gather started world with
  | (.ended outcome, world) => (outcome, world)
  | (.waits branches, world) => await callRounds branches world

/-- Answers what a call asks. -/
def answerFetch (ask : Remote.Ask) (world : World) : Remote.Answer ask × World :=
  match ask with
  | .isHeldBack service => world.isHeldBack service
  | .report service success => ((), world.report service success)
  | .send request =>
    let ((due, reply), world) := world.send request
    (reply, world.passTo due)

/-- Answers what a check asks. -/
def answerCheck (budget : Budget) (ask : Check.Ask) (world : World) : Check.Answer ask × World :=
  match ask with
  | .remote ask => answerFetch ask world
  | .together calls => makeCalls calls world
  | .cached key =>
    let (found, cache) := world.cache.get key world.now
    (found, { world with cache })
  | .keep key value ttl => ((), { world with cache := world.cache.put key value ttl world.now })
  | .timeLeft wanted => (budget.timeLeft wanted world.now, world)
  | .pause seconds => ((), world.passTo (world.now.add (seconds.greatest 0)))
  | .clearLogs channel fid =>
    let (_, session) := world.session.write (.deleteLogs channel fid)
    ((), { world with session })

/-- Makes a call. -/
def runFetch (call : Remote.Fetch α) (world : World) : Except Failure α × World :=
  call.run answerFetch world

/-- Runs a check. -/
def runCheck (budget : Budget) (check : Task ε α) (world : World) : Except ε α × World :=
  check.run (answerCheck budget) world

end Curation.Rehearsal
