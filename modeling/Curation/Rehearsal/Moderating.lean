import Curation.Check.Catalogue
import Curation.Moderation.Basic
import Curation.Rehearsal.Evaluating
import Curation.Rehearsal.Progress

/-!
Moderation in a rehearsal: rules are evaluated with the checks of the catalogue, and what is written
goes to the store of the world.
-/
namespace Curation.Rehearsal
open Moderation (Case Deployment)

/-- A deployment, with the time that its evaluations and their calls have. -/
structure Stage where
  deployment : Deployment
  limit : Number
  callTime : Number

/-- What a check may look at in a case. -/
def contextOf (deployment : Deployment) (case : Case) (leaf : Condition) : Check.Context :=
  { channel := case.channel
    user := case.user
    cast := case.cast
    args := leaf.args
    directory := deployment.directory
    simulation := case.simulation
    hasLogs := true }

/-- What a leaf of a case's rules does. -/
def taskOf (deployment : Deployment) (case : Case) (leaf : Condition) : Task Failure Verdict :=
  match Check.byName? leaf.name with
  | some entry => entry.run (contextOf deployment case leaf)
  | none => .failed (.configuration (.unknownCheck leaf.name))

def planOf (stage : Stage) (case : Case) (strategy : OrStrategy) : Plan Failure :=
  { manner :=
      { known := fun name => (stage.deployment.registry.find? name).isSome, strategy }
    task := taskOf stage.deployment case
    permits := stage.deployment.permits.toNat
    limit := stage.limit
    callTime := stage.callTime }

/-- The failure of an evaluation, in its own words. -/
def failureOf (limit : Number) : EvaluationFault Failure → Failure
  | .unknownCheck name => .configuration (.unknownCheck name)
  | .check failure => failure
  | .overran => .overran limit

def evaluate (stage : Stage) (case : Case) (rule : Rule) (strategy : OrStrategy) (world : World) :
    Except Failure Decision × World :=
  let (outcome, _, world) := (planOf stage case strategy).evaluate rule world
  (outcome.mapError (failureOf stage.limit), world)

/-- Answers what moderation asks. -/
def answerModeration (stage : Stage) (ask : Moderation.Ask) (world : World) :
    Moderation.Answer ask × World :=
  match ask with
  | .remote ask => answerFetch ask world
  | .evaluate case rule strategy => evaluate stage case rule strategy world
  | .tables => (world.session.working, world)
  | .write change =>
    let (written, session) := world.session.write change
    (written, { world with session })
  | .commit => ((), { world with session := world.session.commit })
  | .rollback => ((), { world with session := world.session.rollback })
  | .clock => (world.clock?, world)
  | .newId => world.newId
  | .claim key ttl =>
    let (taken, cache) := world.cache.claim key ttl world.now
    (taken, { world with cache })
  | .release key => ((), { world with cache := world.cache.release key })

/-- Runs a program of moderation in a session of its own, which is undone as far as it was not
committed. -/
def runModeration {α : Type} (stage : Stage) (program : Moderation α) (world : World) :
    Except Failure α × World :=
  let (result, world) := program.run (answerModeration stage) world
  (result, { world with session := world.session.rollback })

end Curation.Rehearsal
