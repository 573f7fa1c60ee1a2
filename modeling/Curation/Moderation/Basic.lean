import Curation.Check.Registry
import Curation.Evaluation.Decision
import Curation.Remote.Directory
import Curation.Store.Change

/-!
Moderation at work: programs that call remote services, have rules evaluated, and read and change
the store. What they write is kept when they commit and undone when they roll back.
-/
namespace Curation

namespace Moderation

/-- What is judged: a user who asks to join, or a cast and its author. -/
structure Case where
  channel : Channel
  user : User
  cast : Option Cast
  /-- Whether nothing may be changed. -/
  simulation : Bool

/-- What moderation asks of its surroundings. -/
inductive Ask where
  | remote (ask : Remote.Ask)
  | evaluate (case : Case) (rule : Rule) (strategy : OrStrategy)
  | tables
  | write (change : Store.Change)
  | commit
  | rollback
  | clock
  | newId
  | claim (key : String) (ttl : Number)
  | release (key : String)

def Answer : Ask → Type
  | .remote ask => Remote.Answer ask
  | .evaluate .. => Except Failure Decision
  | .tables => Store.Tables
  | .write _ => Except StoreFault Unit
  | .commit | .rollback => Unit
  | .clock => Option Moment
  | .newId => String
  | .claim .. => Bool
  | .release _ => Unit

/-- The deployment that moderates. -/
structure Deployment where
  directory : Remote.Directory
  registry : Registry
  /-- Whether invitations, hidings and bans are carried out on the network. -/
  executes : Bool
  /-- For how many seconds a cast is claimed. -/
  claimTime : Int
  /-- How many checks may be at work at a time. -/
  permits : Int

end Moderation

/-- A program of moderation. -/
abbrev Moderation := Program Moderation.Ask Moderation.Answer Failure

namespace Moderation

def ofFetch {α : Type} (fetch : Remote.Fetch α) : Moderation α :=
  fetch.within .remote fun _ answer => answer

instance : MonadLift Remote.Fetch Moderation where
  monadLift := ofFetch

instance : MonadLift (Except Failure) Moderation where
  monadLift := .ofExcept

def evaluate (case : Case) (rule : Rule) (strategy : OrStrategy) : Moderation Decision := do
  let decided : Except Failure Decision ← .ask (.evaluate case rule strategy) .done
  .ofExcept decided

/-- What the store holds, with what this program has written. -/
def tables : Moderation Store.Tables := .ask .tables .done

def write (change : Store.Change) : Moderation Unit := do
  let written : Except StoreFault Unit ← .ask (.write change) .done
  match written with
  | .ok () => return ()
  | .error fault => throw (.store fault)

def commit : Moderation Unit := .ask .commit .done

def rollback : Moderation Unit := .ask .rollback .done

/-- The time of day. -/
def now : Moderation Moment := do
  let time : Option Moment ← .ask .clock .done
  match time with
  | some moment => return moment
  | none => throw .dateOutOfRange

def newId : Moderation String := .ask .newId .done

/-- A deployment whose checks could never run does not start to moderate. -/
def ready (deployment : Deployment) : Moderation Unit :=
  if deployment.permits < 1 then throw .noConcurrency else return ()

/-- Takes a key; false if somebody holds it. -/
def claim (key : String) (ttl : Number) : Moderation Bool := .ask (.claim key ttl) .done

def release (key : String) : Moderation Unit := .ask (.release key) .done

end Moderation

end Curation
