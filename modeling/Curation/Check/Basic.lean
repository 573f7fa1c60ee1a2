import Curation.Channel.Basic
import Curation.Check.Definition
import Curation.Remote.Accounts

/-!
Checks: programs that look at a user, and at a cast on the way of casts, and say whether they
trigger. They may call remote services, keep answers in the cache, and ask how much time is left.
-/
namespace Curation

/-- Whether a check triggers, and why. -/
structure Verdict where
  passed : Bool
  message : String
  deriving DecidableEq, Repr, Inhabited

namespace Check

/-- What a check may look at. -/
structure Context where
  channel : Channel
  user : User
  cast : Option Cast
  args : Json.Members
  directory : Remote.Directory
  /-- Whether nothing may be changed. -/
  simulation : Bool
  /-- Whether there are logs to work with. -/
  hasLogs : Bool

/-- What a check asks of its surroundings. -/
inductive Ask where
  | remote (ask : Remote.Ask)
  /-- Runs programs at the same time, up to the first that fails. -/
  | together (programs : List (Remote.Fetch Int))
  | cached (key : String)
  | keep (key : String) (value : Json) (ttl : Number)
  /-- The time for a call: as much as wanted, at most what the evaluation has left. -/
  | timeLeft (wanted : Option Number)
  | pause (seconds : Number)
  | clearLogs (channel fid : String)

def Answer : Ask → Type
  | .remote ask => Remote.Answer ask
  | .together _ => Except Failure (List Int)
  | .cached _ => Option Json
  | .keep .. => Unit
  | .timeLeft _ => Option Number
  | .pause _ => Unit
  | .clearLogs .. => Unit

end Check

/-- A check at work. -/
abbrev Check := Program Check.Ask Check.Answer Failure

namespace Check

def ofFetch {α : Type} (fetch : Remote.Fetch α) : Check α :=
  fetch.within .remote fun _ answer => answer

instance : MonadLift Remote.Fetch Check where
  monadLift := ofFetch

instance : MonadLift (Except Misuse) Check where
  monadLift
    | .ok value => .done value
    | .error cause => .failed (.misuse cause)

instance : MonadLift (Except Chain.WordFault) Check where
  monadLift
    | .ok value => .done value
    | .error fault => .failed (.word fault)

/-- Runs programs at the same time; the first that fails fails them all. -/
def together (programs : List (Remote.Fetch Int)) : Check (List Int) := do
  let results : Except Failure (List Int) ← .ask (.together programs) .done
  .ofExcept results

def cached (key : String) : Check (Option Json) := .ask (.cached key) .done

def keep (key : String) (value : Json) (ttl : Number) : Check Unit :=
  .ask (.keep key value ttl) .done

/-- The cached value under a key, or a fresh one, which is kept. -/
def cachedOr (key : String) (ttl : Number) (fresh : Check Json) : Check Json := do
  match ← cached key with
  | some value => return value
  | none =>
    let value ← fresh
    keep key value ttl
    return value

/-- The time for a call; fails when none is left. -/
def timeLeft (wanted : Option Number) : Check Number := do
  let left : Option Number ← .ask (.timeLeft wanted) .done
  match left with
  | some seconds => return seconds
  | none => throw .noTimeLeft

def clearLogs (channel fid : String) : Check Unit := .ask (.clearLogs channel fid) .done

namespace Context

def arg? (ctx : Context) (name : String) : Option Json := Json.Members.get? name ctx.args

/-- An argument, or null where it is absent. -/
def arg (ctx : Context) (name : String) : Json := (ctx.arg? name).getD .null

/-- An argument that has to be there. -/
def needed (ctx : Context) (name : String) : Except Misuse Json := (Json.obj ctx.args).entry name

/-- The text of an argument; the empty text where it is absent. -/
def argText (ctx : Context) (name : String) : String := ((ctx.arg? name).getD (.str "")).display

def isSet (ctx : Context) (name : String) : Bool := (ctx.arg name).truthy

end Context

/-- A check with its definition. -/
structure Entry where
  definition : Definition
  run : Context → Check Verdict

/-- The two outcomes of a test, each with its reason. -/
def verdict (passed : Bool) (yes no : String) : Verdict :=
  if passed then ⟨true, yes⟩ else ⟨false, no⟩

/-- A number in a check's arguments: absent and blank ones are none. -/
def number? : Json → Except Misuse (Option Int)
  | .null | .str "" => .ok none
  | value => do return some (← value.toWhole)

end Check

end Curation
