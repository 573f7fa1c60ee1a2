import Curation.Moderation.Basic
import Curation.Rehearsal.Evaluating

/-!
Scripted checks. What such a check does is written down beforehand: it waits, asks how much time is
left, and then fails or answers. What it answers may tell what it was asked about.
-/
namespace Curation.Rehearsal
open Moderation (Case)

/-- What a check does. -/
structure Script where
  delay : Number
  /-- The time for a call that it asks for, if it asks. -/
  asks : Option (Option Number)
  /-- The failure that it ends in, by its name and its message. -/
  failure : Option (String × String)
  result : Bool
  message : String
  /-- Whether its message tells what it was asked about. -/
  echoes : Bool
  deriving Repr, Inhabited

/-- How a scripted check fails. -/
inductive ScriptFault where
  | raised (name message : String)
  | noTimeLeft
  deriving DecidableEq, Repr

/-- The script of a check of a name. -/
def Script.ofJson (name : String) (script : Json) : Script :=
  let field (member : String) : Option Json := Json.Members.get? member script.ownMembers
  { delay := ((field "delay").bind Json.toNumber?).getD 0
    asks := (field "ask").map Json.toNumber?
    failure := match field "raise" with
      | some (.str failure) => some (failure, ((field "message").getD .null).textOrEmpty)
      | _ => none
    result := ((field "result").getD (.bool true)).truthy
    message := ((field "message").getD (.str name)).textOrEmpty
    echoes := ((field "echo").getD .null).truthy }

/-- What a check was asked about. -/
def echo (case : Case) (leaf : Condition) : String :=
  let hash := case.cast.elim "None" (·.hash)
  let args := (Json.sortNames (.obj leaf.args)).spaced
  let simulation := (Json.bool case.simulation).display
  s!"{case.channel.id}/{case.user.fid}/{hash}/{args}/{simulation}"

/-- A check that does what its script says. -/
def Script.task (script : Script) (case : Case) (leaf : Condition) : Task ScriptFault Verdict := do
  let _ : Unit ← .ask (.pause script.delay) .done
  if let some wanted := script.asks then
    let time : Option Number ← .ask (.timeLeft wanted) .done
    if time.isNone then throw .noTimeLeft
  if let some (name, message) := script.failure then throw (.raised name message)
  return ⟨script.result, if script.echoes then echo case leaf else script.message⟩

/-- The word for how a check ended. One without time left counts as stopped. -/
def CallOutcome.name : CallOutcome ScriptFault → String
  | .done => "done"
  | .raised (.raised ..) => "raised"
  | .raised .noTimeLeft | .cancelled => "cancelled"

/-- The order of records: by start, check, end and outcome. -/
def CallRecord.before (a b : CallRecord ScriptFault) : Bool :=
  if a.start.lt b.start then true else if b.start.lt a.start then false
  else if a.check != b.check then decide (a.check ≤ b.check)
  else if a.finish.lt b.finish then true else if b.finish.lt a.finish then false
  else decide (a.outcome.name ≤ b.outcome.name)

end Curation.Rehearsal
