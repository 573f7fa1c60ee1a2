import Curation.Evaluation.Turns
import Curation.Rehearsal.Progress

/-!
Evaluations in a rehearsal. At every moment the checks that can go on do so first; then the tree is
settled; then the clock goes on to the next time at which something happens. What would only happen
at the deadline comes too late.
-/
namespace Curation.Rehearsal

variable {ε : Type}

/-- How an evaluation is to be carried out: what each check does, how many may be at work at a time,
how long all may take together, and how long a call of a check that does not say. -/
structure Plan (ε : Type) where
  manner : Evaluation.Manner
  task : Condition → Task ε Verdict
  permits : Nat
  limit : Number
  callTime : Number

inductive CallOutcome (ε : Type) where
  | done
  | raised (fault : ε)
  | cancelled

/-- The record of a check that was at work. -/
structure CallRecord (ε : Type) where
  check : String
  start : Number
  finish : Number
  outcome : CallOutcome ε
  granted : Option Number

/-- A check at work. -/
structure Call (ε : Type) where
  start : Number
  granted : Option Number
  progress : Progress ε Verdict

structure State (ε : Type) where
  evaluation : Evaluation (Call ε) ε
  world : World
  records : List (CallRecord ε) := []
  /-- Whether there may be something to decide in the tree. -/
  isUnsettled : Bool := true

namespace State

/-- Takes in how far a check got. -/
def take (path : Evaluation.Node.Path) (ticket : Nat) (leaf : Condition) (start : Number)
    (progress : Progress ε Verdict) (around : Surroundings) (state : State ε) : State ε :=
  let record (outcome : CallOutcome ε) : CallRecord ε :=
    ⟨leaf.name, start, around.world.now, outcome, around.granted⟩
  let state := { state with world := around.world }
  match progress with
  | .ended (.ok verdict) =>
    { state with
      evaluation := state.evaluation.finish path (.ok (.ofVerdict leaf verdict))
      records := record .done :: state.records
      isUnsettled := true }
  | .ended (.error fault) =>
    { state with
      evaluation := state.evaluation.finish path (.error (.check fault))
      records := record (.raised fault) :: state.records
      isUnsettled := true }
  | progress =>
    { state with
      evaluation :=
        state.evaluation.putSlot path leaf (.atWork ticket ⟨start, around.granted, progress⟩) }

/-- Records the checks that were stopped now. One that was stopped as soon as it began does not
count. -/
def stop (stopped : List (Evaluation.Working (Call ε))) (state : State ε) : State ε :=
  let records := stopped.filterMap fun working =>
    let call := working.call
    if call.start.eq state.world.now then none
    else some ⟨working.leaf.name, call.start, state.world.now, .cancelled, call.granted⟩
  { state with records := records ++ state.records }

/-- Settles the tree and stops what is not needed any more. -/
def settle (manner : Evaluation.Manner) (state : State ε) : State ε :=
  let before := state.evaluation.working
  let evaluation := state.evaluation.settle manner
  let left := evaluation.working.map (·.ticket)
  { state with evaluation, isUnsettled := !evaluation.tree.isSettled }.stop
    (before.filter fun working => !left.contains working.ticket)

/-- A check at work that can go on now. -/
def due? (state : State ε) : Option (Evaluation.Working (Call ε)) :=
  state.evaluation.working.find? fun working =>
    working.call.progress.due?.any fun due => due.le state.world.now

/-- When the next check can go on. -/
def nextDue? (state : State ε) : Option Number :=
  earliest? (state.evaluation.working.filterMap fun working => working.call.progress.due?)

/-- The time is over: everything stops. -/
def overrun (deadline : Number) (state : State ε) :
    Except (EvaluationFault ε) Decision × State ε :=
  let state := { state with world := state.world.passTo deadline }
  (.error .overran, state.stop state.evaluation.working)

end State

/-- Carries an evaluation on, for so many rounds at most. -/
def Plan.carryOn (plan : Plan ε) (budget : Budget) (deadline : Number) :
    Nat → State ε → Except (EvaluationFault ε) Decision × State ε
  | 0, state => state.overrun deadline
  | rounds + 1, state =>
    let state := { state with evaluation := state.evaluation.lineUp }
    match state.evaluation.tree.outcome? with
    | some outcome => (outcome, state)
    | none =>
      match state.evaluation.next? plan.permits with
      | some (path, ticket, leaf) =>
        let (progress, around) := advance budget (plan.task leaf) { world := state.world }
        plan.carryOn budget deadline rounds
          (state.take path ticket leaf state.world.now progress around)
      | none =>
        match state.due? with
        | some working =>
          let (progress, around) := working.call.progress.resume budget
            { world := state.world, granted := working.call.granted }
          plan.carryOn budget deadline rounds
            (state.take working.path working.ticket working.leaf working.call.start progress around)
        | none =>
          if state.isUnsettled then
            plan.carryOn budget deadline rounds (state.settle plan.manner)
          else
            match state.nextDue? with
            | none => state.overrun deadline
            | some due =>
              if due.lt deadline then
                plan.carryOn budget deadline rounds
                  { state with world := state.world.passTo due }
              else state.overrun deadline

/-- More rounds than an evaluation takes. -/
def rounds : Nat := 1000000

/-- Evaluates a rule: the outcome, the records of its checks, and the world afterwards. -/
def Plan.evaluate (plan : Plan ε) (rule : Rule) (world : World) :
    Except (EvaluationFault ε) Decision × List (CallRecord ε) × World :=
  if plan.limit.le 0 then (.error .overran, [], world)
  else
    let deadline := world.now.add plan.limit
    let budget : Budget := { deadline := some deadline, callTime := plan.callTime }
    let (outcome, state) :=
      plan.carryOn budget deadline rounds { evaluation := .begin_ plan.manner rule, world }
    (outcome, state.records, state.world)

end Curation.Rehearsal
