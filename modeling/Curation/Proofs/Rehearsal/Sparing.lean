import Curation.Proofs.Evaluation.Relabel
import Curation.Proofs.Rehearsal.Sessions
import Curation.Rehearsal.Evaluating

/-! Rehearsals of evaluations whose checks clear no logs. Such an evaluation goes
through the same rounds as the one it was made from, in a world that differs in the
session of the store alone, and so it ends with the same outcome at the same time. -/
namespace Curation.Rehearsal

open Evaluation (Slot Working)

variable {ε : Type} (session : Store.Session)

/-- A check at work without its requests to clear logs. -/
def Call.spare (call : Call ε) : Call ε := { call with progress := call.progress.spare }

/-- The same with an evaluation whose checks clear no logs and with another session. -/
def State.spared (session : Store.Session) (state : State ε) : State ε :=
  { state with
    evaluation := state.evaluation.map Call.spare
    world := state.world.withSession session }

/-- The same plan for checks that clear no logs. -/
def Plan.spared (plan : Plan ε) : Plan ε :=
  { plan with task := fun leaf => Check.spare (plan.task leaf) }

namespace State

variable (state : State ε)

theorem take_spared (path : Evaluation.Node.Path) (ticket : Nat) (leaf : Condition) (start : Number)
    (progress : Progress ε Verdict) (around : Surroundings) :
    (state.spared session).take path ticket leaf start progress.spare (around.withSession session) =
      (state.take path ticket leaf start progress around).spared session := by
  cases progress with
  | ended outcome =>
    cases outcome with
    | ok verdict | error fault =>
      simp only [take, Progress.spare, spared, Evaluation.finish_map]
      rfl
  | waits due rest =>
    have placed := Evaluation.putSlot_map Call.spare state.evaluation path leaf
      (.atWork ticket ⟨start, around.granted, .waits due rest⟩)
    simp only [take, spared, ← placed]
    rfl
  | gathers branches rest =>
    have placed := Evaluation.putSlot_map Call.spare state.evaluation path leaf
      (.atWork ticket ⟨start, around.granted, .gathers branches rest⟩)
    simp only [take, spared, ← placed]
    rfl

theorem stop_spared (stopped : List (Working (Call ε))) :
    (state.spared session).stop (stopped.map (Working.map Call.spare)) =
      (state.stop stopped).spared session := by
  simp only [stop, spared, List.filterMap_map]
  rfl

theorem lineUp_spared :
    ({ state.spared session with evaluation := (state.spared session).evaluation.lineUp } : State ε) =
      State.spared session { state with evaluation := state.evaluation.lineUp } := by
  simp only [spared, Evaluation.lineUp_map]

theorem settle_spared (manner : Evaluation.Manner) :
    (state.spared session).settle manner = (state.settle manner).spared session := by
  have tickets (evaluation : Evaluation (Call ε) ε) :
      (evaluation.map Call.spare).working.map (·.ticket) = evaluation.working.map (·.ticket) := by
    rw [Evaluation.working_map, List.map_map]
    rfl
  have before := Evaluation.working_map Call.spare state.evaluation
  have settled (evaluation : Evaluation (Call ε) ε) :
      (evaluation.map Call.spare).tree.isSettled = evaluation.tree.isSettled :=
    Evaluation.Node.isSettled_map (Evaluation.Slot.map Call.spare) evaluation.tree
  simp only [settle, spared, Evaluation.settle_map, tickets, before, settled, List.filter_map]
  exact stop_spared session { state with
    evaluation := state.evaluation.settle manner
    isUnsettled := !(state.evaluation.settle manner).tree.isSettled } _

theorem due?_spared :
    (state.spared session).due? = state.due?.map (Working.map Call.spare) := by
  simp only [due?, spared, Evaluation.working_map, List.find?_map]
  congr 2
  funext working
  simp only [Function.comp_apply, Working.map, Call.spare, Progress.due?_spare, now_withSession]

theorem nextDue?_spared : (state.spared session).nextDue? = state.nextDue? := by
  simp only [nextDue?, spared, Evaluation.working_map, List.filterMap_map]
  congr 2
  funext working
  exact Progress.due?_spare _

theorem passTo_spared (time : Number) :
    ({ state.spared session with world := (state.spared session).world.passTo time } : State ε) =
      State.spared session { state with world := state.world.passTo time } := by
  simp only [spared, passTo_withSession]

theorem overrun_spared (deadline : Number) :
    (state.spared session).overrun deadline =
      ((state.overrun deadline).1, (state.overrun deadline).2.spared session) := by
  have stopped := stop_spared session { state with world := state.world.passTo deadline }
    state.evaluation.working
  simp only [overrun, spared, passTo_withSession, Evaluation.working_map] at stopped ⊢
  rw [stopped]

end State

/-- Each round with checks that clear no logs is the round that it was made from. -/
theorem Plan.carryOn_spared (plan : Plan ε) (budget : Budget) (deadline : Number) (rounds : Nat)
    (state : State ε) :
    plan.spared.carryOn budget deadline rounds (state.spared session) =
      ((plan.carryOn budget deadline rounds state).1,
        (plan.carryOn budget deadline rounds state).2.spared session) := by
  induction rounds generalizing state with
  | zero => exact state.overrun_spared session deadline
  | succ rounds ih =>
    unfold carryOn
    rw [state.lineUp_spared session]
    generalize ({ state with evaluation := state.evaluation.lineUp } : State ε) = state
    have same : (state.spared session).evaluation.tree.outcome? = state.evaluation.tree.outcome? :=
      Evaluation.Node.outcome?_map _ _
    have next : (state.spared session).evaluation.next? plan.spared.permits =
        state.evaluation.next? plan.permits := Evaluation.next?_map _ _ _
    simp only [same, next, State.due?_spared, State.nextDue?_spared]
    cases state.evaluation.tree.outcome? with
    | some outcome => rfl
    | none =>
    simp only
    cases state.evaluation.next? plan.permits with
    | some entry =>
      obtain ⟨path, ticket, leaf⟩ := entry
      have advanced : advance budget (plan.spared.task leaf) { world := (state.spared session).world } =
          sparing session (advance budget (plan.task leaf) { world := state.world }) :=
        advance_spare session budget (plan.task leaf) { world := state.world }
      simp only [advanced]
      rw [← ih, ← State.take_spared]
      rfl
    | none =>
    simp only
    cases state.due? with
    | some working =>
      have resumed : (working.map Call.spare).call.progress.resume budget
          { world := (state.spared session).world, granted := working.call.granted } =
          sparing session (working.call.progress.resume budget
            { world := state.world, granted := working.call.granted }) :=
        Progress.resume_spare session budget working.call.progress
          { world := state.world, granted := working.call.granted }
      simp only [Option.map_some]
      rw [← ih, ← State.take_spared]
      have granted : (working.map Call.spare).call.granted = working.call.granted := rfl
      simp only [granted, resumed]
      rfl
    | none =>
    have unsettled : (state.spared session).isUnsettled = state.isUnsettled := rfl
    simp only [Option.map_none, unsettled]
    by_cases pending : state.isUnsettled
    · simp only [if_pos pending]
      rw [← ih, ← State.settle_spared]
      rfl
    simp only [if_neg pending]
    cases state.nextDue? with
    | none => exact state.overrun_spared session deadline
    | some due =>
      by_cases early : due.lt deadline
      · simp only [if_pos early]
        rw [← ih, ← State.passTo_spared]
        rfl
      · simp only [if_neg early]
        exact state.overrun_spared session deadline

/-- An evaluation ends alike with checks that clear no logs, whatever the session. -/
theorem Plan.evaluate_spared (plan : Plan ε) (rule : Rule) (world : World) :
    plan.spared.evaluate rule (world.withSession session) =
      ((plan.evaluate rule world).1, (plan.evaluate rule world).2.1,
        (plan.evaluate rule world).2.2.withSession session) := by
  have carried := plan.carryOn_spared session
    { deadline := some (world.now.add plan.limit), callTime := plan.callTime }
    (world.now.add plan.limit) rounds { evaluation := .begin_ plan.manner rule, world }
  simp only [State.spared, Evaluation.map_begin] at carried
  unfold evaluate
  by_cases late : plan.limit.le 0
  · have same : plan.spared.limit.le 0 = true := late
    simp only [if_pos late, if_pos same]
  · have same : ¬ plan.spared.limit.le 0 = true := late
    simp only [if_neg late, if_neg same]
    exact congrArg (fun result => (result.1, result.2.records, result.2.world)) carried

end Curation.Rehearsal
