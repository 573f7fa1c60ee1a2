import Curation.Proofs.Moderation.Questions

/-! Sessions of the store under programs of moderation. The store answers from the
session and commits or takes back as it is told; the network, the clock and all else
may answer in any way. A statement about all exchanges that a session can have is
therefore one about every failure of a service, whenever it comes. -/
namespace Curation

/-- A session with nothing to commit. -/
def Store.Session.clean (tables : Tables) : Session := ⟨tables, tables⟩

namespace Moderation

open Program (Asks Runs runs_question answered_question)
open Store (Session Tables)

variable {α : Type}

/-- A question may be answered so, and leaves this session. An evaluation may write,
but it does not commit. -/
def Answers (before : Session) : (ask : Ask) → Answer ask → Session → Prop
  | .tables, tables, after => tables = before.working ∧ after = before
  | .write change, written, after => (written, after) = before.write change
  | .commit, _, after => after = before.commit
  | .rollback, _, after => after = before.rollback
  | .evaluate .., _, after => after.committed = before.committed
  | .remote _, _, after | .clock, _, after | .newId, _, after | .claim .., _, after
  | .release _, _, after => after = before

/-- The exchanges lead from one session to another. -/
abbrev Answered : Session → Transcript → Session → Prop := Program.Answered Answers

/-! ## Single questions -/

section Questions

variable {before after : Session} {exchanges : Transcript}

theorem tables_answered {outcome : Except Failure Tables} (run : Runs tables exchanges outcome)
    (answered : Answered before exchanges after) : outcome = .ok before.working ∧ after = before := by
  obtain ⟨tables, rfl, rfl⟩ := runs_question.mp run
  obtain ⟨rfl, rfl⟩ := answered_question.mp answered
  exact ⟨rfl, rfl⟩

theorem now_answered {outcome : Except Failure Moment} (run : Runs now exchanges outcome)
    (answered : Answered before exchanges after) : after = before := by
  have asks : now.Asks (· = Ask.clock) := now_asks rfl
  refine answered.keeps id run asks fun ask clock before answer after answers => ?_
  subst clock
  exact answers

theorem newId_answered {outcome : Except Failure String} (run : Runs newId exchanges outcome)
    (answered : Answered before exchanges after) : after = before := by
  obtain ⟨id, -, rfl⟩ := runs_question.mp run
  exact answered_question.mp answered

/-- A call of the network leaves the store alone. -/
theorem ofFetch_answered {call : Remote.Fetch α} {outcome : Except Failure α}
    (run : Runs (ofFetch call) exchanges outcome) (answered : Answered before exchanges after) :
    after = before := by
  let Keeps (ask : Ask) : Prop := ∀ before answer after, Answers before ask answer after → after = before
  have reads : AllowsReading Keeps :=
    ⟨fun _ _ _ _ same => same, fun _ _ _ same => same.2, fun _ _ _ same => same⟩
  exact answered.keeps id run (ofFetch_asks reads call) fun _ keeps => keeps

theorem onNetwork_answered {deployment : Deployment} {call : Remote.Fetch Unit} {outcome : Except Failure Unit}
    (run : Runs (onNetwork deployment call) exchanges outcome) (answered : Answered before exchanges after) :
    after = before := by
  unfold onNetwork at run
  split at run
  · exact ofFetch_answered run answered
  · cases run
    cases answered
    rfl

/-- A change is made, or refused and then nothing has changed. -/
theorem write_answered {change : Store.Change} {outcome : Except Failure Unit}
    (run : Runs (write change) exchanges outcome) (answered : Answered before exchanges after) :
    (outcome = .ok () ∧ after = { before with working := change.apply before.working }) ∨
      ∃ failure, outcome = .error failure ∧ after = before := by
  cases run with
  | ask written run =>
  cases answered with
  | @cons _ middle _ _ _ _ wrote answered =>
  have wrote : (written, middle) = before.write change := wrote
  unfold Session.write at wrote
  split at wrote
  · cases wrote
    cases run
    cases answered
    exact .inr ⟨_, rfl, rfl⟩
  · cases wrote
    cases run
    cases answered
    exact .inl ⟨rfl, rfl⟩

end Questions

/-! ## Carrying out -/

/-- What an action writes of itself adds no log and takes none away. -/
theorem effect_logs {change : Store.Change} (effect : change.isEffect = true) (tables : Tables) :
    (change.apply tables).logs = tables.logs := by
  cases change with
  | channel | delegate | cooldown | downvote => rfl
  | role | cast | addLog | updateLog | deleteLogs => cases effect

theorem write_committed {before after : Session} {change : Store.Change}
    {written : Except StoreFault Unit} (answers : (written, after) = before.write change) :
    after.committed = before.committed := by
  unfold Session.write at answers
  split at answers
  · cases answers
    rfl
  · cases answers
    rfl

private theorem write_logs {before after : Session} {change : Store.Change}
    {written : Except StoreFault Unit} (effect : change.isEffect = true)
    (answers : (written, after) = before.write change) : after.working.logs = before.working.logs := by
  unfold Session.write at answers
  split at answers
  · cases answers
    rfl
  · cases answers
    exact effect_logs effect before.working

section Carrying

variable {program : Moderation α} {outcome : Except Failure α} {exchanges : Transcript}
  {before after : Session}

/-- What is carried out commits nothing and leaves the logs alone. -/
theorem carrying_answered (run : Runs program exchanges outcome) (asks : program.Asks (·.isCarrying = true))
    (answered : Answered before exchanges after) :
    after.committed = before.committed ∧ after.working.logs = before.working.logs := by
  have same := answered.keeps (fun session => (session.committed, session.working.logs)) run asks ?_
  · exact Prod.mk.inj same
  · intro ask carrying before answer after answers
    cases ask with
    | remote | clock => rw [show after = before from answers]
    | tables => rw [show after = before from answers.2]
    | write change => rw [write_committed answers, write_logs carrying answers]
    | evaluate | commit | rollback | newId | claim | release => cases carrying

theorem carryOut_answered {deployment : Deployment} {case : Case} {action : Action}
    {outcome : Except Failure Unit} (run : Runs (carryOut deployment case action) exchanges outcome)
    (answered : Answered before exchanges after) :
    after.committed = before.committed ∧ after.working.logs = before.working.logs :=
  carrying_answered run (carryOut_asks deployment case action) answered

/-- Carrying out an action does not depend on what is committed. -/
theorem carryOut_rebased {deployment : Deployment} {case : Case} {action : Action}
    {outcome : Except Failure Unit} (run : Runs (carryOut deployment case action) exchanges outcome)
    (answered : Answered before exchanges after) (committed : Tables) :
    Answered { before with committed } exchanges { after with committed } := by
  have carrying := (carryOut_asks deployment case action).of_runs run
  clear run
  induction answered with
  | nil session => exact .nil _
  | @cons before middle after ask answer later answers _ ih =>
    refine .cons ?_ (ih fun exchange listed => carrying exchange (.tail _ listed))
    cases ask with
    | remote | clock => rw [show middle = before from answers]; rfl
    | tables => rw [answers.1, answers.2]; exact ⟨rfl, rfl⟩
    | write change =>
      have wrote : (answer, middle) = before.write change := answers
      simp only [Answers, Session.write] at wrote ⊢
      cases fault : change.fault? before.working with
      | some fault' =>
        rw [fault] at wrote
        cases wrote
        rfl
      | none =>
        rw [fault] at wrote
        cases wrote
        rfl
    | evaluate | commit | rollback | newId | claim | release => cases carrying _ (.head _)

end Carrying

end Moderation

end Curation
