import Curation.Proofs.Moderation.Serving

/-! A rehearsal serves from the session of its world. Calls and the clock leave the session
alone, so that while rules are evaluated only their checks reach it, where they clear log
entries. What a program of moderation does in a rehearsal is therefore one of the runs
that a session can serve, and what holds of all of these holds of it. -/
namespace Curation.Rehearsal

open Moderation
open Program (Runs)
open Remote (Fetch)

variable {ε α : Type} {case : Case}

/-! ## Calls -/

theorem advanceFetch_session (call : Fetch α) (world : World) :
    (advanceFetch call world).2.session = world.session :=
  congrArg (fun result => result.2.session) (advanceFetch_withSession world.session call world)

theorem startCalls_session (calls : List (Fetch Int)) (world : World) :
    (startCalls calls world).2.session = world.session :=
  congrArg (fun result => result.2.session) (startCalls_withSession world.session calls world)

theorem resumeCalls_session (branches : List Branch) (world : World) :
    (resumeCalls branches world).2.session = world.session :=
  congrArg (fun result => result.2.session) (resumeCalls_withSession world.session branches world)

theorem gather_session (calls : List (FetchProgress Int)) (world : World) :
    (gather calls world).2.session = world.session :=
  congrArg (fun result => result.2.session) (gather_withSession world.session calls world)

/-! ## Checks -/

/-- A question that a check of a case may ask of the store. -/
def MayClear (case : Case) : Check.Ask → Prop
  | .clearLogs channel fid =>
    channel = case.channel.id ∧ fid = toString case.user.fid ∧ case.simulation = false
  | _ => True

theorem taskOf_clears (deployment : Deployment) (case : Case) (leaf : Condition) :
    (taskOf deployment case leaf).Asks (MayClear case) := by
  refine (taskOf_asks deployment case leaf).mono fun ask asked => ?_
  rcases asked with looking | ⟨rfl, real⟩
  · cases ask with
    | clearLogs => exact looking.elim
    | remote | together | cached | keep | timeLeft | pause => trivial
  · exact ⟨rfl, rfl, real⟩

/-- A check under way that asks no other questions from now on. -/
inductive Progress.Clears (case : Case) : Progress ε α → Prop
  | ended (outcome : Except ε α) : Clears case (.ended outcome)
  | waits {due : Number} {rest : Task ε α} : rest.Asks (MayClear case) → Clears case (.waits due rest)
  | gathers {branches : List Branch} {rest : Except Failure (List Int) → Task ε α} :
    (∀ outcome, (rest outcome).Asks (MayClear case)) → Clears case (.gathers branches rest)

/-- The session is one that checks of a case may leave. -/
def Checks (case : Case) (before after : World) : Prop := case.Checked before.session after.session

theorem Checks.of_session {before after : World} (same : after.session = before.session) :
    Checks case before after := by
  unfold Checks
  rw [same]
  exact .untouched

theorem advance_checks {task : Task ε α} (asks : task.Asks (MayClear case)) (budget : Budget)
    (around : Surroundings) :
    Checks case around.world (advance budget task around).2.world ∧
      (advance budget task around).1.Clears case := by
  induction asks generalizing around with
  | done value | failed fault => exact ⟨.of_session rfl, .ended _⟩
  | @ask question next may rest ih =>
    -- From a world with a session that the checks may leave, the check goes on.
    have goesOn (answer : Check.Answer question) (around' : Surroundings)
        (checks : Checks case around.world around'.world) :
        Checks case around.world (advance budget (next answer) around').2.world ∧
          (advance budget (next answer) around').1.Clears case := by
      obtain ⟨later, clears⟩ := ih answer around'
      exact ⟨checks.trans later, clears⟩
    cases question with
    | remote question =>
      cases question with
      | isHeldBack service => exact goesOn _ _ (.of_session rfl)
      | report service success => exact goesOn _ _ (.of_session rfl)
      | send request =>
        simp only [advance]
        split
        · exact ⟨.of_session rfl, .waits (rest _)⟩
        · exact goesOn _ _ (.of_session rfl)
    | together calls =>
      have same : (gather (startCalls calls around.world).1 (startCalls calls around.world).2).2.session =
          around.world.session :=
        (gather_session _ _).trans (startCalls_session calls around.world)
      simp only [advance]
      split
      · rename_i outcome after gathered
        rw [gathered] at same
        exact goesOn outcome _ (.of_session same)
      · rename_i branches after gathered
        rw [gathered] at same
        exact ⟨.of_session same, .gathers rest⟩
    | cached key | keep key value ttl => exact goesOn _ _ (.of_session rfl)
    | timeLeft wanted => exact goesOn _ _ (.of_session rfl)
    | pause seconds =>
      simp only [advance]
      split
      · exact ⟨.of_session rfl, .waits (rest _)⟩
      · exact goesOn _ _ (.of_session rfl)
    | clearLogs channel fid =>
      obtain ⟨rfl, rfl, real⟩ := may
      exact goesOn _ _ (.cleared real)

theorem Progress.resume_checks {progress : Progress ε α} (clears : progress.Clears case) (budget : Budget)
    (around : Surroundings) :
    Checks case around.world (progress.resume budget around).2.world ∧
      (progress.resume budget around).1.Clears case := by
  cases clears with
  | ended outcome => exact ⟨.of_session rfl, .ended outcome⟩
  | waits rest => exact advance_checks rest budget around
  | @gathers branches rest asks =>
    have same : (gather (resumeCalls branches around.world).1 (resumeCalls branches around.world).2).2.session =
        around.world.session :=
      (gather_session _ _).trans (resumeCalls_session branches around.world)
    simp only [Progress.resume]
    split
    · rename_i outcome after gathered
      rw [gathered] at same
      obtain ⟨later, clears⟩ := advance_checks (asks outcome) budget { around with world := after }
      exact ⟨Case.Checked.trans (Checks.of_session same) later, clears⟩
    · rename_i branches' after gathered
      rw [gathered] at same
      exact ⟨.of_session same, .gathers asks⟩

/-! ## Moderation -/

/-- An evaluation leaves a session that the checks of its case may leave. -/
theorem evaluate_checks (stage : Stage) (case : Case) (rule : Rule) (strategy : OrStrategy) (world : World) :
    Checks case world (evaluate stage case rule strategy world).2 := by
  have leads : (planOf stage case strategy).Leads (fun _ => True) (Progress.Clears case) (Checks case) :=
    { refl := fun _ => .of_session rfl
      trans := Case.Checked.trans
      still := fun _ => trivial
      begins := fun leaf budget around _ =>
        advance_checks (taskOf_clears stage.deployment case leaf) budget around
      resumes := fun clears budget around _ => Progress.resume_checks clears budget around
      passes := fun time world _ => .of_session (passTo_session time world) }
  exact leads.evaluate rule trivial

/-- The store of a world serves from its session. -/
theorem answerModeration_serves (stage : Stage) (ask : Moderation.Ask) (world : World) :
    Serves world.session ask (answerModeration stage ask world).1
      (answerModeration stage ask world).2.session := by
  cases ask with
  | evaluate case rule strategy => exact evaluate_checks stage case rule strategy world
  | remote ask => exact answerModeration_answers stage (.remote ask) world rfl
  | tables => exact ⟨rfl, rfl⟩
  | write | commit | rollback | clock | newId | claim | release => rfl

/-- What a program of moderation does in a rehearsal is one of the runs that a session can
serve. -/
theorem run_served (stage : Stage) (program : Moderation α) (world : World) :
    ∃ transcript, Runs program transcript (program.run (answerModeration stage) world).1 ∧
      Served world.session transcript (program.run (answerModeration stage) world).2.session := by
  induction program generalizing world with
  | done value => exact ⟨[], .done value, .nil _⟩
  | failed failure => exact ⟨[], .failed failure, .nil _⟩
  | ask question next ih =>
    obtain ⟨transcript, run, served⟩ := ih _ (answerModeration stage question world).2
    exact ⟨_, .ask _ run, .cons (answerModeration_serves stage question world) served⟩

end Curation.Rehearsal
