import Curation.Proofs.Check.Simulation
import Curation.Proofs.Moderation.Answering
import Curation.Rehearsal.Moderating

/-! Worlds that differ only in the session of their store. Calls and the clock do not
look at it, so a world goes on the same with another session in it; and a check
without its requests to clear logs gets as far as the check itself, leaving any
session as it is. -/
namespace Curation.Rehearsal

open Remote (Fetch)
open Check (spare)

variable {ε α : Type} (session : Store.Session)

namespace World

/-- The same world with another session of the store. -/
def withSession (session : Store.Session) (world : World) : World := { world with session }

end World

/-- What came of something, with another session in the world it left. -/
def inSession (session : Store.Session) (result : α × World) : α × World :=
  (result.1, result.2.withSession session)

@[simp] theorem now_withSession (world : World) : (world.withSession session).now = world.now := rfl

/-! ## Calls -/

theorem send_withSession (request : Remote.Request) (world : World) :
    (world.withSession session).send request = inSession session (world.send request) := rfl

theorem advanceFetch_withSession (call : Fetch α) (world : World) :
    advanceFetch call (world.withSession session) = inSession session (advanceFetch call world) := by
  induction call generalizing world with
  | done value | failed failure => rfl
  | ask question next ih =>
    cases question with
    | isHeldBack service => exact ih _ (world.isHeldBack service).2
    | report service success => exact ih _ (world.report service success)
    | send request =>
      simp only [advanceFetch, send_withSession]
      by_cases later : (world.send request).2.now.lt (world.send request).1.1
      · simp [inSession, later]
      · simpa [inSession, later] using ih _ (world.send request).2

theorem startCalls_withSession (calls : List (Fetch Int)) (world : World) :
    startCalls calls (world.withSession session) = inSession session (startCalls calls world) := by
  induction calls generalizing world with
  | nil => rfl
  | cons call rest ih => simp only [startCalls, advanceFetch_withSession, inSession, ih]

theorem resumeCalls_withSession (branches : List Branch) (world : World) :
    resumeCalls branches (world.withSession session) =
      inSession session (resumeCalls branches world) := by
  induction branches generalizing world with
  | nil => rfl
  | cons branch rest ih =>
    cases branch with
    | ended value => simp only [resumeCalls, ih, inSession]
    | waits due call =>
      by_cases ready : due.le world.now
      · simp [resumeCalls, ready, advanceFetch_withSession, inSession, ih]
      · simp [resumeCalls, ready, inSession, ih]

theorem gather_withSession (calls : List (FetchProgress Int)) (world : World) :
    gather calls (world.withSession session) = inSession session (gather calls world) := by
  unfold gather
  cases firstFailure? calls with
  | some failure => rfl
  | none =>
    cases ended : values? (branches calls) with
    | some values | none => simp [ended, inSession]

/-! ## The clock -/

theorem carryOn_withSession (adrift : List (Number × Fetch Int)) (world : World) :
    World.carryOn adrift (world.withSession session) =
      (World.carryOn adrift world).withSession session := by
  induction adrift generalizing world with
  | nil => rfl
  | cons entry rest ih =>
    obtain ⟨due, call⟩ := entry
    have same := advanceFetch_withSession session call { world with now := due }
    simp only [World.withSession] at same
    simp only [World.carryOn, World.withSession, same, inSession]
    generalize advanceFetch call { world with now := due } = advanced
    obtain ⟨progress, after⟩ := advanced
    cases progress with
    | ended outcome => exact ih after
    | waits due call => exact ih { after with adrift := after.adrift ++ [(due, call)] }

theorem passTo_withSession (time : Number) (world : World) :
    (world.withSession session).passTo time = (world.passTo time).withSession session := by
  simp only [World.passTo]
  have same := carryOn_withSession session
    ((world.adrift.filter fun call => call.1.le time).mergeSort fun a b => a.1.le b.1)
    { world with adrift := world.adrift.filter fun call => !call.1.le time }
  simp only [World.withSession] at same ⊢
  rw [same]

theorem passTo_session (time : Number) (world : World) :
    (world.passTo time).session = world.session := by
  have same : world.passTo time = (world.passTo time).withSession world.session :=
    passTo_withSession world.session time world
  rw [same]
  rfl

/-! ## Moderation -/

/-- The store of a world answers from its session. -/
theorem answerModeration_answers (stage : Stage) (ask : Moderation.Ask) (world : World)
    (acting : ask.isActing = true) :
    Moderation.Answers world.session ask (answerModeration stage ask world).1
      (answerModeration stage ask world).2.session := by
  cases ask with
  | remote ask =>
    cases ask with
    | isHeldBack | report => rfl
    | send request => exact passTo_session _ (world.send request).2
  | tables => exact ⟨rfl, rfl⟩
  | write | commit | rollback | clock | newId => rfl
  | evaluate | claim | release => cases acting

/-- What a program that acts does in a rehearsal is one of the runs that a session can
have. -/
theorem run_answered {program : Moderation α} (asks : program.Asks (·.isActing = true)) (stage : Stage)
    (world : World) :
    ∃ exchanges, Program.Runs program exchanges (program.run (answerModeration stage) world).1 ∧
      Moderation.Answered world.session exchanges
        (program.run (answerModeration stage) world).2.session := by
  induction asks generalizing world with
  | done value => exact ⟨[], .done value, .nil _⟩
  | failed failure => exact ⟨[], .failed failure, .nil _⟩
  | @ask question next acting _ ih =>
    obtain ⟨exchanges, run, answered⟩ := ih _ (answerModeration stage question world).2
    exact ⟨_, .ask _ run, .cons (answerModeration_answers stage question world acting) answered⟩

/-! ## Checks -/

/-- A check under way without its requests to clear logs. -/
def Progress.spare : Progress ε α → Progress ε α
  | .ended outcome => .ended outcome
  | .waits due rest => .waits due (Check.spare rest)
  | .gathers branches rest => .gathers branches fun outcome => Check.spare (rest outcome)

def Surroundings.withSession (session : Store.Session) (around : Surroundings) : Surroundings :=
  { around with world := around.world.withSession session }

/-- How far a check got and where, without its requests to clear logs and with another
session. -/
def sparing (session : Store.Session) (result : Progress ε α × Surroundings) :
    Progress ε α × Surroundings :=
  (result.1.spare, result.2.withSession session)

theorem advance_spare (budget : Budget) (task : Task ε α) (around : Surroundings) :
    advance budget (spare task) (around.withSession session) =
      sparing session (advance budget task around) := by
  induction task generalizing around with
  | done value | failed fault => rfl
  | ask question next ih =>
    cases question with
    | remote question =>
      cases question with
      | isHeldBack service =>
        exact ih _ { around with world := (around.world.isHeldBack service).2 }
      | report service success => exact ih _ { around with world := around.world.report service success }
      | send request =>
        simp only [spare, advance, Surroundings.withSession, send_withSession]
        by_cases later : (around.world.send request).2.now.lt (around.world.send request).1.1
        · simp [inSession, later, sparing, Progress.spare, Surroundings.withSession]
        · simpa [inSession, later, Surroundings.withSession] using
            ih _ { around with world := (around.world.send request).2 }
    | together calls =>
      simp only [spare, advance, Surroundings.withSession, startCalls_withSession, inSession,
        gather_withSession]
      generalize gather (startCalls calls around.world).1 (startCalls calls around.world).2 = gathered
      obtain ⟨gathered, world⟩ := gathered
      cases gathered with
      | ended outcome => exact ih outcome { around with world }
      | waits branches => rfl
    | cached key =>
      exact ih _ { around with
        world := { around.world with cache := (around.world.cache.get key around.world.now).2 } }
    | keep key value ttl =>
      exact ih _ { around with
        world := { around.world with cache := around.world.cache.put key value ttl around.world.now } }
    | timeLeft wanted =>
      exact ih _ { around with
        granted := (budget.timeLeft wanted around.world.now).orElse fun _ => around.granted }
    | clearLogs channel fid =>
      exact ih _ { around with
        world := { around.world with session := (around.world.session.write (.deleteLogs channel fid)).2 } }
    | pause seconds =>
      by_cases later : around.world.now.lt (around.world.now.add seconds)
      · simp [spare, advance, Surroundings.withSession, later, sparing, Progress.spare]
      · simpa [spare, advance, Surroundings.withSession, later] using ih () around

theorem Progress.resume_spare (budget : Budget) (progress : Progress ε α) (around : Surroundings) :
    progress.spare.resume budget (around.withSession session) =
      sparing session (progress.resume budget around) := by
  cases progress with
  | ended outcome => rfl
  | waits due rest => exact advance_spare session budget rest around
  | gathers branches rest =>
    simp only [Progress.spare, Progress.resume, Surroundings.withSession, resumeCalls_withSession,
      inSession, gather_withSession]
    generalize gather (resumeCalls branches around.world).1 (resumeCalls branches around.world).2 =
      gathered
    obtain ⟨gathered, world⟩ := gathered
    cases gathered with
    | ended outcome => exact advance_spare session budget (rest outcome) { around with world }
    | waits branches => rfl

theorem Progress.due?_spare (progress : Progress ε α) : progress.spare.due? = progress.due? := by
  cases progress with
  | ended | waits | gathers => rfl

end Curation.Rehearsal
