import Curation.Proofs.Cache.Claims
import Curation.Proofs.Intake.Moves
import Curation.Proofs.Moderation.Serving

/-! What a run of moderation meets at a desk that is its own for the time. Between two
questions time goes on, and the server of the cache may fail or come back. While rules
are evaluated, their checks look things up and keep them in the cache, and may clear log
entries, as often as they like. -/
namespace Curation.Intake

open Moderation
open Program (MayAsk Runs)
open Rehearsal (taskOf taskOf_asks)
open Store (Change Session)

variable {deployment : Deployment} {case : Case} {transcript : Transcript} {desk after : Desk}

namespace Desk

/-- The clock goes on, and the server of the cache fails, or does not, or not any more. -/
structure Drifts (before after : Desk) : Prop where
  committed : after.committed = before.committed
  pending : after.pending = before.pending
  backend : after.cache.backend = before.cache.backend
  entries : after.cache.entries = before.cache.entries
  served : after.cache.server.entries = before.cache.server.entries

theorem Drifts.refl (desk : Desk) : desk.Drifts desk := ⟨rfl, rfl, rfl, rfl, rfl⟩

theorem Drifts.trans {later : Desk} (first : desk.Drifts after) (second : after.Drifts later) :
    desk.Drifts later where
  committed := second.committed.trans first.committed
  pending := second.pending.trans first.pending
  backend := second.backend.trans first.backend
  entries := second.entries.trans first.entries
  served := second.served.trans first.served

theorem Drifts.session (drifts : desk.Drifts after) : after.session = desk.session := by
  simp only [Desk.session, Desk.tables, drifts.committed, drifts.pending]

theorem Drifts.tables (drifts : desk.Drifts after) : after.tables = desk.tables :=
  congrArg Session.working drifts.session

/-- What goes on while rules of a case are evaluated: time passes, or a check asks what one
of the leaves may ask. -/
inductive Evaluates (deployment : Deployment) (case : Case) (desk : Desk) : Desk → Prop
  | passes {after : Desk} : desk.Drifts after → Evaluates deployment case desk after
  | asks {leaf : Condition} {question : Check.Ask} : MayAsk question (taskOf deployment case leaf) →
    Evaluates deployment case desk (desk.letting question)

/-- A question may be answered so, and leaves this. -/
def Meets (deployment : Deployment) (desk : Desk) : (ask : Ask) → Answer ask → Desk → Prop
  | .evaluate case _ _, _, after => Relation.ReflTransGen (Evaluates deployment case) desk after
  | ask, answer, after => ∃ ready, desk.Drifts ready ∧ ready.Answers ask answer after

abbrev Met (deployment : Deployment) : Desk → Transcript → Desk → Prop :=
  Program.Answered (Meets deployment)

/-- What is met at a desk where nothing else goes on. -/
theorem answered_met (answered : desk.Answered transcript after) :
    desk.Met deployment transcript after := by
  refine answered.mono fun before ask answer after answers => ?_
  cases ask with
  | evaluate =>
    obtain rfl : after = before := answers
    exact .refl
  | remote | tables | write | commit | rollback | clock | newId | claim | release =>
    exact ⟨before, .refl before, answers⟩

/-! ## The session of the store -/

private theorem evaluates_checked (evaluates : desk.Evaluates deployment case after) :
    case.Checked desk.session after.session := by
  cases evaluates with
  | passes drifts =>
    rw [drifts.session]
    exact .untouched
  | @asks leaf question may =>
    rcases (taskOf_asks deployment case leaf).of_mayAsk may with looking | ⟨rfl, real⟩
    · cases question with
      | clearLogs => exact looking.elim
      | cached | keep | remote | together | timeLeft | pause => exact .untouched
    · have cleared : (desk.letting (.clearLogs case.channel.id (toString case.user.fid))).session =
          ⟨desk.committed, (Change.deleteLogs case.channel.id (toString case.user.fid)).apply desk.tables⟩ := by
        simp only [Desk.session, letting, tables_write]
      rw [cleared]
      exact .cleared real

private theorem all_evaluates_checked
    (evaluates : Relation.ReflTransGen (Evaluates deployment case) desk after) :
    case.Checked desk.session after.session := by
  induction evaluates with
  | refl => exact .untouched
  | tail _ last ih => exact ih.trans (evaluates_checked last)

/-- The store of a desk serves from its session. -/
theorem met_served (met : desk.Met deployment transcript after) :
    Served desk.session transcript after.session := by
  induction met with
  | nil desk => exact .nil _
  | @cons before middle _ ask answer _ meets _ ih =>
    refine .cons ?_ ih
    cases ask with
    | evaluate => exact all_evaluates_checked meets
    | remote | tables | write | commit | rollback | clock | newId | claim | release =>
      obtain ⟨ready, drifts, answers⟩ := meets
      rw [← drifts.session]
      exact answers.session

/-! ## The cache -/

theorem Drifts.sound (drifts : desk.Drifts after) (sound : desk.cache.IsSound) : after.cache.IsSound := by
  unfold Cache.IsSound
  rw [drifts.backend, drifts.entries]
  exact sound

theorem Drifts.unclaimed (drifts : desk.Drifts after) {key : String}
    (unclaimed : desk.cache.IsUnclaimed key) : after.cache.IsUnclaimed key where
  own := by
    rw [drifts.entries]
    exact unclaimed.own
  served := by
    rw [drifts.backend, drifts.served]
    exact unclaimed.served

private theorem evaluates_sound (evaluates : desk.Evaluates deployment case after)
    (sound : desk.cache.IsSound) : after.cache.IsSound := by
  cases evaluates with
  | passes drifts => exact drifts.sound sound
  | @asks _ question =>
    cases question with
    | cached key => exact Cache.get_sound sound key desk.now
    | keep key value ttl => exact Cache.write_sound sound key value ttl desk.now false
    | remote | together | timeLeft | pause | clearLogs => exact sound

private theorem all_evaluates_sound
    (evaluates : Relation.ReflTransGen (Evaluates deployment case) desk after)
    (sound : desk.cache.IsSound) : after.cache.IsSound := by
  induction evaluates with
  | refl => exact sound
  | tail _ last ih => exact evaluates_sound last ih

/-- A question that has nothing to do with the cache. -/
def sparesCache : Ask → Bool
  | .evaluate .. | .claim .. | .release _ => false
  | _ => true

theorem Answers.cache {ask : Ask} {answer : Answer ask} (answers : desk.Answers ask answer after)
    (spares : sparesCache ask = true) : after.cache = desk.cache := by
  cases ask with
  | remote | clock | newId =>
    obtain rfl : after = desk := answers
    rfl
  | tables =>
    obtain ⟨-, rfl⟩ := answers
    rfl
  | write change =>
    simp only [Desk.Answers] at answers
    split at answers
    · rw [answers.2]
    · rw [answers.2]
  | commit | rollback =>
    obtain rfl := answers
    rfl
  | evaluate | claim | release => cases spares

/-- A cache that is sound stays so. -/
theorem met_sound (met : desk.Met deployment transcript after) (sound : desk.cache.IsSound) :
    after.cache.IsSound := by
  induction met with
  | nil => exact sound
  | @cons before middle _ ask answer _ meets _ ih =>
    refine ih ?_
    cases ask with
    | evaluate => exact all_evaluates_sound meets sound
    | claim key ttl =>
      obtain ⟨ready, drifts, -, rfl⟩ := meets
      exact Cache.write_sound (drifts.sound sound) key (.int 1) ttl ready.now true
    | release key =>
      obtain ⟨ready, drifts, rfl⟩ := meets
      exact Cache.release_sound (drifts.sound sound) key
    | remote | tables | write | commit | rollback | clock | newId =>
      obtain ⟨ready, drifts, answers⟩ := meets
      rw [answers.cache rfl]
      exact drifts.sound sound

/-- What stands nowhere does not come up where nothing is asked of the cache. -/
theorem met_unclaimed {key : String} (met : desk.Met deployment transcript after)
    (spares : ∀ exchange ∈ transcript, sparesCache exchange.1 = true)
    (unclaimed : desk.cache.IsUnclaimed key) : after.cache.IsUnclaimed key := by
  induction met with
  | nil => exact unclaimed
  | @cons before middle _ ask answer _ meets _ ih =>
    refine ih (fun exchange listed => spares exchange (.tail _ listed)) ?_
    have spares : sparesCache ask = true := spares _ (.head _)
    cases ask with
    | evaluate | claim | release => cases spares
    | remote | tables | write | commit | rollback | clock | newId =>
      obtain ⟨ready, drifts, answers⟩ := meets
      rw [answers.cache rfl]
      exact drifts.unclaimed unclaimed

end Desk

end Curation.Intake
