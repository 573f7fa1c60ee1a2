import Curation.Cache.Basic
import Curation.Check.Basic
import Curation.Moderation.Intake
import Curation.Proofs.Moderation.Answering

/-! What a delivery works with. Deliveries share the committed tables, the cache and the
clock; each has a session of its own, with changes that the others do not see before it
commits them. Answers from outside are left open: the network, the checks and the wall
clock may answer anything. -/
namespace Curation.Intake

open Moderation
open Program (Runs)
open Store (Change Tables Session)

/-- What a delivery works with. All but the changes that it has not committed is shared
with the others. -/
structure Desk where
  committed : Tables
  pending : List Change
  cache : Cache
  now : Number

namespace Desk

/-- The tables with the changes that are not committed. -/
def tables (desk : Desk) : Tables :=
  desk.pending.foldl (fun tables change => change.apply tables) desk.committed

/-- What is written shows before it is committed. -/
theorem tables_write (desk : Desk) (change : Change) :
    ({ desk with pending := desk.pending ++ [change] } : Desk).tables = change.apply desk.tables := by
  simp only [tables, List.foldl_append, List.foldl_cons, List.foldl_nil]

theorem tables_idle {desk : Desk} (idle : desk.pending = []) : desk.tables = desk.committed := by
  rw [tables, idle]
  rfl

/-- The desk after a change that is committed with all that was written before it. -/
def kept (desk : Desk) (change : Change) : Desk :=
  { desk with committed := change.apply desk.tables, pending := [] }

/-- The desk after what was not committed is taken back. -/
def undone (desk : Desk) : Desk := { desk with pending := [] }

/-- The claim to a cast can be had. -/
def isFree (desk : Desk) (deployment : Deployment) (cast : Cast) : Bool :=
  (desk.cache.claim (claimKey cast) (.whole deployment.claimTime) desk.now).1

/-- The desk after a delivery tried for the claim to a cast. -/
def claimed (desk : Desk) (deployment : Deployment) (cast : Cast) : Desk :=
  { desk with cache := (desk.cache.claim (claimKey cast) (.whole deployment.claimTime) desk.now).2 }

/-- The desk after a delivery freed its claim to a cast. -/
def freed (desk : Desk) (cast : Cast) : Desk :=
  { desk with cache := desk.cache.release (claimKey cast) }

/-- A question may be answered so, and leaves this. Of an evaluation only its end is
answered here; what its checks do is done before. -/
def Answers (desk : Desk) : (ask : Ask) → Answer ask → Desk → Prop
  | .tables, tables, after => tables = desk.tables ∧ after = desk
  | .write change, written, after =>
    match change.fault? desk.tables with
    | some fault => written = .error fault ∧ after = desk
    | none => written = .ok () ∧ after = { desk with pending := desk.pending ++ [change] }
  | .commit, _, after => after = { desk with committed := desk.tables, pending := [] }
  | .rollback, _, after => after = { desk with pending := [] }
  | .claim key ttl, taken, after =>
    taken = (desk.cache.claim key ttl desk.now).1 ∧
      after = { desk with cache := (desk.cache.claim key ttl desk.now).2 }
  | .release key, _, after => after = { desk with cache := desk.cache.release key }
  | .remote _, _, after | .evaluate .., _, after | .clock, _, after | .newId, _, after => after = desk

/-- The exchanges lead from one desk to another. -/
abbrev Answered : Desk → Transcript → Desk → Prop := Program.Answered Answers

/-- What a question of a check leaves, however it is answered. -/
def letting (desk : Desk) : Check.Ask → Desk
  | .cached key => { desk with cache := (desk.cache.get key desk.now).2 }
  | .keep key value ttl => { desk with cache := desk.cache.put key value ttl desk.now }
  | .clearLogs channel fid => { desk with pending := desk.pending ++ [.deleteLogs channel fid] }
  | .remote _ | .together _ | .timeLeft _ | .pause _ => desk

/-- A desk as the session of a store. -/
def session (desk : Desk) : Session := ⟨desk.committed, desk.tables⟩

/-- The store of a desk answers from its session. -/
theorem Answers.session {desk after : Desk} {ask : Ask} {answer : Answer ask}
    (answers : desk.Answers ask answer after) :
    Moderation.Answers desk.session ask answer after.session := by
  cases ask with
  | remote | clock | newId | evaluate =>
    obtain rfl : after = desk := answers
    rfl
  | tables =>
    obtain ⟨rfl, rfl⟩ := answers
    exact ⟨rfl, rfl⟩
  | write change =>
    cases found : change.fault? desk.tables with
    | some fault =>
      simp only [Desk.Answers, found] at answers
      obtain ⟨rfl, rfl⟩ := answers
      simp only [Moderation.Answers, Session.write, Desk.session, found]
      rfl
    | none =>
      simp only [Desk.Answers, found] at answers
      obtain ⟨rfl, rfl⟩ := answers
      simp only [Moderation.Answers, Session.write, Desk.session, found, tables_write]
      rfl
  | commit | rollback | release =>
    obtain rfl := answers
    rfl
  | claim =>
    obtain ⟨rfl, rfl⟩ := answers
    rfl

/-- No question is left without an answer. -/
theorem exists_answer (desk : Desk) (ask : Ask) : ∃ answer after, desk.Answers ask answer after := by
  cases ask with
  | remote ask =>
    cases ask with
    | isHeldBack => exact ⟨false, desk, rfl⟩
    | send => exact ⟨Remote.Reply.timedOut, desk, rfl⟩
    | report => exact ⟨(), desk, rfl⟩
  | evaluate => exact ⟨Except.error .dateOutOfRange, desk, rfl⟩
  | tables => exact ⟨desk.tables, desk, rfl, rfl⟩
  | write change =>
    simp only [Desk.Answers]
    cases change.fault? desk.tables with
    | none => exact ⟨.ok (), _, rfl, rfl⟩
    | some fault => exact ⟨.error fault, _, rfl, rfl⟩
  | commit | rollback | release => exact ⟨(), _, rfl⟩
  | clock => exact ⟨none, desk, rfl⟩
  | newId => exact ⟨"", desk, rfl⟩
  | claim => exact ⟨_, _, rfl, rfl⟩

theorem Answers.now {desk after : Desk} {ask : Ask} {answer : Answer ask}
    (answers : desk.Answers ask answer after) : after.now = desk.now := by
  cases ask with
  | remote | evaluate | clock | newId =>
    obtain rfl : after = desk := answers
    rfl
  | commit | rollback | release =>
    obtain rfl := answers
    rfl
  | tables | claim =>
    obtain ⟨-, rfl⟩ := answers
    rfl
  | write change =>
    simp only [Desk.Answers] at answers
    split at answers
    · rw [answers.2]
    · rw [answers.2]

/-- A program can be run to its end at a desk. -/
theorem exists_run {α : Type} (program : Moderation α) (desk : Desk) :
    ∃ transcript outcome after, Runs program transcript outcome ∧ desk.Answered transcript after := by
  induction program generalizing desk with
  | done value => exact ⟨[], .ok value, desk, .done value, .nil desk⟩
  | failed failure => exact ⟨[], .error failure, desk, .failed failure, .nil desk⟩
  | ask question next ih =>
    obtain ⟨answer, between, answers⟩ := desk.exists_answer question
    obtain ⟨transcript, outcome, after, run, answered⟩ := ih answer between
    exact ⟨⟨question, answer⟩ :: transcript, outcome, after, .ask answer run, .cons answers answered⟩

end Desk

end Curation.Intake
