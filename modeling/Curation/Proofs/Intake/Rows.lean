import Curation.Proofs.Intake.Moves
import Curation.Proofs.Store.Lookups

/-! Rows about casts. Only deliveries write them, each about its own cast and in one go;
what moderation writes of itself leaves them alone. -/
namespace Curation

namespace Store

/-- The row of a cast says that nothing is left to do. -/
def Tables.IsDone (tables : Tables) (hash : String) : Prop :=
  ∃ row, tables.cast? hash = some row ∧ row.status ≠ failed

variable {tables : Tables} {change : Change}

theorem Change.apply_casts (spares : change.sparesCasts = true) (tables : Tables) :
    (change.apply tables).casts = tables.casts := by
  cases change with
  | cast => cases spares
  | channel | role | delegate | cooldown | downvote | addLog | updateLog | deleteLogs => rfl

theorem Tables.cast?_of_casts {other : Tables} (same : other.casts = tables.casts) (hash : String) :
    other.cast? hash = tables.cast? hash := by
  simp only [cast?, same]

@[simp] theorem recordCast_hash (tables : Tables) (now : Moment) (hash channel : String)
    (authorFid status : Int) (data : Json) :
    (recordCast tables now hash channel authorFid status data).hash = hash := by
  unfold recordCast
  split
  rfl

@[simp] theorem recordCast_status (tables : Tables) (now : Moment) (hash channel : String)
    (authorFid status : Int) (data : Json) :
    (recordCast tables now hash channel authorFid status data).status = status := by
  unfold recordCast
  split
  rfl

@[simp] theorem recordCast_data (tables : Tables) (now : Moment) (hash channel : String)
    (authorFid status : Int) (data : Json) :
    (recordCast tables now hash channel authorFid status data).data = data.spaced := by
  unfold recordCast
  split
  rfl

theorem cast?_written_self (row : CastRow) (tables : Tables) :
    ((Change.cast row).apply tables).cast? row.hash = some row := by
  rw [cast?_written, if_pos rfl]

theorem cast?_written_other {row : CastRow} {hash : String} (apart : row.hash ≠ hash)
    (tables : Tables) : ((Change.cast row).apply tables).cast? hash = tables.cast? hash := by
  rw [cast?_written, if_neg apart]

/-- A row about a cast is allowed if the columns can hold its numbers. -/
theorem cast_allowed {row : CastRow} (fid : fits row.authorFid = true) (status : fits row.status = true)
    (tables : Tables) : (Change.cast row).fault? tables = none := by
  simp [Change.fault?, Change.integers, fid, status]

theorem Tables.IsDone.of_casts {other : Tables} {hash : String} (done : tables.IsDone hash)
    (same : other.casts = tables.casts) : other.IsDone hash := by
  obtain ⟨row, found, status⟩ := done
  exact ⟨row, (cast?_of_casts same hash).trans found, status⟩

theorem Tables.IsDone.written {row : CastRow} {hash : String} (done : tables.IsDone hash)
    (apart : row.hash ≠ hash) : ((Change.cast row).apply tables).IsDone hash := by
  obtain ⟨old, found, status⟩ := done
  exact ⟨old, (cast?_written_other apart tables).trans found, status⟩

theorem isDone_written {row : CastRow} (settled : row.status ≠ failed) (tables : Tables) :
    ((Change.cast row).apply tables).IsDone row.hash :=
  ⟨row, cast?_written_self row tables, settled⟩

end Store

namespace Intake

open Moderation
open Program (Runs runs_bind runs_done runs_question runs_ofExcept answered_append answered_question)
open Store (Tables Change)

variable {desk after : Desk} {transcript : Transcript} {channel : Channel} {cast : Cast}

/-- Nothing that is not committed is about casts. -/
def Desk.Spares (desk : Desk) : Prop := ∀ change ∈ desk.pending, change.sparesCasts = true

theorem Desk.tables_casts (spares : desk.Spares) : desk.tables.casts = desk.committed.casts := by
  obtain ⟨committed, pending, cache, now⟩ := desk
  simp only [Desk.Spares, Desk.tables] at spares ⊢
  induction pending generalizing committed with
  | nil => rfl
  | cons change rest ih =>
    have first : change.sparesCasts = true := spares change (List.mem_cons_self ..)
    have later := ih (change.apply committed) fun other listed => spares other (List.mem_cons_of_mem _ listed)
    exact later.trans (Change.apply_casts first committed)

/-! ## Recording -/

private theorem tables_answered {outcome : Except Failure Tables}
    (run : Runs Moderation.tables transcript outcome) (answered : desk.Answered transcript after) :
    outcome = .ok desk.tables ∧ after = desk := by
  obtain ⟨tables, rfl, rfl⟩ := runs_question.mp run
  obtain ⟨rfl, rfl⟩ := answered_question.mp answered
  exact ⟨rfl, rfl⟩

private theorem now_answered {outcome : Except Failure Moment}
    (run : Runs Moderation.now transcript outcome) (answered : desk.Answered transcript after) :
    after = desk := by
  have asks : Moderation.now.Asks (· = Ask.clock) := now_asks rfl
  refine answered.keeps id run asks fun ask clock before answer after answers => ?_
  subst clock
  exact answers

private theorem write_answered {change : Change} {outcome : Except Failure Unit}
    (run : Runs (write change) transcript outcome) (answered : desk.Answered transcript after) :
    (outcome = .ok () ∧ after = { desk with pending := desk.pending ++ [change] }) ∨
      ∃ failure, outcome = .error failure ∧ after = desk := by
  cases run with
  | ask written run =>
  cases answered with
  | cons wrote answered =>
  simp only [Desk.Answers] at wrote
  split at wrote
  · obtain ⟨rfl, rfl⟩ := wrote
    cases run
    cases answered
    exact .inr ⟨_, rfl, rfl⟩
  · obtain ⟨rfl, rfl⟩ := wrote
    cases run
    cases answered
    exact .inl ⟨rfl, rfl⟩

/-- A row is written and committed with all that was written before it, or nothing is
written at all. -/
theorem recordCast_answered {status : Int} {data : Json} {outcome : Except Failure Unit}
    (run : Runs (recordCast channel cast status data) transcript outcome)
    (answered : desk.Answered transcript after) :
    (outcome = .ok () ∧ ∃ row : Store.CastRow, row.hash = cast.hash ∧ row.status = status ∧
        after = desk.kept (.cast row)) ∨
      ∃ failure, outcome = .error failure ∧ after = desk := by
  rcases runs_bind.mp run with ⟨failure, rfl, unread⟩ | ⟨_, tables, _, rfl, read, run⟩
  · cases (tables_answered unread answered).1
  obtain ⟨_, for_tables, for_rest⟩ := answered_append.mp answered
  obtain ⟨same, rfl⟩ := tables_answered read for_tables
  cases same
  rcases runs_bind.mp run with ⟨failure, rfl, unread⟩ | ⟨_, time, _, rfl, read, run⟩
  · exact .inr ⟨failure, rfl, now_answered unread for_rest⟩
  obtain ⟨desk, for_time, for_row⟩ := answered_append.mp for_rest
  obtain rfl := now_answered read for_time
  rcases runs_bind.mp run with ⟨failure, rfl, unwritten⟩ | ⟨_, _, _, rfl, written, run⟩
  · rcases write_answered unwritten for_row with ⟨same, -⟩ | ⟨_, -, same⟩
    · cases same
    · exact .inr ⟨failure, rfl, same⟩
  obtain ⟨_, for_write, for_commit⟩ := answered_append.mp for_row
  rcases write_answered written for_write with ⟨-, rfl⟩ | ⟨_, same, -⟩
  · obtain ⟨_, rfl, rfl⟩ := runs_question.mp run
    obtain rfl := answered_question.mp for_commit
    let row := Store.recordCast desk.tables time cast.hash channel.id cast.author.fid status data
    refine .inl ⟨rfl, row, Store.recordCast_hash .., Store.recordCast_status .., ?_⟩
    rw [Desk.tables_write, Desk.kept]
  · cases same

/-- A row that the store can hold can be recorded. -/
theorem recordCast_runs (desk : Desk) (channel : Channel) (cast : Cast) (status : Int) (data : Json)
    (time : Moment) {row : Store.CastRow}
    (shape : Store.recordCast desk.tables time cast.hash channel.id cast.author.fid status data = row)
    (allowed : (Change.cast row).fault? desk.tables = none) :
    ∃ transcript, Runs (recordCast channel cast status data) transcript (.ok ()) ∧
      desk.Answered transcript (desk.kept (.cast row)) := by
  subst shape
  let row := Store.recordCast desk.tables time cast.hash channel.id cast.author.fid status data
  have written : desk.Answers (.write (.cast row)) (.ok ())
      { desk with pending := desk.pending ++ [.cast row] } := by
    simp only [Desk.Answers, row, allowed]
    trivial
  refine ⟨[⟨.tables, desk.tables⟩, ⟨.clock, some time⟩, ⟨.write (.cast row), .ok ()⟩, ⟨.commit, ()⟩],
    .ask _ (.ask _ (.ask _ (.ask _ (.done _)))),
    .cons ⟨rfl, rfl⟩ (.cons rfl (.cons written (.cons ?_ (.nil _))))⟩
  simp only [Desk.Answers, Desk.tables_write]
  rfl

/-- That moderation failed is recorded in the place of what it had not committed. -/
theorem recordFailure_answered {failure : Failure} {outcome : Except Failure Unit}
    (run : Runs (recordFailure channel cast failure) transcript outcome)
    (answered : desk.Answered transcript after) :
    (outcome = .ok () ∧ ∃ row : Store.CastRow, row.hash = cast.hash ∧ row.status = Store.failed ∧
        after = desk.undone.kept (.cast row)) ∨
      ∃ failure, outcome = .error failure ∧ after = desk.undone := by
  cases run with
  | ask _ run =>
  cases answered with
  | cons undone answered =>
  obtain rfl := undone
  exact recordCast_answered run answered

theorem recordFailure_runs (desk : Desk) (channel : Channel) (cast : Cast) (failure : Failure)
    (time : Moment) {row : Store.CastRow}
    (shape : Store.recordCast desk.committed time cast.hash channel.id cast.author.fid Store.failed
      (.obj [("error", .str failure.message)]) = row)
    (allowed : (Change.cast row).fault? desk.committed = none) :
    ∃ transcript, Runs (recordFailure channel cast failure) transcript (.ok ()) ∧
      desk.Answered transcript (desk.undone.kept (.cast row)) := by
  obtain ⟨transcript, run, answered⟩ :=
    recordCast_runs desk.undone channel cast Store.failed _ time shape allowed
  exact ⟨⟨.rollback, ()⟩ :: transcript, .ask _ run, .cons rfl answered⟩

/-! ## Admission -/

/-- A delivery leaves its desk with nothing of its own on it, and no cast that was done
is to be done again. -/
structure Desk.Leaves (desk after : Desk) : Prop where
  cache : after.cache = desk.cache
  now : after.now = desk.now
  idle : after.pending = []
  done : ∀ hash, desk.committed.IsDone hash → after.committed.IsDone hash

theorem Desk.Leaves.refl (idle : desk.pending = []) : desk.Leaves desk :=
  ⟨rfl, rfl, idle, fun _ done => done⟩

/-- A row that does not say that it failed leaves no cast to be done again. -/
theorem recordCast_leaves {status : Int} {data : Json} {outcome : Except Failure Unit}
    (idle : desk.pending = []) (settled : status ≠ Store.failed)
    (run : Runs (recordCast channel cast status data) transcript outcome)
    (answered : desk.Answered transcript after) : desk.Leaves after := by
  rcases recordCast_answered run answered with ⟨-, row, -, rfl, rfl⟩ | ⟨_, -, rfl⟩
  · refine ⟨rfl, rfl, rfl, fun hash done => ?_⟩
    have clean := Desk.tables_idle idle
    by_cases same : row.hash = hash
    · subst same
      exact Store.isDone_written settled desk.tables
    · rw [← clean] at done
      exact done.written same
  · exact .refl idle

theorem isDone_iff (tables : Tables) (hash : String) :
    tables.IsDone hash ↔ ((tables.cast? hash).any fun row => row.status ≠ Store.failed) = true := by
  unfold Tables.IsDone
  cases tables.cast? hash with
  | none => simp
  | some row => simp

/-- A cast is admitted while nothing has been done about it; all else is answered at
once. -/
theorem admitInto_answered {outcome : Except Failure (String ⊕ Channel × Cast)}
    (idle : desk.pending = []) (run : Runs (admitInto channel cast) transcript outcome)
    (answered : desk.Answered transcript after) :
    (outcome = .ok (.inr (channel, cast)) ∧ after = desk ∧ ¬ desk.committed.IsDone cast.hash) ∨
      (∀ admission, outcome ≠ .ok (.inr admission)) ∧ desk.Leaves after := by
  have clean := Desk.tables_idle idle
  unfold admitInto at run
  cases active : channel.active with
  | false =>
    simp only [active, Bool.not_false, if_true] at run
    rcases runs_bind.mp run with ⟨failure, rfl, unrecorded⟩ | ⟨_, _, _, rfl, recorded, run⟩
    · exact .inr ⟨by simp, recordCast_leaves idle (by decide) unrecorded answered⟩
    · obtain ⟨rfl, rfl⟩ := runs_done.mp run
      rw [List.append_nil] at answered
      exact .inr ⟨by simp, recordCast_leaves idle (by decide) recorded answered⟩
  | true =>
    simp only [active, Bool.not_true, Bool.false_eq_true, if_false] at run
    rcases runs_bind.mp run with ⟨failure, rfl, unread⟩ | ⟨_, tables, _, rfl, read, run⟩
    · cases (tables_answered unread answered).1
    obtain ⟨between, for_tables, for_rest⟩ := answered_append.mp answered
    obtain ⟨same, rfl⟩ := tables_answered read for_tables
    obtain rfl := Except.ok.inj same
    split at run
    · obtain ⟨rfl, rfl⟩ := runs_done.mp run
      cases for_rest
      exact .inr ⟨by simp, .refl idle⟩
    · rename_i undone
      obtain ⟨rfl, rfl⟩ := runs_done.mp run
      cases for_rest
      rw [← isDone_iff, clean] at undone
      exact .inl ⟨rfl, rfl, undone⟩

theorem admitEvent_answered {event : Event} {outcome : Except Failure (String ⊕ Channel × Cast)}
    (idle : desk.pending = []) (run : Runs (admitEvent event) transcript outcome)
    (answered : desk.Answered transcript after) :
    (∃ channel cast, outcome = .ok (.inr (channel, cast)) ∧ after = desk ∧
        ¬ desk.committed.IsDone cast.hash) ∨
      (∀ admission, outcome ≠ .ok (.inr admission)) ∧ desk.Leaves after := by
  rcases admitEvent_cases event with ⟨text, admitted⟩ | ⟨failure, admitted⟩ | ⟨channelId, cast, brings⟩
  · rw [admitted] at run
    obtain ⟨rfl, rfl⟩ := runs_done.mp run
    cases answered
    exact .inr ⟨by simp, .refl idle⟩
  · rw [admitted] at run
    cases run
    cases answered
    exact .inr ⟨by simp, .refl idle⟩
  rw [brings.admitEvent_eq] at run
  rcases runs_bind.mp run with ⟨failure, rfl, unread⟩ | ⟨_, tables, _, rfl, read, run⟩
  · cases (tables_answered unread answered).1
  obtain ⟨between, for_tables, for_rest⟩ := answered_append.mp answered
  obtain ⟨-, rfl⟩ := tables_answered read for_tables
  rcases runs_bind.mp run with ⟨failure, rfl, unread⟩ | ⟨_, found, _, rfl, known, run⟩
  · obtain ⟨-, rfl⟩ := runs_ofExcept.mp unread
    cases for_rest
    exact .inr ⟨by simp, .refl idle⟩
  obtain ⟨-, rfl⟩ := runs_ofExcept.mp known
  rw [List.nil_append] at for_rest
  cases found with
  | none =>
    obtain ⟨rfl, rfl⟩ := runs_done.mp run
    cases for_rest
    exact .inr ⟨by simp, .refl idle⟩
  | some channel =>
    rcases admitInto_answered idle run for_rest with ⟨rfl, rfl, undone⟩ | answered
    · exact .inl ⟨channel, cast, rfl, rfl, undone⟩
    · exact .inr answered

/-- A cast that was done is not admitted again while its channel is active. -/
theorem admitEvent_done {event : Event} {channelId : String}
    {outcome : Except Failure (String ⊕ Channel × Cast)} (idle : desk.pending = [])
    (brings : Brings event channelId cast)
    (known : desk.committed.configuration? channelId = .ok (some channel))
    (active : channel.active = true) (done : desk.committed.IsDone cast.hash)
    (run : Runs (admitEvent event) transcript outcome) (answered : desk.Answered transcript after) :
    outcome = .ok (.inl "Already processed") ∧ after = desk := by
  have clean := Desk.tables_idle idle
  rw [brings.admitEvent_eq] at run
  rcases runs_bind.mp run with ⟨failure, rfl, unread⟩ | ⟨_, tables, _, rfl, read, run⟩
  · cases (tables_answered unread answered).1
  obtain ⟨between, for_tables, for_rest⟩ := answered_append.mp answered
  obtain ⟨same, rfl⟩ := tables_answered read for_tables
  obtain rfl := Except.ok.inj same
  rw [clean, known] at run
  have run : Runs (admitInto channel cast) _ outcome := run
  simp only [admitInto, active, Bool.not_true, Bool.false_eq_true, if_false] at run
  rcases runs_bind.mp run with ⟨failure, rfl, unread⟩ | ⟨_, tables, _, rfl, read', run⟩
  · cases (tables_answered unread for_rest).1
  obtain ⟨between, for_tables', for_last⟩ := answered_append.mp for_rest
  obtain ⟨same, rfl⟩ := tables_answered read' for_tables'
  obtain rfl := Except.ok.inj same
  rw [if_pos (by rwa [clean, ← isDone_iff])] at run
  obtain ⟨rfl, rfl⟩ := runs_done.mp run
  cases for_last
  exact ⟨rfl, rfl⟩

/-- A cast about which nothing was done can be admitted while its channel is active. -/
theorem admitEvent_runs (desk : Desk) {event : Event} {channelId : String}
    (brings : Brings event channelId cast)
    (known : desk.tables.configuration? channelId = .ok (some channel))
    (active : channel.active = true) (undone : ¬ desk.tables.IsDone cast.hash) :
    ∃ transcript, Runs (admitEvent event) transcript (.ok (.inr (channel, cast))) ∧
      desk.Answered transcript desk := by
  have looked : Runs Moderation.tables [⟨.tables, desk.tables⟩] (.ok desk.tables) := .ask _ (.done _)
  have found : Runs (.ofExcept (desk.tables.configuration? channelId) : Moderation _) []
      (.ok (some channel)) := runs_ofExcept.mpr ⟨known.symm, rfl⟩
  have admitted : Runs (admitInto channel cast) [⟨.tables, desk.tables⟩] (.ok (.inr (channel, cast))) := by
    simp only [admitInto, active, Bool.not_true, Bool.false_eq_true, if_false]
    refine runs_bind.mpr (.inr ⟨_, _, [], rfl, looked, ?_⟩)
    rw [if_neg (by rwa [← isDone_iff])]
    exact .done _
  rw [brings.admitEvent_eq]
  exact ⟨_, runs_bind.mpr (.inr ⟨_, _, _, rfl, looked,
    runs_bind.mpr (.inr ⟨_, _, _, rfl, found, admitted⟩)⟩),
    .cons ⟨rfl, rfl⟩ (.cons ⟨rfl, rfl⟩ (.nil _))⟩

/-- A delivery of a cast that is to be done moderates it, if the claim can be had. -/
theorem admitted_moved {deployment : Deployment} (desk : Desk) {event : Event} {channelId : String}
    (brings : Brings event channelId cast)
    (known : desk.tables.configuration? channelId = .ok (some channel))
    (active : channel.active = true) (undone : ¬ desk.tables.IsDone cast.hash)
    (free : desk.isFree deployment cast = true) :
    Moves deployment (desk, .expected event)
      (desk.claimed deployment cast,
        .inside channel cast desk.now (moderateCast deployment channel cast false)) := by
  obtain ⟨transcript, admitted, looked⟩ := admitEvent_runs desk brings known active undone
  have admission : Moves deployment (desk, .expected event) (desk, .claiming channel cast) :=
    .single (.enter admitted looked)
  exact admission.tail (.claim ⟨free.symm, rfl⟩)

end Intake

end Curation
