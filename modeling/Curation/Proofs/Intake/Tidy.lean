import Curation.Proofs.Intake.Moderating
import Curation.Proofs.Intake.Moves

/-! What holds of every delivery all the time, wherever the cache is and however the
deliveries take turns. A cast that was done stays so, but for one move: the last one of a
delivery that failed and has freed its claim before. -/
namespace Curation.Intake

open Moderation
open Program (Asks)

variable {deployment : Deployment} {desk after : Desk} {stage stage' : Stage} {state : State}

/-! ## One delivery -/

/-- A move is the last one of a delivery that failed: it records the failure. -/
inductive IsLateFailure (hash : String) : Stage → Stage → Prop where
  | mk {channel : Channel} {cast : Cast} {failure : Failure} : cast.hash = hash →
    IsLateFailure hash (.released channel cast failure) (.failed cast failure)

/-- What holds of a delivery all the time: nothing on its desk is about casts, nothing is
on it before the delivery begins, and moderation asks for nothing else. -/
structure IsTidy (desk : Desk) (stage : Stage) : Prop where
  spares : desk.Spares
  idle : ∀ event, stage = .expected event → desk.pending = []
  asks : ∀ channel cast claimed rest, stage = .inside channel cast claimed rest → rest.Asks IsModerating

theorem IsTidy.other (spares : desk.Spares) (begun : ∀ event, stage ≠ .expected event)
    (outside : ∀ channel cast claimed rest, stage ≠ .inside channel cast claimed rest) :
    IsTidy desk stage :=
  ⟨spares, fun event same => (begun event same).elim,
    fun channel cast claimed rest same => (outside channel cast claimed rest same).elim⟩

theorem IsTidy.inside {channel : Channel} {cast : Cast} {claimed : Number}
    {rest : Moderation (List Log)} (spares : desk.Spares) (asks : rest.Asks IsModerating) :
    IsTidy desk (.inside channel cast claimed rest) := by
  refine ⟨spares, by simp, fun channel cast claimed rest same => ?_⟩
  obtain ⟨-, -, -, rfl⟩ := Stage.inside.inj same
  exact asks

/-- What is not about casts leaves a cast that was done so. -/
private theorem done_tables {hash : String} (spares : desk.Spares)
    (done : desk.committed.IsDone hash) : desk.tables.IsDone hash :=
  done.of_casts (Desk.tables_casts spares)

/-- A move keeps the desk tidy, and only a late failure gives a cast that was done up to
be done again. -/
theorem Move.tidy (move : Move deployment desk stage after stage') (tidy : IsTidy desk stage) :
    IsTidy after stage' ∧ ∀ hash, desk.committed.IsDone hash →
      after.committed.IsDone hash ∨ IsLateFailure hash stage stage' := by
  have spares := tidy.spares
  -- Rows about casts are written on admission, which leaves none to be done again, and by
  -- the last four kinds of moves, of which only `settle` records a failure.
  cases move with
  | answer admitted answered | refuse admitted answered =>
    rcases admitEvent_answered (tidy.idle _ rfl) admitted answered with ⟨_, _, same, -⟩ | ⟨-, leaves⟩
    · cases same
    · refine ⟨.other ?_ (by simp) (by simp), fun hash done => .inl (leaves.done hash done)⟩
      rw [Desk.Spares, leaves.idle]
      exact List.forall_mem_nil _
  | enter admitted answered =>
    rcases admitEvent_answered (tidy.idle _ rfl) admitted answered with ⟨_, _, -, rfl, -⟩ | ⟨other, -⟩
    · exact ⟨.other spares (by simp) (by simp), fun hash done => .inl done⟩
    · exact (other _ rfl).elim
  | claim taken =>
    obtain ⟨-, rfl⟩ := taken
    exact ⟨.inside spares (moderate_asks deployment _), fun hash done => .inl done⟩
  | meet taken =>
    obtain ⟨-, rfl⟩ := taken
    exact ⟨.other spares (by simp) (by simp), fun hash done => .inl done⟩
  | ask answers =>
    cases tidy.asks _ _ _ _ rfl with
    | ask moderating each =>
      obtain ⟨works, -⟩ := answers_works spares moderating answers
      exact ⟨.inside works.spares (each _), fun hash done => .inl (done.of_casts works.casts)⟩
  | check =>
    exact ⟨.inside (letting_works spares _).spares (tidy.asks _ _ _ _ rfl),
      fun hash done => .inl (done.of_casts (letting_works spares _).casts)⟩
  | succeed recorded answered =>
    rcases recordCast_answered recorded answered with ⟨-, row, -, status, rfl⟩ | ⟨_, failed, -⟩
    · refine ⟨.other (List.forall_mem_nil _) (by simp) (by simp), fun hash done => .inl ?_⟩
      by_cases same : row.hash = hash
      · subst same
        exact Store.isDone_written (by rw [status]; decide) desk.tables
      · exact (done_tables spares done).written same
    · cases failed
  | lose recorded answered =>
    rcases recordCast_answered recorded answered with ⟨recorded, -⟩ | ⟨_, -, rfl⟩
    · cases recorded
    · exact ⟨.other spares (by simp) (by simp), fun hash done => .inl done⟩
  | fail => exact ⟨.other spares (by simp) (by simp), fun hash done => .inl done⟩
  | release freed =>
    obtain rfl := freed
    exact ⟨.other spares (by simp) (by simp), fun hash done => .inl done⟩
  | settle recorded answered =>
    rcases recordFailure_answered recorded answered with ⟨-, row, about, -, rfl⟩ | ⟨_, failed, -⟩
    · refine ⟨.other (List.forall_mem_nil _) (by simp) (by simp), fun hash done => ?_⟩
      by_cases same : row.hash = hash
      · exact .inr (.mk (about.symm.trans same))
      · exact .inl (done.written same)
    · cases failed
  | drop recorded answered =>
    rcases recordFailure_answered recorded answered with ⟨recorded, -⟩ | ⟨_, -, rfl⟩
    · cases recorded
    · exact ⟨.other (List.forall_mem_nil _) (by simp) (by simp), fun hash done => .inl done⟩

/-! ## All deliveries -/

/-- What holds of a delivery all the time holds of every one. -/
def State.IsTidy (state : State) : Prop := ∀ i, Intake.IsTidy (state.desk i) (state.stage i)

theorem State.IsFresh.tidy (fresh : state.IsFresh) : state.IsTidy := by
  intro i
  obtain ⟨event, same⟩ := fresh i
  have idle : (state.desk i).pending = [] := by rw [State.desk, same]
  have here : state.stage i = .expected event := by rw [State.stage, same]
  rw [here]
  exact ⟨by rw [Desk.Spares, idle]; exact List.forall_mem_nil _, fun _ _ => idle, by simp⟩

theorem IsTidy.of_pending (tidy : IsTidy desk stage) (same : after.pending = desk.pending) :
    IsTidy after stage := by
  refine ⟨?_, fun event expected => same.trans (tidy.idle event expected), tidy.asks⟩
  rw [Desk.Spares, same]
  exact tidy.spares

/-- A delivery that goes on leaves alone what the others have on their desks. -/
theorem State.IsTidy.put {i : Nat} (tidy : state.IsTidy) (own : Intake.IsTidy after stage) :
    (state.put i after stage).IsTidy := by
  intro j
  by_cases same : j = i
  · subst same
    rwa [State.desk_put_self, State.stage_put_self]
  · rw [State.stage_put_other same]
    exact (tidy j).of_pending (by simp [State.desk, State.put, same])

theorem State.IsTidy.pass (tidy : state.IsTidy) (time : Number) : { state with now := time }.IsTidy :=
  fun i => (tidy i).of_pending rfl

theorem Turn.tidy (turn : Turn deployment desk stage after stage') (tidy : IsTidy desk stage) :
    IsTidy after stage' := by
  induction turn with
  | last move _ => exact (move.tidy tidy).1
  | more move _ _ ih => exact ih (move.tidy tidy).1

theorem Interleaves.tidy {start : State} (run : Interleaves deployment start state)
    (tidy : start.IsTidy) : state.IsTidy := by
  induction run with
  | refl => exact tidy
  | tail _ step ih =>
    cases step with
    | turn i move => exact ih.put (move.tidy (ih i)).1
    | pass _ => exact ih.pass _

end Curation.Intake
