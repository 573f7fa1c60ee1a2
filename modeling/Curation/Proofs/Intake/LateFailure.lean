import Curation.Proofs.Cache.Claims
import Curation.Proofs.Intake.Owners
import Curation.Proofs.Intake.Tidy

/-! Failures that are recorded late. Where each call to the cache lets others have a
turn, a delivery that failed frees its claim first and writes its row afterwards. Another
one may claim the cast, moderate it and say so in between, and its row is lost then. -/
namespace Curation

namespace Store

/-- The row of a cast has a status. -/
def Tables.HasStatus (tables : Tables) (hash : String) (status : Int) : Prop :=
  ∃ row, tables.cast? hash = some row ∧ row.status = status

variable {tables : Tables} {hash : String}

theorem Tables.HasStatus.isDone (recorded : tables.HasStatus hash processed) : tables.IsDone hash := by
  obtain ⟨row, found, status⟩ := recorded
  refine ⟨row, found, ?_⟩
  rw [status]
  decide

theorem Tables.HasStatus.not_isDone (recorded : tables.HasStatus hash failed) :
    ¬ tables.IsDone hash := by
  rintro ⟨row, found, status⟩
  obtain ⟨row', found', status'⟩ := recorded
  rw [found] at found'
  cases found'
  exact status status'

end Store

namespace Intake

open Moderation
open Program (Asks Runs)
open Store (Tables Change)

variable {deployment : Deployment} {desk after : Desk} {stage stage' : Stage} {state : State}

/-- A late failure leaves the row of its cast saying so. -/
theorem IsLateFailure.leaves {hash : String} (late : IsLateFailure hash stage stage')
    (move : Move deployment desk stage after stage') : after.committed.HasStatus hash Store.failed := by
  obtain ⟨about⟩ := late
  cases move with
  | settle recorded answered =>
    rcases recordFailure_answered recorded answered with ⟨-, row, same, status, rfl⟩ | ⟨_, failed, -⟩
    · rw [← about, ← same]
      exact ⟨row, Store.cast?_written_self row _, status⟩
    · cases failed

theorem State.IsTidy.moderates {j : Nat} {event : Event} {channelId : String} {channel : Channel}
    {cast : Cast} (tidy : state.IsTidy) (waits : state.stage j = .expected event)
    (brings : Brings event channelId cast)
    (known : state.committed.configuration? channelId = .ok (some channel))
    (active : channel.active = true) (undone : ¬ state.committed.IsDone cast.hash)
    (free : (state.desk j).isFree deployment cast = true) :
    ∃ later, Interleaves deployment state later ∧ later.IsInside cast.hash j := by
  have clean : (state.desk j).tables = state.committed := Desk.tables_idle ((tidy j).idle event waits)
  have moves := admitted_moved (state.desk j) brings (by rwa [clean]) active (by rwa [clean]) free
  exact ⟨_, Moves.interleaves waits moves, channel, cast, _, _, State.stage_put_self .., rfl⟩

/-- Success can be undone. Once a cast was moderated and its row says so, the moves that
make it say that moderation failed are the last ones of deliveries that had failed and
freed their claims before. After such a move the cast is moderated once more by a delivery
that begins when the claim has run out. -/
theorem late_failure_undoes_success {start state : State} {hash : String} (fresh : start.IsFresh)
    (run : Interleaves deployment start state)
    (processed : state.committed.HasStatus hash Store.processed) {i : Nat} {desk : Desk}
    {stage : Stage} (move : Move deployment (state.desk i) (state.stage i) desk stage) :
    (desk.committed.HasStatus hash Store.failed ↔ IsLateFailure hash (state.stage i) stage) ∧
    (IsLateFailure hash (state.stage i) stage → ∀ j event channelId channel cast time, j ≠ i →
      state.stage j = .expected event → Brings event channelId cast → cast.hash = hash →
      desk.committed.configuration? channelId = .ok (some channel) → channel.active = true →
      desk.now.le time = true →
      (desk.cache.claim (claimKey cast) (.whole deployment.claimTime) time).1 = true →
      ∃ later, Interleaves deployment (state.put i desk stage) later ∧ later.IsInside hash j) := by
  have tidy : state.IsTidy := run.tidy fresh.tidy
  refine ⟨⟨fun failed => ?_, fun late => late.leaves move⟩, ?_⟩
  · exact ((move.tidy (tidy i)).2 hash processed.isDone).resolve_left failed.not_isDone
  · rintro late j event channelId channel cast time apart expected brings rfl known active onward free
    have passes : Step (Move deployment) (state.put i desk stage)
        { state.put i desk stage with now := time } := .pass onward
    have waits : (state.put i desk stage).stage j = .expected event := by
      rwa [State.stage_put_other apart]
    have kept : (state.put i desk stage).IsTidy := tidy.put (move.tidy (tidy i)).1
    obtain ⟨later, moderated, inside⟩ := (kept.pass time).moderates waits brings known active
      (late.leaves move).not_isDone free
    exact ⟨later, .head passes moderated, inside⟩

/-! ## A delivery that is held back -/

variable {event : Event} {channelId : String} {channel : Channel} {cast : Cast}

/-- A delivery that has freed its claim writes its row over the one that it finds. -/
theorem late_moved (deployment : Deployment) (desk : Desk) (channel : Channel) (failure : Failure)
    {row : Store.CastRow}
    (found : desk.committed.cast? cast.hash = some row) (fits : Store.fits row.authorFid = true) :
    ∃ row', Move deployment desk (.released channel cast failure)
      (desk.undone.kept (.cast row')) (.failed cast failure) := by
  let row' : Store.CastRow := { row with
    hash := cast.hash
    status := Store.failed
    data := (Json.obj [("error", .str failure.message)]).spaced
    createdAt := Moment.epoch.stored }
  have shape : Store.recordCast desk.committed Moment.epoch cast.hash channel.id cast.author.fid
      Store.failed (.obj [("error", .str failure.message)]) = row' := by
    rw [Store.recordCast, found]
  have allowed : (Change.cast row').fault? desk.committed = none :=
    @Store.cast_allowed row' fits (show Store.fits Store.failed = true by decide) _
  obtain ⟨_, recording, written⟩ := recordFailure_runs desk channel cast failure Moment.epoch shape allowed
  exact ⟨row', .settle recording written⟩

/-- With the cache on a server, a delivery of an owner's cast is held back by the network
and frees its claim, the next one moderates the cast, and the first one then says that it
failed. A third one moderates the cast again. -/
theorem held_back_delivery_undoes_success :
    let deployment : Deployment := ⟨default, ⟨[], .nil⟩, false, 60, 1⟩
    let start : State := ⟨bareTables, { backend := .server }, 0, fun _ => ⟨.expected firstCast, []⟩⟩
    start.IsFresh ∧ ∃ state, Interleaves deployment start state ∧
      state.committed.HasStatus "a" Store.processed ∧
      ∃ desk stage, Move deployment (state.desk 0) (state.stage 0) desk stage ∧
        desk.committed.HasStatus "a" Store.failed ∧
        ∃ later, Interleaves deployment (state.put 0 desk stage) later ∧ later.IsInside "a" 2 := by
  intro deployment start
  have fresh : start.IsFresh := fun _ => ⟨firstCast, rfl⟩
  obtain ⟨cast, channel, brings, hash, author, known, active, unlisted⟩ := firstCast_brings
  rw [← author] at unlisted
  have undone : ¬ bareTables.IsDone cast.hash := by
    rintro ⟨_, found, -⟩
    cases found
  have read : Json.read ownerText = .ok (leadAnswer cast.author.fid) := by
    rw [author]
    exact read_ownerText
  have fits : Store.fits cast.author.fid = true := by
    rw [author]
    decide
  -- The first delivery fails and frees its claim.
  let freed := ((start.desk 0).claimed deployment cast).freed cast
  obtain ⟨failure, leaves⟩ : ∃ failure, Moves deployment (start.desk 0, .expected firstCast)
      (freed, .released channel cast failure) :=
    held_back_moved brings known active undone rfl unlisted
  let waiting : State := start.put 0 freed (.released channel cast failure)
  have before : Interleaves deployment start waiting := leaves.interleaves rfl
  -- The second one moderates the cast and says so.
  have again : freed.isFree deployment cast = true :=
    Cache.claim_released ((start.desk 0).claimed deployment cast).cache ..
  obtain ⟨row, about, fid, status, finishes⟩ := owner_moved freed "1" Moment.epoch brings known active
    rfl again read unlisted rfl fits
  let log := ownerEntry channel cast "1" Moment.epoch
  let settled := ((freed.claimed deployment cast).kept (.addLog log)).kept (.cast row)
  let state : State := waiting.put 1 settled (.processed cast)
  have onward : Interleaves deployment waiting state := finishes.interleaves rfl
  have found : state.committed.cast? cast.hash = some row := by
    rw [← about]
    exact Store.cast?_written_self row _
  have processed : state.committed.HasStatus "a" Store.processed := by
    rw [← hash]
    exact ⟨row, found, status⟩
  -- The first one is late.
  obtain ⟨row', move⟩ := late_moved deployment (state.desk 0) channel failure found (by rwa [fid])
  have undoes := late_failure_undoes_success fresh (before.trans onward) processed move
  have late : IsLateFailure "a" (state.stage 0) (.failed cast failure) := .mk hash
  have free : (state.cache.claim (claimKey cast) (.whole 60) 60).1 = true := by
    have key : claimKey cast = "cast:a" := by
      rw [claimKey, hash]
      rfl
    simp only [state, settled, freed, State.put, Desk.kept, Desk.claimed, Desk.freed, key]
    rfl
  exact ⟨fresh, state, before.trans onward, processed, _, _, move, undoes.1.mpr late,
    undoes.2 late 2 firstCast "c" channel cast 60 (by decide) rfl brings hash known active rfl free⟩

end Intake

end Curation
