import Curation.Proofs.Cache.Claims
import Curation.Proofs.Intake.Tidy

/-! What a turn of a delivery comes to while the cache is in the process: it claims a cast
that is to be done and is not claimed, works on it without touching any claim, or ends
with the row of the cast written and the claim kept, or freed in the same turn. -/
namespace Curation.Intake

open Moderation
open Store (Tables Change)

variable {deployment : Deployment} {desk after : Desk} {stage : Stage}

/-! ## The cache -/

/-- The cache of the process after something was done with it: the claims that were alive
are still there. -/
def Honours (cache after : Cache) (now : Number) : Prop :=
  after.backend = .memory ∧ ∀ cast entry, cache.Holds (claimKey cast) entry now →
    after.Holds (claimKey cast) entry now

/-- Checks drop no claim. -/
theorem letting_honours {case : Case} {leaf : Condition} {question : Check.Ask}
    (memory : desk.cache.backend = .memory)
    (may : (Rehearsal.taskOf deployment case leaf).MayAsk question) :
    Honours desk.cache (desk.letting question).cache desk.now := by
  have asked := (Rehearsal.taskOf_asks deployment case leaf).of_mayAsk may
  cases question with
  | remote | together | timeLeft | pause | clearLogs => exact ⟨memory, fun _ _ holds => holds⟩
  | cached key => exact ⟨Cache.get_memory memory, fun _ _ holds => Cache.get_holds memory holds key⟩
  | keep key value ttl =>
    have own : Check.IsOwnKey key := by
      rcases asked with looking | ⟨same, -⟩
      · exact looking
      · cases same
    have apart (cast : Cast) : claimKey cast ≠ key := by
      rintro rfl
      exact claimKey_not_own cast own
    exact ⟨Cache.write_memory memory false,
      fun cast _ holds => Cache.write_holds memory holds (apart cast) false⟩

/-! ## A turn -/

/-- What a turn comes to while the cache is in the process. -/
inductive Visit (deployment : Deployment) (desk : Desk) : Stage → Desk → Stage → Prop where
  | answered {after : Desk} {event : Event} {outcome : Except Failure String} :
    desk.Leaves after → Visit deployment desk (.expected event) after (.answered outcome)
  | met {event : Event} {cast : Cast} {outcome : Except Failure String} :
    Visit deployment desk (.expected event) (desk.claimed deployment cast) (.answered outcome)
  | admitted {event : Event} {channel : Channel} {cast : Cast} :
    ¬ desk.committed.IsDone cast.hash → desk.isFree deployment cast = true →
    Visit deployment desk (.expected event) (desk.claimed deployment cast)
      (.inside channel cast desk.now (moderateCast deployment channel cast false))
  | worked {after : Desk} {channel : Channel} {cast : Cast} {claimed : Number}
      {rest rest' : Moderation (List Log)} :
    desk.Works after → Honours desk.cache after.cache desk.now →
    Visit deployment desk (.inside channel cast claimed rest) after (.inside channel cast claimed rest')
  | processed {channel : Channel} {cast : Cast} {claimed : Number} {rest : Moderation (List Log)}
      {row : Store.CastRow} :
    row.hash = cast.hash → row.status = Store.processed →
    Visit deployment desk (.inside channel cast claimed rest) (desk.kept (.cast row)) (.processed cast)
  | failed {channel : Channel} {cast : Cast} {claimed : Number} {rest : Moderation (List Log)}
      {failure : Failure} {row : Store.CastRow} :
    row.hash = cast.hash →
    Visit deployment desk (.inside channel cast claimed rest)
      ((desk.freed cast).undone.kept (.cast row)) (.failed cast failure)
  | unrecorded {after : Desk} {channel : Channel} {cast : Cast} {claimed : Number}
      {rest : Moderation (List Log)} {failure : Failure} :
    Visit deployment desk (.inside channel cast claimed rest) after (.unrecorded cast failure)

private theorem claiming_visit {event : Event} {channel : Channel} {cast : Cast}
    (undone : ¬ desk.committed.IsDone cast.hash)
    (turn : Turn deployment desk (.claiming channel cast) after stage) :
    Visit deployment desk (.expected event) after stage := by
  cases turn with
  | last move _ =>
    cases move with
    | claim taken =>
      obtain ⟨taken, rfl⟩ := taken
      exact .admitted undone taken.symm
    | meet taken =>
      obtain ⟨-, rfl⟩ := taken
      exact .met
  | more move restless _ =>
    cases move with
    | claim | meet => cases restless

private theorem released_visit {channel : Channel} {cast : Cast} {claimed : Number}
    {rest : Moderation (List Log)} {failure : Failure}
    (turn : Turn deployment (desk.freed cast)
      (.released channel cast failure) after stage) :
    Visit deployment desk (.inside channel cast claimed rest) after stage := by
  cases turn with
  | last move _ =>
    cases move with
    | settle recorded answered =>
      rcases recordFailure_answered recorded answered with ⟨-, row, same, -, rfl⟩ | ⟨_, failed, -⟩
      · exact .failed same
      · cases failed
    | drop => exact .unrecorded
  | more move restless _ =>
    cases move with
    | settle | drop => cases restless

private theorem failed_visit {channel : Channel} {cast : Cast} {claimed : Number}
    {rest : Moderation (List Log)} {failure : Failure}
    (turn : Turn deployment desk (.releasing channel cast failure) after stage) :
    Visit deployment desk (.inside channel cast claimed rest) after stage := by
  cases turn with
  | last move resting =>
    cases move with
    | release => cases resting
  | more move _ turn =>
    cases move with
    | release freed =>
      obtain rfl := freed
      exact released_visit turn

/-- A turn at a tidy desk is one of these. -/
theorem Turn.visit {stage' : Stage} (memory : desk.cache.backend = .memory) (tidy : IsTidy desk stage)
    (resting : stage.isResting = true) (turn : Turn deployment desk stage after stage') :
    Visit deployment desk stage after stage' := by
  cases turn with
  | last move rests =>
    cases move with
    | answer admitted answered | refuse admitted answered =>
      rcases admitEvent_answered (tidy.idle _ rfl) admitted answered with ⟨_, _, same, -⟩ | ⟨-, leaves⟩
      · cases same
      · exact .answered leaves
    | enter | fail => cases rests
    | claim | meet | release | settle | drop => cases resting
    | ask answers =>
      cases tidy.asks _ _ _ _ rfl with
      | ask moderating _ =>
        obtain ⟨works, same⟩ := answers_works tidy.spares moderating answers
        refine .worked works ?_
        rw [same]
        exact ⟨memory, fun _ _ holds => holds⟩
    | check may =>
      exact .worked (letting_works tidy.spares _) (letting_honours memory may)
    | succeed recorded answered =>
      rcases recordCast_answered recorded answered with ⟨-, row, same, status, rfl⟩ | ⟨_, failed, -⟩
      · exact .processed same status
      · cases failed
    | lose => exact .unrecorded
  | more move restless turn =>
    cases move with
    | enter admitted answered =>
      rcases admitEvent_answered (tidy.idle _ rfl) admitted answered with
        ⟨_, _, same, rfl, undone⟩ | ⟨other, -⟩
      · cases same
        exact claiming_visit undone turn
      · exact (other _ rfl).elim
    | fail => exact failed_visit turn
    | answer | refuse | ask | check | succeed | lose => cases restless
    | claim | meet | release | settle | drop => cases resting

end Curation.Intake
