import Curation.Proofs.Intake.GivingUp
import Curation.Proofs.Intake.LateFailure
import Curation.Proofs.Intake.Meeting

/-! Casts that are delivered again. A delivery whose moderation fails at any point leaves
its desk so that the next one moderates the cast: the claim is free, whatever becomes of
the server of the cache; what was not committed is gone, while the actions that were
carried out stay with their entries; and the row of the cast says that it failed, and why. -/
namespace Curation.Intake

open Moderation
open Program (Runs runs_bind runs_bind_ok runs_recover answered_append answered_question)
open Store (Change Session Tables)

variable {deployment : Deployment} {event : Event} {channelId : String} {channel : Channel} {cast : Cast}
  {failure : Failure} {transcript : Transcript} {desk after : Desk}

namespace Desk

/-- Looking at the rows twice changes nothing. -/
theorem met_looks {first second : Tables}
    (met : desk.Met deployment [⟨.tables, first⟩, ⟨.tables, second⟩] after) :
    first = desk.tables ∧ second = desk.tables ∧ desk.Drifts after := by
  cases met with
  | cons looks met =>
  cases met with
  | cons looks' met =>
  cases met
  obtain ⟨_, drifts, rfl, rfl⟩ := looks
  obtain ⟨_, drifts', rfl, rfl⟩ := looks'
  exact ⟨drifts.tables, (drifts.trans drifts').tables, drifts.trans drifts'⟩

theorem Answers.wrote {change : Change} (answers : desk.Answers (.write change) (.ok ()) after) :
    after = { desk with pending := desk.pending ++ [change] } := by
  simp only [Desk.Answers] at answers
  split at answers
  · cases answers.1
  · exact answers.2

/-- A row is recorded in the place of all that was not committed. -/
theorem met_recorded {tables : Tables} {time : Moment} {row : Store.CastRow}
    (met : desk.Met deployment [⟨.rollback, ()⟩, ⟨.tables, tables⟩, ⟨.clock, some time⟩,
      ⟨.write (.cast row), .ok ()⟩, ⟨.commit, ()⟩] after) :
    after.committed = (Change.cast row).apply desk.committed ∧ after.pending = [] := by
  cases met with
  | cons undoes met =>
  cases met with
  | cons looks met =>
  cases met with
  | cons times met =>
  cases met with
  | cons writes met =>
  obtain ⟨ready, drifts, rfl⟩ := undoes
  obtain ⟨_, drifts₁, -, rfl⟩ := looks
  obtain ⟨_, drifts₂, rfl⟩ := times
  obtain ⟨_, drifts₃, writes⟩ := writes
  obtain rfl := writes.wrote
  obtain ⟨_, drifts₄, rfl⟩ := answered_question.mp met
  have clean := (drifts₁.trans drifts₂).trans drifts₃
  refine ⟨?_, rfl⟩
  rw [drifts₄.tables, tables_write, clean.tables, tables_idle rfl]
  show (Change.cast row).apply ready.committed = _
  rw [drifts.committed]

end Desk

/-- A cast is admitted to an active channel unless it has been done. -/
theorem admitEvent_met {outcome : Except Failure (String ⊕ Channel × Cast)}
    (brings : Brings event channelId cast)
    (known : desk.tables.configuration? channelId = .ok (some channel)) (active : channel.active = true)
    (run : Runs (admitEvent event) transcript outcome) (met : desk.Met deployment transcript after) :
    desk.Drifts after ∧ (∃ first second, transcript = [⟨.tables, first⟩, ⟨.tables, second⟩]) ∧
      (desk.tables.IsDone cast.hash ∧ outcome = .ok (.inl "Already processed") ∨
        ¬ desk.tables.IsDone cast.hash ∧ outcome = .ok (.inr (channel, cast))) := by
  rw [brings.admitEvent_eq] at run
  cases run with
  | ask tables run =>
  cases met with
  | @cons _ middle _ _ _ _ looks met =>
  obtain ⟨_, drifts, rfl, rfl⟩ := looks
  rw [← drifts.tables] at known ⊢
  have run : Runs ((Program.ofExcept (middle.tables.configuration? channelId)).bind _) _ outcome := run
  rw [known] at run
  have run : Runs (admitInto channel cast) _ outcome := run
  simp only [admitInto, active, Bool.not_true, Bool.false_eq_true, if_false] at run
  cases run with
  | ask tables run =>
  cases met with
  | cons looks met =>
  obtain ⟨_, drifts', rfl, rfl⟩ := looks
  have since := drifts.trans drifts'
  rw [← drifts'.tables]
  have run : Runs (if _ then _ else _) _ outcome := run
  split at run
  · rename_i done
    cases run
    cases met
    exact ⟨since, ⟨_, _, rfl⟩, .inl ⟨(isDone_iff _ _).mpr done, rfl⟩⟩
  · rename_i undone
    cases run
    cases met
    exact ⟨since, ⟨_, _, rfl⟩, .inr ⟨(isDone_iff _ _).not.mpr undone, rfl⟩⟩

/-! ## Casts that can be moderated again -/

/-- A delivery claims a cast and moderates it. -/
inductive Moderates (deployment : Deployment) (channel : Channel) (cast : Cast) : Transcript → Prop
  | mk {looking moderating closing : Transcript} {result : Except Failure (List Log)} :
    Runs (moderateCast deployment channel cast false) moderating result →
    Moderates deployment channel cast
      (looking ++ ⟨.claim (claimKey cast) (.whole deployment.claimTime), true⟩ :: (moderating ++ closing))

theorem Moderates.claims (moderates : Moderates deployment channel cast transcript) :
    ⟨.claim (claimKey cast) (.whole deployment.claimTime), true⟩ ∈ transcript := by
  cases moderates with
  | mk => exact List.mem_append_right _ (.head _)

/-- A cast was given up, and its moderation can be tried again. -/
structure IsRetryable (deployment : Deployment) (channel : Channel) (cast : Cast) (failure : Failure)
    (before : Tables) (moderating : Transcript) (after : Desk) : Prop where
  free : ∀ later, after.Drifts later → later.isFree deployment cast = true
  idle : after.pending = []
  recorded : ∃ kept row,
    Falters deployment ⟨channel, cast.author, some cast, false⟩ failure before moderating kept ∧
    after.committed = (Change.cast row).apply kept ∧ after.committed.cast? cast.hash = some row ∧
    row.status = Store.failed ∧ row.data = (Json.obj [("error", .str failure.message)]).spaced
  again : ∀ {event : Event} {channelId : String} {channel : Channel} {next : Cast} {transcript : Transcript}
    {outcome : Except Failure String} {later : Desk}, Brings event channelId next → next.hash = cast.hash →
    after.committed.configuration? channelId = .ok (some channel) → channel.active = true →
    Runs (takeIn deployment event) transcript outcome → after.Met deployment transcript later →
    Moderates deployment channel next transcript

/-- A cast that comes to an active channel is spared if it has been done. If not the delivery tries
for the claim, and moderates the cast if it can be had. -/
theorem takeIn_met {outcome : Except Failure String} (idle : desk.pending = [])
    (brings : Brings event channelId cast)
    (known : desk.committed.configuration? channelId = .ok (some channel)) (active : channel.active = true)
    (run : Runs (takeIn deployment event) transcript outcome) (met : desk.Met deployment transcript after) :
    (desk.committed.IsDone cast.hash ∧ outcome = .ok "Already processed" ∧
        ¬ Moderates deployment channel cast transcript) ∨
      ¬ desk.committed.IsDone cast.hash ∧ ∃ ready, desk.Drifts ready ∧
        ⟨.claim (claimKey cast) (.whole deployment.claimTime), ready.isFree deployment cast⟩ ∈ transcript ∧
        (ready.isFree deployment cast = true → Moderates deployment channel cast transcript) := by
  rw [← Desk.tables_idle idle] at known ⊢
  rw [takeIn_eq] at run
  rcases runs_bind.mp run with ⟨_, -, refused⟩ | ⟨looking, admission, rest, rfl, looked, claiming⟩
  · obtain ⟨-, -, ⟨-, same⟩ | ⟨-, same⟩⟩ := admitEvent_met brings known active refused met
    · cases same
    · cases same
  obtain ⟨between, for_looking, for_claiming⟩ := answered_append.mp met
  obtain ⟨drifts, ⟨first, second, rfl⟩, ⟨done, same⟩ | ⟨undone, same⟩⟩ :=
    admitEvent_met brings known active looked for_looking
  · cases same
    cases claiming
    refine .inl ⟨done, rfl, fun moderates => ?_⟩
    obtain _ | ⟨_, _ | ⟨_, ⟨⟩⟩⟩ := moderates.claims
  · cases same
    cases claiming with
    | ask taken claimed =>
    cases for_claiming with
    | cons claims _ =>
    obtain ⟨ready, drifts', rfl, -⟩ := claims
    refine .inr ⟨undone, ready, drifts.trans drifts', List.mem_append_right _ (.head _), fun free => ?_⟩
    rw [show (ready.cache.claim (claimKey cast) (.whole deployment.claimTime) ready.now).1 = true from free]
      at claimed ⊢
    have claimed : Runs (moderateClaimed deployment channel cast) _ outcome := claimed
    rw [← inside_eq channel cast 0] at claimed
    obtain ⟨_, _, _, rfl, moderated, -⟩ := inside_runs claimed
    exact .mk moderated

/-- A cast that is free and not done is moderated, whatever becomes of it. -/
theorem moderated_again {outcome : Except Failure String} (idle : desk.pending = [])
    (unclaimed : desk.cache.IsUnclaimed (claimKey cast)) (undone : ¬ desk.committed.IsDone cast.hash)
    (brings : Brings event channelId cast)
    (known : desk.committed.configuration? channelId = .ok (some channel)) (active : channel.active = true)
    (run : Runs (takeIn deployment event) transcript outcome) (met : desk.Met deployment transcript after) :
    Moderates deployment channel cast transcript := by
  rcases takeIn_met idle brings known active run met with ⟨done, -⟩ | ⟨-, ready, drifts, -, moderates⟩
  · exact absurd done undone
  · exact moderates ((drifts.unclaimed unclaimed).claim (.whole deployment.claimTime) ready.now)

/-- Moderation begins with nothing on the desk that is not committed. -/
theorem met_moderating {looking moderating : Transcript} {taken : Bool} (idle : desk.pending = [])
    (looked : Runs (admitEvent event) looking (.ok (.inr (channel, cast))))
    (met : desk.Met deployment
      (looking ++ ⟨.claim (claimKey cast) (.whole deployment.claimTime), taken⟩ :: moderating) after) :
    Served (.clean desk.committed) moderating after.session := by
  rcases admitEvent_exchanges looked with ⟨_, -, first, second, rfl⟩ | ⟨_, same⟩ | ⟨_, same, -⟩
  · obtain ⟨looking, for_looking, met⟩ := answered_append.mp met
    obtain ⟨-, -, drifts⟩ := Desk.met_looks for_looking
    cases met with
    | cons claims met =>
    obtain ⟨ready, drifts', -, rfl⟩ := claims
    have clean : (ready.claimed deployment cast).session = .clean desk.committed := by
      show ready.session = _
      rw [drifts'.session, drifts.session, Desk.session, Desk.tables_idle idle]
      rfl
    rw [← clean]
    exact Desk.met_served met
  · cases same
  · cases same

theorem GivesUp.retryable {moderating : Transcript} {outcome : Except Failure String}
    (gives : GivesUp deployment event channel cast failure moderating transcript)
    (idle : desk.pending = []) (sound : desk.cache.IsSound)
    (run : Runs (takeIn deployment event) transcript outcome) (met : desk.Met deployment transcript after) :
    outcome = .error failure ∧
      IsRetryable deployment channel cast failure desk.committed moderating after := by
  obtain ⟨looked, failing, listed⟩ := gives
  -- The delivery fails as moderation did, since its row was written.
  obtain ⟨recording, recorded, rfl, recorded_, rfl⟩ :=
    releasing_exchanges (takeIn_releasing looked failing run)
  obtain ⟨rfl, tables, time, rfl⟩ | ⟨_, -, -, unwritten⟩ := recordCast_exchanges recorded_
  · refine ⟨rfl, ?_⟩
    rw [← List.cons_append, ← List.append_assoc] at met
    obtain ⟨failed, working, releasing⟩ := answered_append.mp met
    cases releasing with
    | cons releases recording =>
    obtain ⟨ready, drifts, rfl⟩ := releases
    obtain ⟨left, clean⟩ := Desk.met_recorded recording
    have falters : Falters deployment ⟨channel, cast.author, some cast, false⟩ failure desk.committed
        moderating failed.session.committed :=
      moderate_falters rfl failing (met_moderating idle looked working)
    have unclaimed : after.cache.IsUnclaimed (claimKey cast) :=
      Desk.met_unclaimed recording (by simp [Desk.sparesCache])
        (Cache.release_unclaimed (drifts.sound (Desk.met_sound working sound)) _)
    let row := Store.recordCast tables time cast.hash channel.id cast.author.fid Store.failed
      (.obj [("error", .str failure.message)])
    have kept : after.committed = (Change.cast row).apply failed.session.committed := by
      rw [left]
      exact congrArg _ drifts.committed
    have found : after.committed.cast? cast.hash = some row := by
      rw [kept, ← Store.recordCast_hash tables time cast.hash channel.id cast.author.fid Store.failed]
      exact Store.cast?_written_self row _
    have undone : ¬ after.committed.IsDone cast.hash := by
      rintro ⟨_, found', status⟩
      rw [found] at found'
      cases found'
      exact status (Store.recordCast_status ..)
    exact {
      free := fun later drifts => (drifts.unclaimed unclaimed).claim _ _
      idle := clean
      recorded := ⟨_, row, falters, kept, found, Store.recordCast_status .., Store.recordCast_data ..⟩
      again := fun {event channelId channel next _ _ _} brings same known active run met => by
        have key : claimKey next = claimKey cast := by rw [claimKey, claimKey, same]
        exact moderated_again clean (by rwa [key]) (by rwa [same]) brings known active run met }
  · obtain _ | ⟨_, _ | ⟨_, listed⟩⟩ := listed
    exact (unwritten _ listed).elim

/-! ## The answer to the source of events -/

/-- What is answered when an event has been taken in, or has not. -/
private theorem answered_eq (taking : Moderation String) :
    (do try return .ok (.obj [("message", .str (← taking))])
        catch failure => return Api.eventFailure failure : Moderation Api.Response) =
      (taking.bind fun text => .done (.ok (.obj [("message", .str text)]))).recover
        fun failure => .done (Api.eventFailure failure) := by
  induction taking with
  | done | failed => rfl
  | ask question next ih => exact congrArg (Program.ask question) (funext ih)

/-- The source of events is told what a delivery has come to. -/
theorem takeEvent_eq {service : Api.Service} {request : Api.Request}
    (able : ¬ service.deployment.permits < 1) (read : request.readBody Event.read = .ok event) :
    Api.withDeployment service request (Api.takeEvent service request) =
      ((takeIn service.deployment event).bind fun text => .done (.ok (.obj [("message", .str text)]))).recover
        fun failure => .done (Api.eventFailure failure) := by
  have body : ∃ value, request.value? = .ok value := by
    unfold Api.Request.readBody at read
    cases valued : request.value? with
    | ok value => exact ⟨value, rfl⟩
    | bad issues =>
      rw [valued] at read
      cases read
  obtain ⟨_, body⟩ := body
  simp only [Api.withDeployment, Api.withShape, body, ready, if_neg able, Api.takeEvent, read]
  exact answered_eq _

/-- The source is told to try again where a delivery has failed so. -/
theorem takeEvent_retried {service : Api.Service} {request : Api.Request} {response : Api.Response}
    (run : Runs (Api.withDeployment service request (Api.takeEvent service request)) transcript (.ok response))
    (status : response.status = 503) :
    ∃ event failure, request.readBody Event.read = .ok event ∧
      Runs (takeIn service.deployment event) transcript (.error failure) ∧ IsRetried failure := by
  cases read : request.readBody Event.read with
  | bad issues =>
    simp only [Api.withDeployment, Api.withShape, Api.takeEvent, read] at run
    split at run
    · rcases runs_bind.mp run with ⟨_, same, -⟩ | ⟨_, _, _, rfl, -, refused⟩
      · cases same
      · cases refused
        cases status
    · cases run
      cases status
  | ok event =>
  by_cases unable : service.deployment.permits < 1
  · simp only [Api.withDeployment, Api.withShape, ready, if_pos unable] at run
    split at run
    · cases run
    · cases run
      cases status
  · rw [takeEvent_eq unable read] at run
    rcases runs_recover.mp run with ⟨_, same, answered⟩ | ⟨_, failure, _, rfl, failed, refused⟩
    · obtain ⟨_, _, _, _, _, told⟩ := runs_bind_ok.mp answered
      cases same
      cases told
      cases status
    · cases refused
      rcases runs_bind.mp failed with ⟨_, same, taking⟩ | ⟨_, _, _, _, _, told⟩
      · cases same
        exact ⟨event, failure, rfl, by rwa [List.append_nil], status⟩
      · cases told

/-! ## Deliveries that can be tried again -/

/-- A delivery that gives a cast up fails as its moderation did, and leaves the cast to be
moderated again. So does every delivery after which the source of events is told to try
again. -/
theorem failed_delivery_is_retryable (service : Api.Service) (idle : desk.pending = [])
    (sound : desk.cache.IsSound) (met : desk.Met service.deployment transcript after) :
    (∀ event channel cast failure moderating outcome,
      GivesUp service.deployment event channel cast failure moderating transcript →
      Runs (takeIn service.deployment event) transcript outcome →
      outcome = .error failure ∧
        IsRetryable service.deployment channel cast failure desk.committed moderating after) ∧
    (∀ request response,
      Runs (Api.withDeployment service request (Api.takeEvent service request)) transcript (.ok response) →
      response.status = 503 →
      ∃ event channel cast failure moderating, request.readBody Event.read = .ok event ∧
        GivesUp service.deployment event channel cast failure moderating transcript ∧
        IsRetryable service.deployment channel cast failure desk.committed moderating after) := by
  refine ⟨fun event channel cast failure moderating outcome gives run => gives.retryable idle sound run met,
    fun request response run status => ?_⟩
  obtain ⟨event, failure, read, taking, retried⟩ := takeEvent_retried run status
  obtain ⟨channel, cast, moderating, gives⟩ := takeIn_retried taking retried
  exact ⟨event, channel, cast, failure, moderating, read, gives, (gives.retryable idle sound taking met).2⟩

/-! ## A delivery that is held back -/

/-- A delivery of a new cast that the network holds back gives the cast up. -/
theorem held_back_gives_up (brings : Brings event channelId cast)
    (known : desk.tables.configuration? channelId = .ok (some channel)) (active : channel.active = true)
    (new : desk.tables.cast? cast.hash = none) (idle : desk.pending = [])
    (free : desk.isFree deployment cast = true) (unlisted : channel.isBypassed cast.author.fid = false)
    (fits : Store.fits cast.author.fid = true) :
    ∃ transcript moderating after,
      GivesUp deployment event channel cast (heldBack deployment) moderating transcript ∧
      Runs (takeIn deployment event) transcript (.error (heldBack deployment)) ∧
      desk.Answered transcript after := by
  let failure := heldBack deployment
  let data : Json := .obj [("error", .str failure.message)]
  let freed := ((desk.claimed deployment cast).freed cast).undone
  let row : Store.CastRow :=
    ⟨cast.hash, channel.id, cast.author.fid, Store.failed, data.spaced, Moment.epoch.stored⟩
  have undone : ¬ desk.tables.IsDone cast.hash := by
    rintro ⟨_, found, -⟩
    rw [new] at found
    cases found
  obtain ⟨looking, looked, for_looking⟩ := admitEvent_runs desk brings known active undone
  obtain ⟨moderating, failing, for_moderating⟩ :=
    owner_is_unknown deployment (desk.claimed deployment cast) unlisted
  have shape : Store.recordCast freed.tables Moment.epoch cast.hash channel.id cast.author.fid Store.failed
      data = row := by
    have absent : freed.tables.cast? cast.hash = none := by
      rw [Desk.tables_idle idle] at new
      exact new
    rw [Store.recordCast, absent]
  obtain ⟨recording, recorded, for_recording⟩ := recordCast_runs freed channel cast Store.failed data
    Moment.epoch shape (Store.cast_allowed fits (show Store.fits Store.failed = true by decide) _)
  let closing : Transcript := ⟨.release (claimKey cast), ()⟩ :: ⟨.rollback, ()⟩ :: recording
  have written : ∃ row, ⟨.write (.cast row), .ok ()⟩ ∈ closing := by
    rcases recordCast_exchanges recorded with ⟨-, tables, time, rfl⟩ | ⟨_, same, -⟩
    · exact ⟨_, .tail _ (.tail _ (.tail _ (.tail _ (.head _))))⟩
    · cases same
  obtain ⟨row, written⟩ := written
  have gaveUp : Runs (recordFailure channel cast failure) (⟨.rollback, ()⟩ :: recording) (.ok ()) :=
    .ask _ recorded
  have thrown : Runs ((recordFailure channel cast failure).bind fun _ => .failed failure : Moderation String)
      (⟨.rollback, ()⟩ :: recording) (.error failure) :=
    runs_bind.mpr (.inr ⟨_, (), [], (List.append_nil _).symm, gaveUp, .failed _⟩)
  have closes : Runs ((Stage.inside channel cast 0 (.failed failure)).program deployment) closing
      (.error failure) := by
    rw [failed_eq]
    exact .ask _ thrown
  have for_claimed : (desk.claimed deployment cast).Answered (moderating ++ closing) _ :=
    answered_append.mpr ⟨_, for_moderating, .cons rfl (.cons rfl for_recording)⟩
  exact ⟨_, moderating, _, .mk looked failing written, takeIn_closed looked failing closes,
    answered_append.mpr ⟨desk, for_looking, .cons ⟨free.symm, rfl⟩ for_claimed⟩⟩

/-- An event brings a cast of user 7 to the channel that is stored. -/
def isFirst (event : Event) : Bool :=
  event.type == Event.castCreated && event.channel? == some "c" &&
    match Cast.read .value (.obj event.data) with
    | .ok cast => !cast.isReply && cast.author.fid == 7
    | .bad _ => false

/-- The event as the source sends it. -/
def firstRequest : Api.Request where
  method := "POST"
  path := "/api/v1/webhooks/neynar"
  body := some
    ("\x7b\"type\":\"cast.created\",\"data\":\x7b\"hash\":\"a\"," ++
      "\"author\":\x7b\"fid\":7\x7d,\"channel\":\x7b\"id\":\"c\"\x7d\x7d\x7d")

theorem firstRequest_brings : ∃ event cast, firstRequest.readBody Event.read = .ok event ∧
    Brings event "c" cast ∧ cast.author.fid = 7 := by
  have computed : (match firstRequest.readBody Event.read with
      | .ok event => isFirst event
      | .bad _ => false) = true := by decide +kernel
  cases read : firstRequest.readBody Event.read with
  | bad issues =>
    rw [read] at computed
    cases computed
  | ok event =>
    rw [read] at computed
    simp only [isFirst, Bool.and_eq_true, beq_iff_eq] at computed
    obtain ⟨⟨created, named⟩, brought⟩ := computed
    split at brought
    · rename_i cast known
      simp only [Bool.and_eq_true, Bool.not_eq_true', beq_iff_eq] at brought
      exact ⟨event, cast, rfl, ⟨created, named, known, brought.1⟩, brought.2⟩
    · cases brought

/-- While the network holds its calls back, the source of events is told to try again, and
the cast can be moderated then. -/
theorem held_back_event_is_retryable :
    let service : Api.Service := ⟨"", "", default, ⟨[], .nil⟩, false, 60, 1⟩
    let desk : Desk := ⟨bareTables, [], {}, 0⟩
    ∃ transcript response after, desk.Met service.deployment transcript after ∧
      Runs (Api.withDeployment service firstRequest (Api.takeEvent service firstRequest)) transcript
        (.ok response) ∧ response.status = 503 ∧
      ∃ event channel cast failure moderating, firstRequest.readBody Event.read = .ok event ∧
        GivesUp service.deployment event channel cast failure moderating transcript ∧
        IsRetryable service.deployment channel cast failure bareTables moderating after := by
  intro service desk
  obtain ⟨event, cast, read, brings, author⟩ := firstRequest_brings
  obtain ⟨_, channel, -, -, -, known, active, unlisted⟩ := firstCast_brings
  rw [← author] at unlisted
  have fits : Store.fits cast.author.fid = true := by
    rw [author]
    decide
  obtain ⟨transcript, moderating, after, gives, taken, answered⟩ :=
    @held_back_gives_up service.deployment event "c" channel cast desk brings known active rfl rfl rfl
      unlisted fits
  have met : desk.Met service.deployment transcript after := Desk.answered_met answered
  have sound : desk.cache.IsSound := Cache.memory_sound rfl
  have told : Runs (Api.withDeployment service firstRequest (Api.takeEvent service firstRequest)) transcript
      (.ok (Api.eventFailure (heldBack service.deployment))) := by
    rw [takeEvent_eq (by decide) read]
    exact runs_recover.mpr (.inr ⟨transcript, _, [], (List.append_nil _).symm,
      runs_bind.mpr (.inl ⟨_, rfl, taken⟩), .done _⟩)
  exact ⟨transcript, _, after, met, told, rfl,
    (failed_delivery_is_retryable service rfl sound met).2 firstRequest _ told rfl⟩

end Curation.Intake
