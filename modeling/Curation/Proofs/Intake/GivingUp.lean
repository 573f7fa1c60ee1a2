import Curation.Api.Service
import Curation.Proofs.Intake.Rows

/-! How a delivery gives a cast up. It looks at the rows, claims the cast and moderates
it; when that fails it frees the claim, takes back what is not committed, and writes a
row. Only a delivery that did all of this has a failure that the source of events is told
to try again. -/
namespace Curation.Intake

open Moderation
open Program (Runs runs_bind runs_done runs_question runs_ofExcept)
open Store (Tables)

variable {deployment : Deployment} {event : Event} {channel : Channel} {cast : Cast} {failure : Failure}
  {transcript moderating : Transcript}

/-! ## Failures to try again -/

/-- The source of events is told to try again. -/
def IsRetried (failure : Failure) : Prop := (Api.eventFailure failure).status = 503

/-- A row cannot be written: the time of day is out of range, or the store refuses the row. -/
inductive IsUnwritten : Failure → Prop
  | untimely : IsUnwritten .dateOutOfRange
  | refused (fault : StoreFault) : IsUnwritten (.store fault)

theorem IsUnwritten.not_retried (unwritten : IsUnwritten failure) : ¬ IsRetried failure := by
  cases unwritten with
  | untimely | refused => simp [IsRetried, Api.eventFailure, Failure.isTransient, Api.Response.refusal]

/-- A row that cannot be read as a configuration holds text that is not JSON, or JSON that
is no configuration. -/
inductive IsUnread : Failure → Prop
  | notJson (fault : Json.Fault) (text : String) : IsUnread (.notJson fault text)
  | invalid (issues : List Decode.Issue) : IsUnread (.invalid issues)

theorem IsUnread.not_retried (unread : IsUnread failure) : ¬ IsRetried failure := by
  cases unread with
  | notJson | invalid => simp [IsRetried, Api.eventFailure, Failure.isTransient, Api.Response.refusal]

private theorem stored_unread {text : Option String}
    (unread : Store.ChannelRow.stored text = .error failure) : IsUnread failure := by
  unfold Store.ChannelRow.stored at unread
  split at unread
  · cases unread
  · cases unread
  · split at unread
    · cases unread
    · cases unread
      exact .notJson _ _

private theorem members_unread {row : Store.ChannelRow} (unread : row.members = .error failure) :
    IsUnread failure := by
  simp only [Store.ChannelRow.members, bind, Except.bind] at unread
  cases bypassed : Store.ChannelRow.stored (some row.bypassed) with
  | error other =>
    rw [bypassed] at unread
    cases unread
    exact stored_unread bypassed
  | ok =>
  cases inclusion : Store.ChannelRow.stored row.inclusion with
  | error other =>
    rw [bypassed, inclusion] at unread
    cases unread
    exact stored_unread inclusion
  | ok =>
  cases exclusion : Store.ChannelRow.stored row.exclusion with
  | error other =>
    rw [bypassed, inclusion, exclusion] at unread
    cases unread
    exact stored_unread exclusion
  | ok =>
    rw [bypassed, inclusion, exclusion] at unread
    cases unread

theorem configuration_unread {tables : Tables} {id : String}
    (unread : tables.configuration? id = .error failure) : IsUnread failure := by
  unfold Tables.configuration? at unread
  split at unread
  · cases unread
  · rename_i row _
    cases read : row.channel with
    | ok =>
      rw [read] at unread
      cases unread
    | error other =>
      rw [read] at unread
      cases unread
      simp only [Store.ChannelRow.channel, bind, Except.bind] at read
      split at read
      · rename_i unread
        cases read
        exact members_unread unread
      · split at read
        · cases read
        · cases read
          exact .invalid _

/-! ## Recording -/

/-- A recording reads the rows and the clock, then writes a row and commits it, or there is
no row. -/
theorem recordCast_exchanges {status : Int} {data : Json} {outcome : Except Failure Unit}
    (run : Runs (recordCast channel cast status data) transcript outcome) :
    (outcome = .ok () ∧ ∃ tables time, transcript =
        [⟨.tables, tables⟩, ⟨.clock, some time⟩,
          ⟨.write (.cast (Store.recordCast tables time cast.hash channel.id cast.author.fid status data)),
            .ok ()⟩,
          ⟨.commit, ()⟩]) ∨
      ∃ failure, outcome = .error failure ∧ IsUnwritten failure ∧
        ∀ row, ⟨.write (.cast row), .ok ()⟩ ∉ transcript := by
  cases run with
  | ask tables run =>
  cases run with
  | ask time run =>
  cases time with
  | none =>
    cases run
    exact .inr ⟨_, rfl, .untimely, by rintro row (_ | ⟨_, _ | ⟨_, ⟨⟩⟩⟩)⟩
  | some time =>
  cases run with
  | ask written run =>
  cases written with
  | error fault =>
    cases run
    exact .inr ⟨_, rfl, .refused fault, by rintro row (_ | ⟨_, _ | ⟨_, _ | ⟨_, ⟨⟩⟩⟩⟩)⟩
  | ok =>
  cases run with
  | ask _ run =>
  cases run
  exact .inl ⟨rfl, tables, time, rfl⟩

/-! ## Admission -/

/-- An admission into a channel reads the rows and comes to the cast, or answers at once,
or cannot record that the channel is not active. -/
theorem admitInto_exchanges {outcome : Except Failure (String ⊕ Channel × Cast)}
    (run : Runs (admitInto channel cast) transcript outcome) :
    (outcome = .ok (.inr (channel, cast)) ∧ ∃ tables, transcript = [⟨.tables, tables⟩]) ∨
      (∃ text, outcome = .ok (.inl text)) ∨
      ∃ failure, outcome = .error failure ∧ IsUnwritten failure := by
  unfold admitInto at run
  cases active : channel.active with
  | false =>
    simp only [active, Bool.not_false, if_true] at run
    rcases runs_bind.mp run with ⟨failure, rfl, unrecorded⟩ | ⟨_, _, _, rfl, recorded, ended⟩
    · rcases recordCast_exchanges unrecorded with ⟨same, -⟩ | ⟨_, same, unwritten, -⟩
      · cases same
      · cases same
        exact .inr (.inr ⟨failure, rfl, unwritten⟩)
    · exact .inr (.inl ⟨_, (runs_done.mp ended).1⟩)
  | true =>
    simp only [active, Bool.not_true, Bool.false_eq_true, if_false] at run
    rcases runs_bind.mp run with ⟨_, -, unread⟩ | ⟨_, tables, _, rfl, read, later⟩
    · obtain ⟨_, same, -⟩ := runs_question.mp unread
      cases same
    obtain ⟨_, -, rfl⟩ := runs_question.mp read
    split at later
    · exact .inr (.inl ⟨_, (runs_done.mp later).1⟩)
    · obtain ⟨rfl, rfl⟩ := runs_done.mp later
      exact .inl ⟨rfl, _, rfl⟩

/-- An admission reads the rows twice and comes to a cast, or answers at once, or fails for
good. -/
theorem admitEvent_exchanges {outcome : Except Failure (String ⊕ Channel × Cast)}
    (run : Runs (admitEvent event) transcript outcome) :
    (∃ admission, outcome = .ok (.inr admission) ∧
        ∃ first second, transcript = [⟨.tables, first⟩, ⟨.tables, second⟩]) ∨
      (∃ text, outcome = .ok (.inl text)) ∨
      ∃ failure, outcome = .error failure ∧ ¬ IsRetried failure := by
  rcases admitEvent_cases event with ⟨text, admitted⟩ | ⟨fault, admitted⟩ | ⟨channelId, cast, brings⟩
  · rw [admitted] at run
    exact .inr (.inl ⟨text, (runs_done.mp run).1⟩)
  · rw [admitted] at run
    cases run
    exact .inr (.inr ⟨_, rfl, by simp [IsRetried, Api.eventFailure, Api.Response.refusal]⟩)
  rw [brings.admitEvent_eq] at run
  rcases runs_bind.mp run with ⟨_, -, unread⟩ | ⟨_, tables, _, rfl, read, later⟩
  · obtain ⟨_, same, -⟩ := runs_question.mp unread
    cases same
  obtain ⟨_, -, rfl⟩ := runs_question.mp read
  rcases runs_bind.mp later with ⟨failure, rfl, unread⟩ | ⟨_, found, _, rfl, known, later⟩
  · obtain ⟨unread, -⟩ := runs_ofExcept.mp unread
    exact .inr (.inr ⟨failure, rfl, (configuration_unread unread.symm).not_retried⟩)
  obtain ⟨-, rfl⟩ := runs_ofExcept.mp known
  cases found with
  | none => exact .inr (.inl ⟨_, (runs_done.mp later).1⟩)
  | some channel =>
    rcases admitInto_exchanges later with ⟨rfl, _, rfl⟩ | answered | ⟨failure, rfl, unwritten⟩
    · exact .inl ⟨_, rfl, _, _, rfl⟩
    · exact .inr (.inl answered)
    · exact .inr (.inr ⟨failure, rfl, unwritten.not_retried⟩)

/-! ## Moderation -/

/-- A delivery that moderates a cast first moderates it, and then does what is left to do. -/
theorem inside_runs {claimed : Number} {rest : Moderation (List Log)} {outcome : Except Failure String}
    (run : Runs ((Stage.inside channel cast claimed rest).program deployment) transcript outcome) :
    ∃ moderating result closing, transcript = moderating ++ closing ∧ Runs rest moderating result ∧
      Runs ((Stage.inside channel cast claimed (.ofExcept result)).program deployment) closing outcome := by
  induction rest generalizing transcript with
  | done logs => exact ⟨[], .ok logs, transcript, rfl, .done logs, run⟩
  | failed failure => exact ⟨[], .error failure, transcript, rfl, .failed failure, run⟩
  | ask question next ih =>
    cases run with
    | ask answer run =>
    obtain ⟨moderating, result, closing, rfl, moderated, later⟩ := ih answer run
    exact ⟨_, result, closing, rfl, .ask answer moderated, later⟩

/-- What is left to do follows on moderation. -/
theorem inside_closed {claimed : Number} {rest : Moderation (List Log)} {closing : Transcript}
    {result : Except Failure (List Log)} {outcome : Except Failure String} (moderated : Runs rest moderating result)
    (closes : Runs ((Stage.inside channel cast claimed (.ofExcept result)).program deployment) closing outcome) :
    Runs ((Stage.inside channel cast claimed rest).program deployment) (moderating ++ closing) outcome := by
  induction moderated with
  | done | failed => exact closes
  | ask answer _ ih => exact .ask answer (ih closes)

/-- A delivery that gives a cast up frees its claim and takes back what is not committed.
It fails as moderation did, or because it cannot write a row about that. -/
theorem releasing_exchanges {outcome : Except Failure String}
    (run : Runs ((Stage.releasing channel cast failure).program deployment) transcript outcome) :
    ∃ recording recorded,
      transcript = ⟨.release (claimKey cast), ()⟩ :: ⟨.rollback, ()⟩ :: recording ∧
      Runs (recordCast channel cast Store.failed (.obj [("error", .str failure.message)])) recording
        recorded ∧
      outcome = .error (match recorded with | .ok () => failure | .error other => other) := by
  cases run with
  | ask _ run =>
  have run : Runs ((recordFailure channel cast failure).bind fun _ => .failed failure) _ outcome := run
  rcases runs_bind.mp run with ⟨other, rfl, unrecorded⟩ | ⟨_, _, _, rfl, recorded, ended⟩
  · cases unrecorded with
    | ask _ unrecorded => exact ⟨_, .error other, rfl, unrecorded, rfl⟩
  · cases ended
    cases recorded with
    | ask _ recorded => exact ⟨_, .ok (), congrArg _ (List.append_nil _), recorded, rfl⟩

/-! ## Deliveries -/

/-- A delivery admits and claims a cast, cannot moderate it, and writes a row about that. -/
inductive GivesUp (deployment : Deployment) (event : Event) (channel : Channel) (cast : Cast)
    (failure : Failure) (moderating : Transcript) : Transcript → Prop
  | mk {looking closing : Transcript} {row : Store.CastRow} :
    Runs (admitEvent event) looking (.ok (.inr (channel, cast))) →
    Runs (moderateCast deployment channel cast false) moderating (.error failure) →
    ⟨.write (.cast row), .ok ()⟩ ∈ closing →
    GivesUp deployment event channel cast failure moderating
      (looking ++ ⟨.claim (claimKey cast) (.whole deployment.claimTime), true⟩ :: (moderating ++ closing))

/-- A delivery looks at a cast, claims it, moderates it, and does what is left to do. -/
theorem takeIn_closed {looking closing : Transcript} {result : Except Failure (List Log)}
    {outcome : Except Failure String} (looked : Runs (admitEvent event) looking (.ok (.inr (channel, cast))))
    (moderated : Runs (moderateCast deployment channel cast false) moderating result)
    (closes : Runs ((Stage.inside channel cast 0 (.ofExcept result)).program deployment) closing outcome) :
    Runs (takeIn deployment event)
      (looking ++ ⟨.claim (claimKey cast) (.whole deployment.claimTime), true⟩ :: (moderating ++ closing))
      outcome := by
  have claimed : Runs (moderateClaimed deployment channel cast) (moderating ++ closing) outcome := by
    rw [← inside_eq channel cast 0]
    exact inside_closed moderated closes
  have claiming : Runs ((Stage.claiming channel cast).program deployment)
      (⟨.claim (claimKey cast) (.whole deployment.claimTime), true⟩ :: (moderating ++ closing)) outcome :=
    .ask _ claimed
  rw [takeIn_eq]
  exact runs_bind.mpr (.inr ⟨looking, _, _, rfl, looked, claiming⟩)

/-- What is left to do of a delivery whose moderation has come to an end. -/
theorem takeIn_moderated {looking closing : Transcript} {result : Except Failure (List Log)}
    {outcome : Except Failure String} (looked : Runs (admitEvent event) looking (.ok (.inr (channel, cast))))
    (moderated : Runs (moderateCast deployment channel cast false) moderating result)
    (run : Runs (takeIn deployment event)
      (looking ++ ⟨.claim (claimKey cast) (.whole deployment.claimTime), true⟩ :: (moderating ++ closing))
      outcome) :
    Runs ((Stage.inside channel cast 0 (.ofExcept result)).program deployment) closing outcome := by
  rw [takeIn_eq] at run
  have claiming := run.after looked
  cases claiming with
  | ask _ claimed =>
  have claimed : Runs (moderateClaimed deployment channel cast) (moderating ++ closing) outcome := claimed
  rw [← inside_eq channel cast 0] at claimed
  obtain ⟨_, _, rest, whole, moderated', later⟩ := inside_runs claimed
  obtain ⟨rfl, rfl⟩ := moderated.same moderated' whole
  rw [List.append_cancel_left whole]
  exact later

/-- A delivery whose moderation has failed gives its cast up. -/
theorem takeIn_releasing {looking closing : Transcript} {outcome : Except Failure String}
    (looked : Runs (admitEvent event) looking (.ok (.inr (channel, cast))))
    (failing : Runs (moderateCast deployment channel cast false) moderating (.error failure))
    (run : Runs (takeIn deployment event)
      (looking ++ ⟨.claim (claimKey cast) (.whole deployment.claimTime), true⟩ :: (moderating ++ closing))
      outcome) :
    Runs ((Stage.releasing channel cast failure).program deployment) closing outcome := by
  rw [← failed_eq channel cast 0]
  exact takeIn_moderated looked failing run

/-- A failure to try again is that of a delivery that has given its cast up. -/
theorem takeIn_retried (run : Runs (takeIn deployment event) transcript (.error failure))
    (retried : IsRetried failure) :
    ∃ channel cast moderating, GivesUp deployment event channel cast failure moderating transcript := by
  rw [takeIn_eq] at run
  rcases runs_bind.mp run with ⟨_, same, refused⟩ | ⟨looking, admission, _, rfl, looked, claiming⟩
  · cases same
    rcases admitEvent_exchanges refused with ⟨_, same, -⟩ | ⟨_, same⟩ | ⟨_, same, lasting⟩
    · cases same
    · cases same
    · cases same
      exact (lasting retried).elim
  cases admission with
  | inl text => cases claiming
  | inr admission =>
  obtain ⟨channel, cast⟩ := admission
  cases claiming with
  | ask taken claimed =>
  cases taken with
  | false => cases claimed
  | true =>
  have claimed : Runs (moderateClaimed deployment channel cast) _ _ := claimed
  rw [← inside_eq channel cast 0] at claimed
  obtain ⟨moderating, result, closing, rfl, moderated, later⟩ := inside_runs claimed
  cases result with
  | ok logs =>
    rw [Program.ofExcept, done_eq] at later
    rcases runs_bind.mp later with ⟨_, same, unrecorded⟩ | ⟨_, _, _, _, _, ended⟩
    · cases same
      rcases recordCast_exchanges unrecorded with ⟨same, -⟩ | ⟨_, same, unwritten, -⟩
      · cases same
      · cases same
        exact (unwritten.not_retried retried).elim
    · cases ended
  | error other =>
    rw [Program.ofExcept, failed_eq] at later
    obtain ⟨recording, recorded, rfl, recording_, same⟩ := releasing_exchanges later
    rcases recordCast_exchanges recording_ with ⟨rfl, tables, time, rfl⟩ | ⟨_, rfl, unwritten, -⟩
    · cases same
      exact ⟨channel, cast, moderating, .mk looked moderated
        (.tail _ (.tail _ (.tail _ (.tail _ (.head _)))))⟩
    · cases same
      exact (unwritten.not_retried retried).elim

end Curation.Intake
