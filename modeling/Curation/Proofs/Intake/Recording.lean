import Curation.Proofs.Intake.Moderating
import Curation.Proofs.Intake.Retry
import Curation.Proofs.Json.Numbers

/-! What a delivery leaves about its cast. The row of a cast names its author as a number, in a
column of 64 bits, while entries and suspensions name users as text. So a cast whose author has a
longer fid is moderated like any other, but no row can say so. -/
namespace Curation

namespace Store

/-- The author that a row about a cast names: the one that is named already, if there is a row. -/
def Tables.authorOf (tables : Tables) (hash : String) (fid : Int) : Int :=
  ((tables.cast? hash).map (·.authorFid)).getD fid

theorem recordCast_author (tables : Tables) (now : Moment) (hash channel : String)
    (authorFid status : Int) (data : Json) :
    (recordCast tables now hash channel authorFid status data).authorFid = tables.authorOf hash authorFid := by
  unfold recordCast Tables.authorOf
  cases tables.cast? hash with
  | none | some row => rfl

/-- A row about a cast is refused for its author alone. -/
theorem cast_fault? {row : CastRow} (status : fits row.status = true) (tables : Tables) :
    (Change.cast row).fault? tables = if fits row.authorFid then none else some .tooLarge := by
  cases held : fits row.authorFid with
  | true => exact cast_allowed held status tables
  | false => simp [Change.fault?, Change.integers, held]

theorem Tables.authorOf_of_casts {tables other : Tables} (same : other.casts = tables.casts) (hash : String)
    (fid : Int) : other.authorOf hash fid = tables.authorOf hash fid := by
  rw [authorOf, authorOf, Tables.cast?_of_casts same]

end Store

namespace Intake

open Moderation
open Program (Runs runs_bind runs_bind_ok runs_done answered_append answered_question)
open Store (Change Session Tables)

variable {deployment : Deployment} {event : Event} {channel : Channel} {cast : Cast} {case : Case}
  {logs : List Log} {transcript moderating : Transcript} {desk after : Desk}

/-! ## Moderation -/

/-- A session shows these rows about casts, also where it is not committed. -/
structure ShowsCasts (casts : List Store.CastRow) (session : Session) : Prop where
  committed : session.committed.casts = casts
  working : session.working.casts = casts

/-- Moderation leaves the rows about casts alone. -/
theorem ShowsCasts.moderated {casts : List Store.CastRow} {outcome : Except Failure (List Log)}
    {before session : Session} (shows_ : ShowsCasts casts before)
    (run : Runs (moderate deployment case) transcript outcome) (served : Served before transcript session) :
    ShowsCasts casts session := by
  refine served.leads (R := fun before after => ShowsCasts casts before → ShowsCasts casts after)
    (fun _ => id) (fun first second => second ∘ first) run (moderate_asks deployment case) ?_ shows_
  intro ask moderating before answer after serves spared
  cases ask with
  | remote | clock | newId =>
    obtain rfl : after = before := serves
    exact spared
  | tables =>
    obtain ⟨-, rfl⟩ := serves
    exact spared
  | commit =>
    obtain rfl := serves
    exact ⟨spared.working, spared.working⟩
  | rollback =>
    obtain rfl := serves
    exact ⟨spared.committed, spared.committed⟩
  | write change =>
    have wrote : (answer, after) = before.write change := serves
    unfold Session.write at wrote
    split at wrote
    · cases wrote
      exact spared
    · cases wrote
      exact ⟨spared.committed, (Change.apply_casts moderating _).trans spared.working⟩
  | evaluate judged =>
    have checked : judged.Checked before after := serves
    cases checked with
    | untouched => exact spared
    | cleared => exact ⟨spared.committed, spared.working⟩
  | claim | release => exact moderating.elim

/-! ## Recording -/

/-- A row is recorded if the store can hold its author, and if not then nothing is written. -/
theorem recordCast_met {status : Int} {data : Json} {outcome : Except Failure Unit}
    (known : Store.fits status = true) (run : Runs (recordCast channel cast status data) transcript outcome)
    (met : desk.Met deployment transcript after) :
    (Store.fits (desk.tables.authorOf cast.hash cast.author.fid) = true ∧ outcome = .ok () ∧
        ∃ time, after.pending = [] ∧ after.committed =
          (Change.cast (Store.recordCast desk.tables time cast.hash channel.id cast.author.fid status data)).apply
            desk.tables) ∨
      desk.Drifts after ∧
        (outcome = .error .dateOutOfRange ∧ ⟨.clock, none⟩ ∈ transcript ∨
          outcome = .error (.store .tooLarge) ∧
            Store.fits (desk.tables.authorOf cast.hash cast.author.fid) = false) := by
  cases run with
  | ask tables run =>
  cases met with
  | cons looks met =>
  obtain ⟨ready, drifts, rfl, rfl⟩ := looks
  cases run with
  | ask time run =>
  cases met with
  | @cons _ timed _ _ _ _ times met =>
  obtain ⟨ready', drifts', same⟩ := times
  have same : timed = ready' := same
  subst same
  have since := drifts.trans drifts'
  cases time with
  | none =>
    cases run
    cases met
    exact .inr ⟨since, .inl ⟨rfl, .tail _ (.head _)⟩⟩
  | some time =>
  rw [drifts.tables] at run
  let row := Store.recordCast desk.tables time cast.hash channel.id cast.author.fid status data
  have author : row.authorFid = desk.tables.authorOf cast.hash cast.author.fid := Store.recordCast_author ..
  cases run with
  | ask written run =>
  cases met with
  | cons writes met =>
  obtain ⟨ready, drifts'', writes⟩ := writes
  have since := since.trans drifts''
  have status : Store.fits row.status = true := by rwa [Store.recordCast_status]
  have refused := Store.cast_fault? status ready.tables
  simp only [Desk.Answers] at writes
  rw [author] at refused
  cases held : Store.fits (desk.tables.authorOf cast.hash cast.author.fid) with
  | false =>
    simp only [row, held, Bool.false_eq_true, if_false] at refused
    rw [refused] at writes
    obtain ⟨rfl, rfl⟩ := writes
    cases run
    cases met
    exact .inr ⟨since, .inr ⟨rfl, rfl⟩⟩
  | true =>
    simp only [row, held, if_true] at refused
    rw [refused] at writes
    obtain ⟨rfl, rfl⟩ := writes
    cases run with
    | ask done run =>
    cases run
    obtain ⟨_, drifts, rfl⟩ := answered_question.mp met
    refine .inl ⟨rfl, rfl, time, rfl, ?_⟩
    rw [drifts.tables, Desk.tables_write, since.tables]

/-! ## Deliveries that moderate -/

/-- A delivery admits and claims a cast and moderates it, with these entries. -/
inductive Enacts (deployment : Deployment) (event : Event) (channel : Channel) (cast : Cast) (logs : List Log) :
    Transcript → Prop
  | mk {looking moderating closing : Transcript} :
    Runs (admitEvent event) looking (.ok (.inr (channel, cast))) →
    Runs (moderateCast deployment channel cast false) moderating (.ok logs) →
    Enacts deployment event channel cast logs
      (looking ++ ⟨.claim (claimKey cast) (.whole deployment.claimTime), true⟩ :: (moderating ++ closing))

/-- The recording of a delivery that has moderated its cast. -/
theorem takeIn_recording {looking closing : Transcript} {outcome : Except Failure String}
    (looked : Runs (admitEvent event) looking (.ok (.inr (channel, cast))))
    (moderated : Runs (moderateCast deployment channel cast false) moderating (.ok logs))
    (run : Runs (takeIn deployment event)
      (looking ++ ⟨.claim (claimKey cast) (.whole deployment.claimTime), true⟩ :: (moderating ++ closing))
      outcome) :
    ∃ recorded, Runs (recordSuccess channel cast logs) closing recorded ∧
      outcome = recorded.map fun _ => s!"Processed {cast.hash}" := by
  have closes := takeIn_moderated looked moderated run
  rw [Program.ofExcept, done_eq] at closes
  rcases runs_bind.mp closes with ⟨failure, rfl, recording⟩ | ⟨_, _, _, rfl, recording, ended⟩
  · exact ⟨_, recording, rfl⟩
  · obtain ⟨rfl, rfl⟩ := runs_done.mp ended
    rw [List.append_nil]
    exact ⟨_, recording, rfl⟩

/-- A delivery that moderates its cast keeps the claim to it. -/
theorem Enacts.keeps_claim {outcome : Except Failure String}
    (enacts : Enacts deployment event channel cast logs transcript)
    (run : Runs (takeIn deployment event) transcript outcome) (key : String) :
    ⟨.release key, ()⟩ ∉ transcript := by
  obtain ⟨looked, moderated⟩ := enacts
  obtain ⟨_, recording, -⟩ := takeIn_recording looked moderated run
  have records : (recordSuccess channel cast logs).Asks fun ask => ask ≠ .release key := by
    refine .ask nofun fun tables => (now_asks nofun).bind fun time => (write_asks nofun).bind fun _ => ?_
    exact .ask nofun fun _ => .done ()
  intro released
  rcases List.mem_append.mp released with early | later
  · rcases admitEvent_exchanges looked with ⟨_, -, first, second, rfl⟩ | ⟨_, same⟩ | ⟨_, same, -⟩
    · obtain _ | ⟨_, _ | ⟨_, ⟨⟩⟩⟩ := early
    · cases same
    · cases same
  · rcases List.mem_cons.mp later with same | later
    · cases same
    rcases List.mem_append.mp later with while_ | after_
    · exact (moderate_asks deployment _).of_runs moderated _ while_
    · exact records.of_runs recording _ after_ rfl

/-- The service accepts casts of users with any fid. A delivery that has moderated such a cast has
committed the entries of its actions and keeps its claim, whatever comes after that. If the author that
the row would name has a fid of at most 64 bits, it returns with a row that lists the actions, as long
as the clock tells the time. If not, it fails: no row is written about the cast, which then is neither
done nor free to be claimed. -/
theorem moderated_cast_is_recorded_if_author_fits (fid : Int) :
    (∃ event cast, Brings event "c" cast ∧ cast.author.fid = fid) ∧
    ∀ {deployment : Deployment} {event : Event} {channel : Channel} {cast : Cast} {logs : List Log}
      {transcript : Transcript} {outcome : Except Failure String} {desk after : Desk}, cast.author.fid = fid →
      Enacts deployment event channel cast logs transcript → desk.pending = [] →
      Runs (takeIn deployment event) transcript outcome → desk.Met deployment transcript after →
      let author := desk.committed.authorOf cast.hash fid
      logs ⊆ after.committed.logs ∧ (∀ key, ⟨.release key, ()⟩ ∉ transcript) ∧
      (Store.fits author = true → ⟨.clock, none⟩ ∉ transcript → outcome = .ok s!"Processed {cast.hash}" ∧
        ∃ row, after.committed.cast? cast.hash = some row ∧ row.authorFid = author ∧
          row.status = Store.processed ∧
          row.data = (Json.obj [("actions", .arr (logs.map fun log => .str log.action))]).spaced) ∧
      (Store.fits author = false → (∃ failure, outcome = .error failure ∧
          (⟨.clock, none⟩ ∉ transcript → failure = .store .tooLarge)) ∧
        after.committed.cast? cast.hash = desk.committed.cast? cast.hash) := by
  refine ⟨⟨⟨Event.castCreated, [("hash", .str "a"), ("author", .obj [("fid", .int fid)]),
    ("channel", .obj [("id", .str "c")])]⟩, _, ⟨rfl, rfl, rfl, rfl⟩, rfl⟩, ?_⟩
  rintro deployment event channel cast logs transcript outcome desk after rfl enacts idle run met author
  have kept := enacts.keeps_claim run
  obtain @⟨looking, moderating, closing, looked, moderated⟩ := enacts
  obtain ⟨recorded, recording, rfl⟩ := takeIn_recording looked moderated run
  rw [← List.cons_append, ← List.append_assoc] at met
  obtain ⟨worked, for_moderating, for_recording⟩ := answered_append.mp met
  have served := met_moderating idle looked for_moderating
  have spared : ShowsCasts desk.committed.casts worked.session :=
    ShowsCasts.moderated ⟨rfl, rfl⟩ moderated served
  have same : worked.tables.authorOf cast.hash cast.author.fid = author :=
    Store.Tables.authorOf_of_casts spared.working cast.hash cast.author.fid
  obtain ⟨committed, working⟩ := moderate_logged rfl moderated served
  have recorded_ := recordCast_met (show Store.fits Store.processed = true by decide) recording for_recording
  rw [same] at recorded_
  rcases recorded_ with ⟨held, rfl, time, -, written⟩ | ⟨drifts, why⟩
  · refine ⟨?_, kept, fun _ _ => ⟨rfl, ?_⟩, fun wide => ?_⟩
    · rw [written]
      exact working
    · let row := Store.recordCast worked.tables time cast.hash channel.id cast.author.fid Store.processed
        (.obj [("actions", .arr (logs.map fun log => .str log.action))])
      have keyed : row.hash = cast.hash := Store.recordCast_hash ..
      refine ⟨row, ?_, (Store.recordCast_author ..).trans same, Store.recordCast_status .., Store.recordCast_data ..⟩
      rw [written, ← keyed]
      exact Store.cast?_written_self row worked.tables
    · rw [held] at wide
      cases wide
  · have unwritten : after.committed.cast? cast.hash = desk.committed.cast? cast.hash := by
      rw [drifts.committed]
      exact Store.Tables.cast?_of_casts spared.committed cast.hash
    have entries : logs ⊆ after.committed.logs := by
      rw [drifts.committed]
      exact committed
    rcases why with ⟨rfl, undated⟩ | ⟨rfl, wide⟩
    · have undated : ⟨.clock, none⟩ ∈
          looking ++ ⟨.claim (claimKey cast) (.whole deployment.claimTime), true⟩ :: (moderating ++ closing) :=
        List.mem_append_right _ (.tail _ (List.mem_append_right _ undated))
      refine ⟨entries, kept, fun _ dated => absurd undated dated, fun _ => ⟨⟨_, rfl, ?_⟩, unwritten⟩⟩
      exact fun dated => absurd undated dated
    · refine ⟨entries, kept, fun held => ?_, fun _ => ⟨⟨_, rfl, fun _ => rfl⟩, unwritten⟩⟩
      rw [wide] at held
      cases held

/-- A cast of the owner of a channel, whose fid takes more than 64 bits. -/
def longCast : Event :=
  ⟨Event.castCreated, [("hash", .str "a"), ("author", .obj [("fid", .int 0x8000000000000000)]),
    ("channel", .obj [("id", .str "c")])]⟩

/-- The cast is liked, and then its delivery fails. The entry stays, there is no row about the cast,
and while the claim lasts the cast is not moderated again. -/
theorem long_fid_is_not_recorded :
    let deployment : Deployment := ⟨default, ⟨[], .nil⟩, false, 60, 1⟩
    let desk : Desk := ⟨bareTables, [], {}, 0⟩
    ∃ channel cast logs transcript outcome after,
      Enacts deployment longCast channel cast logs transcript ∧ desk.pending = [] ∧
      Runs (takeIn deployment longCast) transcript outcome ∧ desk.Met deployment transcript after ∧
      logs.map (·.action) = ["like"] ∧ logs ⊆ after.committed.logs ∧
      outcome = .error (.store .tooLarge) ∧ after.committed.cast? cast.hash = none ∧
      after.isFree deployment cast = false := by
  intro deployment desk
  have brought : ∃ cast channel, Brings longCast "c" cast ∧ cast.hash = "a" ∧
      cast.author.fid = 0x8000000000000000 ∧ bareTables.configuration? "c" = .ok (some channel) ∧
      channel.active = true ∧ channel.isBypassed 0x8000000000000000 = false :=
    ⟨_, _, ⟨rfl, rfl, rfl, rfl⟩, rfl, rfl, rfl, rfl, rfl⟩
  obtain ⟨cast, channel, brings, hash, author, known, active, unlisted⟩ := brought
  rw [← author] at unlisted
  have undone : ¬ desk.tables.IsDone cast.hash := by
    rintro ⟨_, found, -⟩
    cases found
  have proper : (leadAnswer cast.author.fid).Proper := by
    simp [leadAnswer, Json.Proper, Json.Over, Json.OverMembers, Json.int, Number.IsCanonical]
  have read : Json.read (leadAnswer cast.author.fid).spaced = .ok (leadAnswer cast.author.fid) :=
    proper.read Json.Layout.standard_spaced
  obtain ⟨looking, looked, for_looking⟩ := admitEvent_runs desk brings known active undone
  obtain ⟨moderating, moderated, for_moderating⟩ :=
    owner_is_liked deployment (desk.claimed deployment cast) "1" .epoch read unlisted rfl
  let log := ownerEntry channel cast "1" .epoch
  let logged := (desk.claimed deployment cast).kept (.addLog log)
  let row := Store.recordCast logged.tables .epoch cast.hash channel.id cast.author.fid Store.processed
    (.obj [("actions", .arr [.str log.action])])
  let closing : Transcript :=
    [⟨.tables, logged.tables⟩, ⟨.clock, some .epoch⟩, ⟨.write (.cast row), .error .tooLarge⟩]
  have recording : Runs (recordSuccess channel cast [log]) closing (.error (.store .tooLarge)) :=
    .ask _ (.ask _ (.ask _ (.failed _)))
  have closes : Runs ((Stage.inside channel cast 0 (.done [log])).program deployment) closing
      (.error (.store .tooLarge)) := by
    rw [done_eq]
    exact runs_bind.mpr (.inl ⟨_, rfl, recording⟩)
  have wide : (Change.cast row).fault? logged.tables = some .tooLarge := by
    have unheld : Store.fits row.authorFid = false := by
      have own : row.authorFid = cast.author.fid := Store.recordCast_author ..
      rw [own, author]
      decide
    have known : Store.fits row.status = true := by
      rw [Store.recordCast_status]
      decide
    rw [Store.cast_fault? known, unheld]
    rfl
  have for_closing : logged.Answered closing logged := by
    refine .cons ⟨rfl, rfl⟩ (.cons rfl (.cons ?_ (.nil _)))
    simp only [Desk.Answers, wide]
    trivial
  have for_claimed : (desk.claimed deployment cast).Answered (moderating ++ closing) logged :=
    answered_append.mpr ⟨logged, for_moderating, for_closing⟩
  have free : desk.isFree deployment cast = true := rfl
  have met : desk.Met deployment
      (looking ++ ⟨.claim (claimKey cast) (.whole deployment.claimTime), true⟩ :: (moderating ++ closing)) logged :=
    Desk.answered_met (answered_append.mpr ⟨desk, for_looking, .cons ⟨free.symm, rfl⟩ for_claimed⟩)
  have run := takeIn_closed looked moderated closes
  have enacts : Enacts deployment longCast channel cast [log]
      (looking ++ ⟨.claim (claimKey cast) (.whole deployment.claimTime), true⟩ :: (moderating ++ closing)) :=
    .mk looked moderated
  obtain ⟨-, recorded⟩ := moderated_cast_is_recorded_if_author_fits cast.author.fid
  obtain ⟨committed, -, -, unrecorded⟩ := recorded rfl enacts rfl run met
  have unheld : Store.fits (desk.committed.authorOf cast.hash cast.author.fid) = false := by
    have own : desk.committed.authorOf cast.hash cast.author.fid = cast.author.fid := rfl
    rw [own, author]
    decide
  obtain ⟨-, absent⟩ := unrecorded unheld
  refine ⟨channel, cast, [log], _, _, logged, enacts, rfl, run, met, rfl, committed, rfl, absent, ?_⟩
  have key : claimKey cast = "cast:a" := by
    rw [claimKey, hash]
    rfl
  show ((((({} : Cache).claim (claimKey cast) (.whole 60) 0).2).claim (claimKey cast) (.whole 60) 0).1) = false
  rw [key]
  rfl

end Intake

end Curation
