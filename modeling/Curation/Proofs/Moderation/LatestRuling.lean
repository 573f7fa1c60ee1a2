import Curation.Proofs.Moderation.Suspensions
import Curation.Proofs.Text

/-! A stored suspension and the rulings that led to it. Rows are written over one another,
so what is stored for a user in a channel is what the latest ruling on exactly that user
in exactly that channel has left, and this is all that can keep the user away. -/
namespace Curation.Moderation

open Program (Runs runs_bind_ok runs_done answered_append answered_question)
open Store (CooldownRow Session Tables)

/-! ## Histories -/

/-- What may rule on a suspension: an action that is carried out, or slow mode that begins
for the author of a cast. -/
inductive Occasion where
  | carried (case : Case) (action : Action)
  | slowMode (case : Case)

def Occasion.case : Occasion → Case
  | .carried case _ | .slowMode case => case

def Occasion.ruling? : Occasion → Option Ruling
  | .carried _ action => action.ruling?
  | .slowMode case => some (.suspend (some (.whole case.channel.slowModeHours)))

def Occasion.program (deployment : Deployment) : Occasion → Moderation Unit
  | .carried case action => carryOut deployment case action
  | .slowMode case => startSlowMode case

/-- An occasion with the time of day at which it took place. -/
structure Happening where
  occasion : Occasion
  time : Moment

/-- What the clock has shown. -/
def clockReadings (transcript : Transcript) : List (Option Moment) :=
  transcript.filterMap fun
    | ⟨.clock, shown⟩ => some shown
    | _ => none

/-- Whenever the clock is read, it shows this time. -/
def ReadsClockAt (time : Moment) (transcript : Transcript) : Prop :=
  ∀ shown ∈ clockReadings transcript, shown = some time

/-- One after another, these have come to their ends. The clock shows the time in UTC. -/
inductive History (deployment : Deployment) (start : Session) : List Happening → Session → Prop
  | start : History deployment start [] start
  | next {happened : List Happening} {before after : Session} {happening : Happening}
      {transcript : Transcript} :
    History deployment start happened before →
    Runs (happening.occasion.program deployment) transcript (.ok ()) →
    Answered before transcript after → ReadsClockAt happening.time transcript →
    happening.time.offset = some 0 → History deployment start (happened ++ [happening]) after
  /-- In between there is whatever leaves the suspensions as they are. -/
  | between {happened : List Happening} {before after : Session} :
    History deployment start happened before →
    after.working.cooldowns = before.working.cooldowns → History deployment start happened after

/-- What is ruled on exactly this user in exactly this channel, and when. -/
def Happening.rulingOn? (channel : String) (fid : Int) (happening : Happening) :
    Option (Ruling × Moment) :=
  if happening.occasion.case.channel.id = channel ∧ happening.occasion.case.user.fid = fid then
    happening.occasion.ruling?.map (·, happening.time)
  else none

def latestRuling? (channel : String) (fid : Int) (happened : List Happening) :
    Option (Ruling × Moment) :=
  (happened.filterMap (·.rulingOn? channel fid)).getLast?

/-- A ruling keeps a user away for this reason, at a time after it was made. -/
inductive KeptAwayBy (username : String) (time : Moment) : Ruling × Moment → String → Prop
  | muted (made : Moment) :
    KeptAwayBy username time (.suspend none, made) s!"@{username} is currently muted"
  | cooling {made expiresAt : Moment} {hours : Number} :
    hoursFrom made hours = .ok expiresAt → time.utcMicros < expiresAt.utcMicros →
    KeptAwayBy username time (.suspend (some hours), made)
      s!"@{username} is in cooldown until {expiresAt.isoText}"

/-! ## What is stored of a history -/

/-- A suspension as the latest ruling on it has left it. -/
inductive Reflects : Option (Ruling × Moment) → Option CooldownRow → Prop
  | unruled : Reflects none none
  | endless (made : Moment) {row : CooldownRow} :
    row.active = true → row.expiresAt = none → Reflects (some (.suspend none, made)) (some row)
  | timed {made expiresAt : Moment} {hours : Number} {row : CooldownRow} :
    made.offset = some 0 → hoursFrom made hours = .ok expiresAt →
    row.active = true → row.expiresAt = some expiresAt.stored →
    Reflects (some (.suspend (some hours), made)) (some row)
  | lifted (made : Moment) {row? : Option CooldownRow} :
    (∀ row, row? = some row → row.active = false) → Reflects (some (.lift, made)) row?

variable {deployment : Deployment} {case : Case} {transcript : Transcript}
  {before after start session : Session} {happened : List Happening} {time : Moment}

theorem Obeys.reflects {ruling : Ruling} {before after : Option CooldownRow}
    (obeys : Obeys transcript ruling before after) (clock : ReadsClockAt time transcript)
    (utc : time.offset = some 0) : Reflects (some (ruling, time)) after := by
  cases obeys with
  | endless active endless => exact .endless time active endless
  | timed read ends active expires =>
    cases clock _ (List.mem_filterMap.mpr ⟨_, read, rfl⟩)
    exact .timed utc ends active expires
  | lifted =>
    refine .lifted time fun row left => ?_
    obtain ⟨_, -, rfl⟩ := Option.map_eq_some_iff.mp left
    rfl

theorem Occasion.rules {occasion : Occasion}
    (run : Runs (occasion.program deployment) transcript (.ok ()))
    (answered : Answered before transcript after) :
    Rules occasion.case occasion.ruling? transcript before.working after.working := by
  cases occasion with
  | carried case action => exact carryOut_rules run answered
  | slowMode case => exact (startSlowMode_rules run answered).1

theorem latestRuling?_next (channel : String) (fid : Int) (happened : List Happening)
    (happening : Happening) :
    latestRuling? channel fid (happened ++ [happening]) =
      (happening.rulingOn? channel fid).or (latestRuling? channel fid happened) := by
  rw [latestRuling?, List.filterMap_append, List.getLast?_append, latestRuling?]
  cases ruled : happening.rulingOn? channel fid with
  | none => simp [ruled]
  | some ruling => simp [ruled]

/-- A happening that rules on a user in a channel decides what is stored for them, and any
other leaves it as it was. -/
theorem reflects_next {happening : Happening} {channel : String} {fid : Int}
    (reflects : Reflects (latestRuling? channel fid happened)
      (before.working.cooldown? channel (toString fid)))
    (run : Runs (happening.occasion.program deployment) transcript (.ok ()))
    (answered : Answered before transcript after) (clock : ReadsClockAt happening.time transcript)
    (utc : happening.time.offset = some 0) :
    Reflects (latestRuling? channel fid (happened ++ [happening]))
      (after.working.cooldown? channel (toString fid)) := by
  have rules := Occasion.rules run answered
  rw [latestRuling?_next, Happening.rulingOn?]
  split
  · rename_i own
    obtain ⟨rfl, rfl⟩ := own
    cases ruled : happening.occasion.ruling? with
    | none =>
      rw [rules.others _ _ (.inl ruled)]
      exact reflects
    | some ruling => exact (rules.own ruling ruled).reflects clock utc
  · rename_i other
    rw [rules.others channel (toString fid) (.inr fun ⟨same, written⟩ => other ⟨same.symm, ?_⟩)]
    · exact reflects
    · exact (Text.toString_inj written).symm

theorem history_reflects (history : History deployment start happened session) {channel : String}
    {fid : Int} (fresh : start.working.cooldown? channel (toString fid) = none) :
    Reflects (latestRuling? channel fid happened)
      (session.working.cooldown? channel (toString fid)) := by
  induction history with
  | start =>
    rw [fresh]
    exact .unruled
  | next _ run answered clock utc ih => exact reflects_next ih run answered clock utc
  | between _ same ih =>
    rw [Tables.cooldown?_of_cooldowns same]
    exact ih

/-! ## What keeps a user away -/

theorem later_offset {moment later : Moment} {length : Except Span.Fault Int}
    (ends : Moderation.later moment length = .ok later) : later.offset = moment.offset := by
  unfold Moderation.later at ends
  split at ends
  · cases ends
  · split at ends
    · rename_i found
      cases ends
      simp only [Moment.later?] at found
      split at found
      · cases found
        rfl
      · cases found
    · cases ends

/-- Tables keep a time without its offset, and it is read as UTC again. -/
theorem stored_asUtc {moment : Moment} (utc : moment.offset = some 0) : moment.stored.asUtc = moment := by
  cases moment
  cases utc
  rfl

theorem reflects_reason {username : String} {ruling? : Option (Ruling × Moment)}
    {row? : Option CooldownRow} (reflects : Reflects ruling? row?) (reason : String) :
    suspensionReason? username time row? = some reason ↔
      ∃ ruling, ruling? = some ruling ∧ KeptAwayBy username time ruling reason := by
  cases reflects with
  | unruled => simp [suspensionReason?]
  | endless made active endless =>
    simp only [suspensionReason?, active, endless, Bool.not_true, Bool.false_eq_true, if_false,
      Option.some.injEq, exists_eq_left']
    constructor
    · rintro rfl
      exact .muted made
    · rintro ⟨⟩
      rfl
  | timed utc ends active expires =>
    have ends_utc := (later_offset ends).trans utc
    simp only [suspensionReason?, active, expires, stored_asUtc ends_utc, Bool.not_true,
      Bool.false_eq_true, if_false, Option.some.injEq, exists_eq_left']
    split
    · rename_i past
      refine ⟨nofun, fun kept => ?_⟩
      cases kept with
      | cooling ends' later =>
        cases ends.symm.trans ends'
        exact absurd past (Int.not_le.mpr later)
    · rename_i running
      constructor
      · rintro ⟨⟩
        exact .cooling ends (Int.not_le.mp running)
      · intro kept
        cases kept with
        | cooling ends' later =>
          cases ends.symm.trans ends'
          rfl
  | lifted made inactive =>
    refine ⟨fun away => ?_, fun ⟨ruling, same, kept⟩ => ?_⟩
    · cases row? with
      | none => cases away
      | some row => simp [suspensionReason?, inactive row rfl] at away
    · cases same
      cases kept

/-- Whether a suspension keeps the author of a cast away is read from the store and the
clock. -/
theorem keptAwayReason?_answered (cast : case.cast.isSome = true) {outcome : Except Failure (Option String)}
    (run : Runs (keptAwayReason? case) transcript outcome)
    (answered : Answered session transcript after) (clock : ReadsClockAt time transcript) :
    outcome = .ok (suspensionReason? case.user.username time (case.suspension? session.working)) := by
  obtain ⟨text, known⟩ := Option.isSome_iff_exists.mp cast
  simp only [keptAwayReason?, known, Option.isNone_some, Bool.false_eq_true, if_false] at run
  cases run with
  | ask held run =>
  cases answered with
  | cons held_by answered =>
  obtain ⟨rfl, rfl⟩ := held_by
  cases run with
  | ask shown run =>
  cases clock shown (.head _)
  cases run
  rfl

theorem keptAwayReason?_runs (cast : case.cast.isSome = true) (session : Session) (time : Moment) :
    ∃ transcript, Answered session transcript session ∧ ReadsClockAt time transcript ∧
      Runs (keptAwayReason? case) transcript
        (.ok (suspensionReason? case.user.username time (case.suspension? session.working))) := by
  refine ⟨[⟨.tables, session.working⟩, ⟨.clock, some time⟩], ?_, ?_, ?_⟩
  · exact .cons ⟨rfl, rfl⟩ (.cons rfl (.nil session))
  · exact fun shown => List.mem_singleton.mp
  · obtain ⟨text, known⟩ := Option.isSome_iff_exists.mp cast
    simp only [keptAwayReason?, known, Option.isNone_some, Bool.false_eq_true, if_false]
    apply Runs.ask
    apply Runs.ask
    exact .done _

/-- Whatever has happened to users and channels, the author of a cast is kept away if and
only if the latest ruling on exactly that user in exactly that channel keeps them away
still, and it is this ruling that the reason names. -/
theorem latest_ruling_decides (history : History deployment start happened session) (case : Case)
    (fresh : case.suspension? start.working = none) (cast : case.cast.isSome = true)
    (time : Moment) :
    ∃ reason? : Option String,
      (∃ transcript, Answered session transcript session ∧ ReadsClockAt time transcript ∧
        Runs (keptAwayReason? case) transcript (.ok reason?)) ∧
      (∀ transcript outcome after, Runs (keptAwayReason? case) transcript outcome →
        Answered session transcript after → ReadsClockAt time transcript → outcome = .ok reason?) ∧
      ∀ reason, reason? = some reason ↔
        ∃ ruling, latestRuling? case.channel.id case.user.fid happened = some ruling ∧
          KeptAwayBy case.user.username time ruling reason := by
  refine ⟨_, keptAwayReason?_runs cast session time, ?_, ?_⟩
  · intro transcript outcome after run answered clock
    exact keptAwayReason?_answered cast run answered clock
  · exact reflects_reason (history_reflects history fresh)

/-- A user who was muted is then in slow mode until the next day, though the latest mute
is that of another user. -/
theorem slow_mode_replaces_mute :
    let deployment : Deployment := ⟨default, ⟨[], .nil⟩, false, 60, 1⟩
    let channel : Channel := { (default : Channel) with slowModeHours := 24 }
    let ann : User := ⟨7, "ann", none, none, none, [], 0, 0, false, none, none⟩
    let bob : User := ⟨8, "bob", none, none, none, [], 0, 0, false, none, none⟩
    let case : Case := ⟨channel, ann, some default, false⟩
    let happened : List Happening := [⟨.carried case .mute, .epoch⟩, ⟨.slowMode case, .epoch⟩,
      ⟨.carried { case with user := bob } .mute, .epoch⟩]
    ∃ session, History deployment (.clean {}) happened session ∧
      case.suspension? {} = none ∧ case.cast.isSome = true ∧
      ∀ transcript outcome after, Runs (keptAwayReason? case) transcript outcome →
        Answered session transcript after → ReadsClockAt .epoch transcript →
        outcome = .ok (some "@ann is in cooldown until 2024-01-02T00:00:00+00:00") := by
  intro deployment channel ann bob case happened
  let tomorrow : Moment := ⟨Moment.epoch.micros + 24 * Span.microsPerHour, some 0⟩
  let row (tables : Tables) (fid : Int) (expiresAt : Option Moment) : CooldownRow :=
    Store.suspend tables .epoch "" fid expiresAt
  let suspended (tables : Tables) (fid : Int) (expiresAt : Option Moment) : Tables :=
    (Store.Change.cooldown (row tables fid expiresAt)).apply tables
  let suspending (tables : Tables) (fid : Int) (expiresAt : Option Moment) : Transcript :=
    [⟨.tables, tables⟩, ⟨.clock, some .epoch⟩,
      ⟨.write (.cooldown (row tables fid expiresAt)), .ok ()⟩]
  let muted := suspended {} 7 none
  let slowed := suspended muted 7 (some tomorrow)
  let slowing : Transcript :=
    ⟨.clock, some .epoch⟩ :: (suspending muted 7 (some tomorrow) ++ [⟨.commit, ()⟩])
  have clock (tables : Tables) (fid : Int) : ReadsClockAt .epoch (suspending tables fid none) :=
    fun shown => List.mem_singleton.mp
  have slow_clock : ReadsClockAt .epoch slowing := by
    simp [ReadsClockAt, clockReadings, slowing, suspending]
  have mutes (user : User) (tables : Tables) :
      Runs (carryOut deployment { case with user } .mute) (suspending tables user.fid none) (.ok ()) :=
    .ask _ (.ask _ (.ask _ (.done _)))
  have mute_answered (before : Session) (fid : Int) :
      Answered before (suspending before.working fid none)
        { before with working := suspended before.working fid none } :=
    .cons ⟨rfl, rfl⟩ (.cons rfl (.cons rfl (.nil _)))
  have slows : Runs (startSlowMode case) slowing (.ok ()) :=
    .ask _ (.ask _ (.ask _ (.ask _ (.ask _ (.done _)))))
  have slow_answered : Answered ⟨{}, muted⟩ slowing (.clean slowed) :=
    .cons rfl (.cons ⟨rfl, rfl⟩ (.cons rfl (.cons rfl (.cons rfl (.nil _)))))
  have history : History deployment (.clean {})
      ([] ++ [⟨.carried case .mute, .epoch⟩] ++ [⟨.slowMode case, .epoch⟩] ++
        [⟨.carried { case with user := bob } .mute, .epoch⟩]) _ :=
    .next (.next (.next .start (mutes ann {}) (mute_answered _ 7) (clock {} 7) rfl)
      slows slow_answered slow_clock rfl) (mutes bob slowed) (mute_answered _ 8) (clock slowed 8) rfl
  refine ⟨_, history, rfl, rfl, ?_⟩
  obtain ⟨reason?, -, every, names⟩ := latest_ruling_decides history case rfl rfl .epoch
  have ends : hoursFrom .epoch (.whole 24) = .ok tomorrow := rfl
  have reason : reason? = some s!"@ann is in cooldown until {tomorrow.isoText}" :=
    (names _).mpr ⟨(.suspend (some (.whole 24)), .epoch), rfl, .cooling ends (by decide)⟩
  have text : tomorrow.isoText = "2024-01-02T00:00:00+00:00" := by decide +kernel
  subst reason
  rw [text] at every
  exact every

end Curation.Moderation
