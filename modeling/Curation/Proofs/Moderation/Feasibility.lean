import Curation.Proofs.Moderation.Helping
import Curation.Proofs.Moderation.Serving
import Curation.Proofs.Time.Span

/-! Whether what a configuration asks for can be carried out. With all calls and changes
going well, an action can only fail for its arguments: a suspension for want of room in the
calendar, a vote for a name that is no number. A run returns where all of its arguments can
be used, and it fails where one of them cannot. -/
namespace Curation.Moderation

open Program (Completes Runs runs_bind_ok runs_ofExcept)
open Store (Change ChannelRow Session Tables)

variable {deployment : Deployment} {case : Case} {gate : Gate} {grounds : Grounds} {action : Action}
  {actions : List Action} {start stop time : Moment} {hours : Number} {transcript : Transcript}

/-! ## Arguments -/

/-- So many hours are a length of time, and the calendar goes on for as long after a time. -/
def HasRoom (time : Moment) (hours : Number) : Prop :=
  ∃ length, Span.ofHours hours = .ok length ∧ time.micros + length < Moment.afterLatest

/-- What an action is given can be used at a time. -/
def IsUsable (time : Moment) : Action → Prop
  | .cooldown hours => HasRoom time (.real hours)
  | .downvote voter => ∃ fid, (Json.str voter.fid).toWhole = .ok fid
  | _ => True

theorem hoursFrom_eq_ok {expiresAt : Moment} :
    hoursFrom time hours = .ok expiresAt ↔ ∃ length, Span.ofHours hours = .ok length ∧
      Moment.inCalendar (time.micros + length) = true ∧
      expiresAt = { time with micros := time.micros + length } := by
  unfold hoursFrom later
  cases Span.ofHours hours with
  | error fault => simp
  | ok length =>
    cases within : Moment.inCalendar (time.micros + length) with
    | true =>
      simp only [Moment.later?, within, if_true]
      constructor
      · rintro ⟨⟩
        exact ⟨length, rfl, within, rfl⟩
      · rintro ⟨_, ⟨⟩, -, rfl⟩
        rfl
    | false => simp [Moment.later?, within]

theorem HasRoom.of_hoursFrom {expiresAt : Moment} (ends : hoursFrom time hours = .ok expiresAt) :
    HasRoom time hours := by
  obtain ⟨length, known, within, -⟩ := hoursFrom_eq_ok.mp ends
  rw [Moment.inCalendar, Bool.and_eq_true_iff] at within
  exact ⟨length, known, by simpa using within.2⟩

/-- Earlier there is as much room. -/
theorem HasRoom.earlier {stop : Moment} (room : HasRoom stop hours) (before : time.micros ≤ stop.micros) :
    HasRoom time hours := by
  obtain ⟨length, known, below⟩ := room
  exact ⟨length, known, by omega⟩

theorem IsUsable.earlier {stop : Moment} (usable : IsUsable stop action)
    (before : time.micros ≤ stop.micros) : IsUsable time action := by
  cases action with
  | cooldown hours => exact HasRoom.earlier usable before
  | _ => exact usable

/-- Hours that do not lead back end in the calendar where it has room for them. -/
theorem HasRoom.hoursFrom (room : HasRoom time hours) (calendar : Moment.earliest ≤ time.micros)
    (forward : ∀ length, Span.ofHours hours = .ok length → 0 ≤ length) :
    ∃ expiresAt, hoursFrom time hours = .ok expiresAt := by
  obtain ⟨length, known, below⟩ := room
  have ahead := forward length known
  refine ⟨_, hoursFrom_eq_ok.mpr ⟨length, known, ?_, rfl⟩⟩
  simp only [Moment.inCalendar, Bool.and_eq_true, decide_eq_true_eq]
  omega

theorem forward_real {hours : Binary64} (valid : (Action.cooldown hours).Valid) {length : Int}
    (known : Span.ofHours (.real hours) = .ok length) : 0 ≤ length := by
  obtain ⟨whole, given, least, -⟩ := Span.ofHours_between valid.2 known
  have positive := Binary64.truncate?_nonneg valid.2 given
  have unit : (0 : Int) ≤ Span.microsPerHour := by decide
  exact (Int.mul_nonneg positive unit).trans least

theorem forward_whole {hours : Int} (positive : 0 ≤ hours) {length : Int}
    (known : Span.ofHours (.whole hours) = .ok length) : 0 ≤ length := by
  rw [Span.bounded_exact known]
  exact Int.mul_nonneg positive (by decide)

/-- No time is further from another one than a length of time can say. -/
theorem span_of_calendar {length : Int} (calendar : Moment.earliest ≤ time.micros)
    (below : time.micros + length < Moment.afterLatest) :
    length < (Span.greatestDays + 1) * (24 * Span.microsPerHour) := by
  have years : Moment.afterLatest - Moment.earliest < (Span.greatestDays + 1) * (24 * Span.microsPerHour) := by
    decide
  omega

/-- Whole hours have room as long as the calendar goes on for them. -/
theorem hasRoom_whole {hours : Int} (positive : 0 ≤ hours) (calendar : Moment.earliest ≤ time.micros) :
    HasRoom time (.whole hours) ↔ time.micros + hours * Span.microsPerHour < Moment.afterLatest := by
  constructor
  · rintro ⟨length, known, below⟩
    rwa [Span.bounded_exact known] at below
  · intro below
    have short := span_of_calendar calendar below
    exact ⟨_, Span.bounded_short (Int.mul_nonneg positive (by decide)) short, below⟩

/-- Other hours have room only if they are finite and the calendar goes on for their whole
hours, and they have it where the calendar goes on for an hour more. -/
theorem hasRoom_real {hours : Binary64} (valid : (Action.cooldown hours).Valid)
    (calendar : Moment.earliest ≤ time.micros) :
    (HasRoom time (.real hours) → ∃ whole, hours.truncate? = some whole ∧
      time.micros + whole * Span.microsPerHour < Moment.afterLatest) ∧
    ∀ whole, hours.truncate? = some whole →
      time.micros + (whole + 1) * Span.microsPerHour < Moment.afterLatest → HasRoom time (.real hours) := by
  constructor
  · rintro ⟨length, known, below⟩
    obtain ⟨whole, given, least, -⟩ := Span.ofHours_between valid.2 known
    exact ⟨whole, given, by omega⟩
  · intro whole given below
    obtain ⟨length, known, least, most⟩ := Span.ofHours_real valid.2 given
    have positive := Int.mul_nonneg (Binary64.truncate?_nonneg valid.2 given)
      (by decide : (0 : Int) ≤ Span.microsPerHour)
    have below : time.micros + length < Moment.afterLatest := by omega
    have short := span_of_calendar calendar below
    exact ⟨length, known.trans (Span.bounded_short (by omega) short), below⟩

/-! ## Actions that go through -/

/-- A reading of the clock between two others. -/
def Between (start stop time : Moment) : Prop := start.micros ≤ time.micros ∧ time.micros ≤ stop.micros

/-- Between two times nothing is an obstacle, whatever the store may hold. -/
def Obliging (start stop : Moment) (transcript : Transcript) : Prop :=
  ∀ exchange ∈ transcript, Helps (Between start stop) (fun _ => True) exchange.1 exchange.2

theorem suspendFor_goesThrough (calendar : Moment.earliest ≤ start.micros) (room : HasRoom stop hours)
    (forward : ∀ length, Span.ofHours hours = .ok length → 0 ≤ length) :
    GoesThrough case actions (Between start stop) (suspendFor case hours) := by
  refine now_goesThrough fun time shows => ?_
  obtain ⟨expiresAt, ends⟩ := (room.earlier shows.2).hoursFrom (calendar.trans shows.1) forward
  simp only [ends]
  exact suspend_goesThrough _ _ _

theorem voteDown_goesThrough (given : case.cast.isSome = true) {voter : Voter}
    (named : ∃ fid, (Json.str voter.fid).toWhole = .ok fid) :
    GoesThrough case actions times (voteDown case voter) := by
  refine (castFor_goesThrough given _).bind fun cast => ?_
  obtain ⟨fid, read⟩ := named
  simp only [read]
  exact tables_goesThrough fun _ _ => now_goesThrough fun _ _ => write_goesThrough trivial

/-- An action whose arguments can be used is carried out on a cast. -/
theorem carryOut_goesThrough (given : case.cast.isSome = true) (valid : action.Valid)
    (listed : action ∈ actions) (calendar : Moment.earliest ≤ start.micros)
    (usable : IsUsable stop action) :
    GoesThrough case actions (Between start stop) (carryOut deployment case action) := by
  cases action with
  | bypass => exact .done ()
  | like =>
    simp only [carryOut]
    split
    · exact .done ()
    · exact onNetwork_goesThrough deployment (Remote.Channels.write_completes _ _ _)
  | hideQuietly | unlike | warnAndHide =>
    simp only [carryOut]
    split
    · exact onNetwork_goesThrough deployment (Remote.Channels.write_completes _ _ _)
    · exact .done ()
  | unhide =>
    refine (castFor_goesThrough given _).bind fun cast => ?_
    exact onNetwork_goesThrough deployment (Remote.Channels.write_completes _ _ _)
  | ban =>
    refine (suspend_goesThrough _ _ _).bind fun _ => ?_
    exact onNetwork_goesThrough deployment (Remote.Channels.write_completes _ _ _)
  | mute => exact suspend_goesThrough _ _ _
  | cooldown hours =>
    refine suspendFor_goesThrough calendar usable fun _ known => forward_real valid known
  | cooldownEnded | unmuted => exact (liftSuspension_goesThrough _ _).bind fun _ => .done ()
  | addToBypass => exact (addToBypass_goesThrough _).bind fun _ => .done ()
  | grantRole role => exact grantRole_goesThrough listed
  | downvote voter => exact voteDown_goesThrough given usable

theorem runActions_goesThrough (deployment : Deployment) (grounds : Grounds) {each : List Action}
    (given : case.cast.isSome = true) (valid : ∀ action ∈ each, action.Valid) (listed : each ⊆ actions)
    (calendar : Moment.earliest ≤ start.micros) (usable : ∀ action ∈ each, IsUsable stop action) :
    GoesThrough case actions (Between start stop) (runActions deployment case grounds each) := by
  induction each with
  | nil => exact .done []
  | cons action rest ih =>
    rw [List.forall_mem_cons] at valid usable
    obtain ⟨own, others⟩ := List.cons_subset.mp listed
    have performed : GoesThrough case actions (Between start stop) (perform deployment case action) := by
      unfold perform
      split
      · exact .done ()
      · exact (carryOut_goesThrough given valid.1 own calendar usable.1).recover
    refine performed.bind fun _ => (logAction_goesThrough grounds _).bind fun log => ?_
    exact (ih valid.2 others usable.2).bind fun logs => .done (log :: logs)

/-- What a gate is for can be done at a time: its actions, and slow mode where it begins. -/
structure Case.IsFeasible (case : Case) (gate : Gate) (time : Moment) : Prop where
  actions : ∀ action ∈ gate.actions case, IsUsable time action
  slowMode : case.slows gate = true → HasRoom time (.whole case.channel.slowModeHours)

theorem enact_goesThrough (deployment : Deployment) (grounds : Grounds) (given : case.cast.isSome = true)
    (valid : ∀ action ∈ gate.actions case, action.Valid) (positive : 0 ≤ case.channel.slowModeHours)
    (calendar : Moment.earliest ≤ start.micros) (feasible : case.IsFeasible gate stop) :
    GoesThrough case (gate.actions case) (Between start stop) (enact deployment case gate grounds) := by
  rw [enact_eq_slowDown]
  have acted := runActions_goesThrough deployment grounds given valid (List.Subset.refl _) calendar
    feasible.actions
  refine acted.bind fun logs => ?_
  have slowed : GoesThrough case (gate.actions case) (Between start stop) (slowDown case gate) := by
    unfold slowDown
    split
    · rename_i slows
      rw [startSlowMode_eq]
      have room := feasible.slowMode slows
      refine Completes.bind ?_ fun _ => .ask trivial fun _ _ => .done ()
      exact suspendFor_goesThrough calendar room fun _ known => forward_whole positive known
    · exact .done ()
  exact slowed.bind fun _ => .done logs

theorem enact_returns {before after : Session} {outcome : Except Failure (List Log)}
    (given : case.cast.isSome = true) (valid : ∀ action ∈ gate.actions case, action.Valid)
    (positive : 0 ≤ case.channel.slowModeHours) (calendar : Moment.earliest ≤ start.micros)
    (feasible : case.IsFeasible gate stop)
    (equipped : Equipped case.channel.id (gate.actions case) before.working)
    (run : Runs (enact deployment case gate grounds) transcript outcome)
    (answered : Answered before transcript after) (obliging : Obliging start stop transcript) :
    ∃ logs, outcome = .ok logs := by
  have through := enact_goesThrough deployment grounds given valid positive calendar feasible
  refine through.returns (P := fun session => Equipped _ _ session.working) run answered equipped ?_
  intro ask answer exchanged spares before after equipped answers
  refine ⟨?_, equipped.kept spares answers⟩
  have helped := obliging ⟨ask, answer⟩ exchanged
  cases ask with
  | tables =>
    obtain ⟨rfl, -⟩ := answers
    exact equipped
  | _ => exact helped

/-! ## What a run that returns could use -/

theorem obliging_append {first second : Transcript} :
    Obliging start stop (first ++ second) ↔ Obliging start stop first ∧ Obliging start stop second :=
  List.forall_mem_append

theorem suspendFor_room (run : Runs (suspendFor case hours) transcript (.ok ()))
    (obliging : Obliging start stop transcript) : HasRoom start hours := by
  obtain ⟨_, time, _, rfl, read, rest⟩ := runs_bind_ok.mp run
  obtain ⟨_, expiresAt, _, rfl, length, -⟩ := runs_bind_ok.mp rest
  obtain rfl := runs_now read
  obtain ⟨ends, rfl⟩ := runs_ofExcept.mp length
  obtain ⟨_, same, shown⟩ := obliging _ (.head _)
  cases same
  exact (HasRoom.of_hoursFrom ends.symm).earlier shown.1

theorem carryOut_usable (run : Runs (carryOut deployment case action) transcript (.ok ()))
    (obliging : Obliging start stop transcript) : IsUsable start action := by
  cases action with
  | cooldown hours => exact suspendFor_room run obliging
  | downvote voter =>
    obtain ⟨_, cast, _, rfl, -, voted⟩ := runs_bind_ok.mp run
    cases read : (Json.str voter.fid).toWhole with
    | ok fid => exact ⟨fid, read⟩
    | error cause =>
      rw [read] at voted
      cases voted
  | bypass | addToBypass | hideQuietly | ban | unlike | like | mute | warnAndHide | cooldownEnded | unhide
  | unmuted | grantRole => trivial

theorem KeepsAll.usable {logs : List Log} {before after : Tables}
    (kept : KeepsAll deployment case grounds actions logs before transcript after)
    (obliging : Obliging start stop transcript) : ∀ action ∈ actions, IsUsable start action := by
  induction kept with
  | nil => exact fun _ listed => absurd listed List.not_mem_nil
  | cons first _ ih =>
    cases first with
    | mk carried _ _ _ =>
      obtain ⟨first, later⟩ := obliging_append.mp obliging
      obtain ⟨carrying, -⟩ := obliging_append.mp first
      exact List.forall_mem_cons.mpr ⟨carryOut_usable carried carrying, ih later⟩

theorem enact_feasible {before after : Session} {logs : List Log} (real : case.simulation = false)
    (run : Runs (enact deployment case gate grounds) transcript (.ok logs))
    (answered : Answered before transcript after) (obliging : Obliging start stop transcript) :
    case.IsFeasible gate start := by
  cases enact_succeeds real run answered with
  | mk kept slowed _ =>
    obtain ⟨acting, slowing⟩ := obliging_append.mp obliging
    refine ⟨kept.usable acting, fun slows => ?_⟩
    rw [slowDown, if_pos slows, startSlowMode_eq] at slowed
    obtain ⟨_, _, _, rfl, suspended, -⟩ := runs_bind_ok.mp slowed
    exact suspendFor_room suspended (obliging_append.mp slowing).1

/-! ## Saved configurations -/

/-- A configuration that was saved leaves the store with a bypass list that can be read. -/
theorem saved_keepsList {channel saved : Channel} (valid : channel.Valid) {saving : Transcript} {store : Tables}
    {stored : Session} (save : Runs (saveChannel deployment channel) saving (.ok saved))
    (kept : Answered (.clean store) saving stored) :
    saved = channel.finite ∧
      ∀ row, stored.committed.channelRow? channel.id = some row → row.KeepsList := by
  rcases saveChannel_answered save kept with ⟨_, same, -⟩ | ⟨now, same, rfl⟩
  · cases same
  rw [ChannelRow.channel_configured valid] at same
  cases same
  refine ⟨rfl, fun row found => ?_⟩
  cases (row_written valid store (ChannelRow.configured_id ..)).symm.trans found
  exact ChannelRow.configured_keepsList _ channel now

theorem gate_actions_valid {channel : Channel} (valid : channel.Valid) (own : case.channel = channel.finite)
    (gate : Gate) : ∀ action ∈ gate.actions case, action.Valid := by
  cases gate with
  | exempt | suspended | noRules | rejected =>
    refine List.forall_mem_singleton.mpr ?_
    trivial
  | excluded =>
    rw [Gate.actions, own]
    exact valid.exclusion.each
  | included =>
    rw [Gate.actions, own]
    exact valid.inclusion.each

/-- A real case of a cast in a channel whose configuration was saved. All calls and changes
go well between two times, the channel's row is as it was saved, and the roles to be granted
are there. Then carrying out a gate's actions and slow mode returns if at the later time the
calendar has room for every suspension and every voter is a number, and it fails if at the
earlier time that is not so. Slow mode has room as long as the calendar goes on for its
hours. A cooldown that is infinite or no number has none, nor has one whose whole hours go
beyond the calendar, and there is room where the calendar goes on for an hour more. -/
theorem saved_actions_run_when_feasible {channel saved : Channel} (valid : channel.Valid) {saving : Transcript}
    {store : Tables} {stored before after : Session} {outcome : Except Failure (List Log)}
    (save : Runs (saveChannel deployment channel) saving (.ok saved))
    (kept : Answered (.clean store) saving stored) (own : case.channel = saved)
    (real : case.simulation = false) (given : case.cast.isSome = true)
    (row : before.working.channelRow? saved.id = stored.committed.channelRow? saved.id)
    (roles : ∀ role, .grantRole role ∈ gate.actions case →
      (before.working.role? saved.id role).isSome = true)
    (calendar : Moment.earliest ≤ start.micros)
    (run : Runs (enact deployment case gate grounds) transcript outcome)
    (answered : Answered before transcript after) (obliging : Obliging start stop transcript) :
    (case.IsFeasible gate stop → ∃ logs, outcome = .ok logs) ∧
    (¬ case.IsFeasible gate start → ∃ failure, outcome = .error failure) ∧
    ∀ time : Moment, Moment.earliest ≤ time.micros →
      (HasRoom time (.whole saved.slowModeHours) ↔
        time.micros + saved.slowModeHours * Span.microsPerHour < Moment.afterLatest) ∧
      ∀ hours, .cooldown hours ∈ gate.actions case →
        (HasRoom time (.real hours) → ∃ whole, hours.truncate? = some whole ∧
          time.micros + whole * Span.microsPerHour < Moment.afterLatest) ∧
        ∀ whole, hours.truncate? = some whole →
          time.micros + (whole + 1) * Span.microsPerHour < Moment.afterLatest →
          HasRoom time (.real hours) := by
  obtain ⟨finite, listed⟩ := saved_keepsList valid save kept
  have actions := gate_actions_valid valid (own.trans finite) gate
  have hours : 0 ≤ saved.slowModeHours := by
    rw [finite]
    exact valid.hours
  refine ⟨?returns, ?fails, ?room⟩
  case returns =>
    intro feasible
    have equipped : Equipped case.channel.id (gate.actions case) before.working := by
      rw [own]
      refine ⟨?_, roles⟩
      rw [row, finite]
      exact listed
    exact enact_returns given actions (own ▸ hours) calendar feasible equipped run answered obliging
  case fails =>
    intro infeasible
    cases outcome with
    | ok logs => exact absurd (enact_feasible real run answered obliging) infeasible
    | error failure => exact ⟨failure, rfl⟩
  case room =>
    intro time calendar
    exact ⟨hasRoom_whole hours calendar, fun _ listed => hasRoom_real (actions _ listed) calendar⟩

/-- Slow mode of a hundred million hours is accepted, and a cast is liked before the run
fails for it. -/
theorem endless_slow_mode_fails :
    let liked : Channel := { liking (.str "gm") with slowModeHours := 100000000 }
    let channel : Channel := { liked with inclusion := { liked.inclusion with actions := [.like] } }
    let deployment : Deployment := ⟨default, Check.registry, false, 60, 1⟩
    let row := ChannelRow.configured none channel .epoch
    let store : Tables := (Change.channel row).apply {}
    let case : Case := ⟨channel, default, some default, false⟩
    let grounds : Grounds := ⟨"gm", none⟩
    let log := entry case grounds Action.like.name "a" Moment.epoch.stored
    let transcript : Transcript := [⟨.newId, "a"⟩, ⟨.clock, some .epoch⟩,
      ⟨.write (.addLog log), .ok ()⟩, ⟨.commit, ()⟩, ⟨.clock, some .epoch⟩]
    channel.Valid ∧ (∃ saving, Runs (saveChannel deployment channel) saving (.ok channel) ∧
      Answered (.clean {}) saving (.clean store)) ∧
    Runs (enact deployment case .included grounds) transcript (.error .dateOutOfRange) ∧
    Answered (.clean store) transcript (.clean { store with logs := [log] }) ∧
    Obliging .epoch .epoch transcript ∧ ¬ case.IsFeasible .included .epoch := by
  intro liked channel deployment row store case grounds log transcript
  have full : (liking (.str "gm")).Valid := liking_valid trivial
  have valid : channel.Valid := {
    full with
    hours := (by decide : (0 : Int) ≤ 100000000)
    inclusion := {
      rule := full.inclusion.rule
      actions := List.cons_ne_nil _ _
      each := List.forall_mem_singleton.mpr trivial } }
  have accepted : checkRules deployment.registry channel = .ok () := rfl
  obtain ⟨saving, save, kept⟩ := saveChannel_runs valid rfl accepted {} .epoch
  have run : Runs (enact deployment case .included grounds) transcript (.error .dateOutOfRange) :=
    .ask _ (.ask _ (.ask _ (.ask _ (.ask _ (.failed _)))))
  have answered : Answered (.clean store) transcript (.clean { store with logs := [log] }) :=
    .cons rfl <| .cons rfl <| .cons rfl <| .cons rfl <| .cons rfl <| .nil _
  have shown : Helps (Between .epoch .epoch) (fun _ => True) .clock (some .epoch) :=
    ⟨.epoch, rfl, le_rfl, le_rfl⟩
  have obliging : Obliging .epoch .epoch transcript := by
    simp only [Obliging, transcript, List.forall_mem_cons]
    exact ⟨trivial, shown, rfl, trivial, shown, fun _ listed => absurd listed List.not_mem_nil⟩
  have roles : ∀ role, .grantRole role ∈ Gate.actions case .included →
      (store.role? channel.id role).isSome = true := by
    intro role listed
    cases List.mem_singleton.mp listed
  refine ⟨valid, ⟨saving, save, kept⟩, run, answered, obliging, fun feasible => ?_⟩
  obtain ⟨returns, -⟩ := saved_actions_run_when_feasible valid save kept rfl rfl rfl rfl roles (by decide)
    run answered obliging
  obtain ⟨_, same⟩ := returns feasible
  cases same

end Curation.Moderation
