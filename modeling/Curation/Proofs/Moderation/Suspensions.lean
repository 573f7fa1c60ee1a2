import Curation.Proofs.Moderation.Answering
import Curation.Proofs.Store.Lookups

/-! What actions do about suspensions. Five kinds of actions and slow mode rule on the
suspension of the user of their case, and on no other; all other actions leave every
suspension as it is. -/
namespace Curation

/-- What is ruled about a suspension. -/
inductive Ruling where
  /-- It begins now, for some hours or without an end. -/
  | suspend (hours : Option Number)
  | lift

/-- What an action rules about the suspension of its user, if it does. -/
def Action.ruling? : Action → Option Ruling
  | .ban | .mute => some (.suspend none)
  | .cooldown hours => some (.suspend (some (.real hours)))
  | .cooldownEnded | .unmuted => some .lift
  | _ => none

theorem Action.mayWrite_cooldown {action : Action} (silent : action.ruling? = none)
    {change : Store.Change} (may : action.mayWrite change = true) :
    change.sparesSuspensions = true := by
  cases change with
  | cooldown =>
    cases action with
    | ban | mute | cooldown | cooldownEnded | unmuted => cases silent
    | _ => cases may
  | channel | role | delegate | downvote | cast | addLog | updateLog | deleteLogs => rfl

namespace Moderation

open Program (Asks Runs runs_bind_ok runs_done runs_ofExcept runs_question answered_append answered_question)
open Store (Change CooldownRow Session Tables)

variable {deployment : Deployment} {case : Case} {action : Action} {transcript : Transcript}
  {before after : Session}

/-- The suspension of a user before and after a ruling on it, as the clock was read. -/
inductive Obeys (transcript : Transcript) : Ruling → Option CooldownRow → Option CooldownRow → Prop
  | endless {before : Option CooldownRow} {row : CooldownRow} :
    row.active = true → row.expiresAt = none → Obeys transcript (.suspend none) before (some row)
  | timed {before : Option CooldownRow} {row : CooldownRow} {hours : Number} {time expiresAt : Moment} :
    ⟨.clock, some time⟩ ∈ transcript → hoursFrom time hours = .ok expiresAt →
    row.active = true → row.expiresAt = some expiresAt.stored →
    Obeys transcript (.suspend (some hours)) before (some row)
  | lifted {before : Option CooldownRow} :
    Obeys transcript .lift before (before.map fun row => { row with active := false })

theorem Obeys.mono {ruling : Ruling} {before after : Option CooldownRow} {transcript longer : Transcript}
    (obeys : Obeys transcript ruling before after) (part : transcript ⊆ longer) :
    Obeys longer ruling before after := by
  cases obeys with
  | endless active endless => exact .endless active endless
  | timed read ends active expires => exact .timed (part read) ends active expires
  | lifted => exact .lifted

/-- The suspension of the user of a case in its channel. -/
def Case.suspension? (case : Case) (tables : Tables) : Option CooldownRow :=
  tables.cooldown? case.channel.id (toString case.user.fid)

theorem Case.suspension?_of_cooldowns (case : Case) {tables other : Tables}
    (same : other.cooldowns = tables.cooldowns) : case.suspension? other = case.suspension? tables :=
  Tables.cooldown?_of_cooldowns same ..

/-- What is left of the suspensions where there was a ruling about the user of a case, or
none. -/
structure Rules (case : Case) (ruling? : Option Ruling) (transcript : Transcript)
    (before after : Tables) : Prop where
  own : ∀ ruling, ruling? = some ruling →
    Obeys transcript ruling (case.suspension? before) (case.suspension? after)
  others : ∀ channel fid,
    ruling? = none ∨ ¬ (channel = case.channel.id ∧ fid = toString case.user.fid) →
    after.cooldown? channel fid = before.cooldown? channel fid

theorem Rules.none_of_cooldowns {before after : Tables} (same : after.cooldowns = before.cooldowns) :
    Rules case none transcript before after where
  own ruling given := by cases given
  others channel fid _ := Tables.cooldown?_of_cooldowns same channel fid

theorem Rules.then_same {ruling? : Option Ruling} {before between after : Tables}
    (rules : Rules case ruling? transcript before between) (same : after.cooldowns = between.cooldowns) :
    Rules case ruling? transcript before after where
  own ruling given := by
    rw [case.suspension?_of_cooldowns same]
    exact rules.own ruling given
  others channel fid apart := by
    rw [Tables.cooldown?_of_cooldowns same]
    exact rules.others channel fid apart

/-! ## Writing -/

/-- A row for the user of a case is written in its place, and no other row. -/
theorem Rules.written {ruling : Ruling} {row : CooldownRow} {before : Tables}
    (fid : row.fid = toString case.user.fid) (channel : row.channelId = case.channel.id)
    (obeys : Obeys transcript ruling (case.suspension? before) (some row)) :
    Rules case (some ruling) transcript before ((Change.cooldown row).apply before) where
  own other given := by
    cases given
    rw [Case.suspension?, Case.suspension?, Store.cooldown?_written, if_pos ⟨fid, channel⟩]
    exact obeys
  others channel' fid' apart := by
    rcases apart with silent | apart
    · cases silent
    rw [Store.cooldown?_written, if_neg]
    rintro ⟨rfl, rfl⟩
    exact apart ⟨channel, fid⟩

theorem suspend_answered {channel : String} {fid : Int} {expiresAt : Option Moment}
    (run : Runs (suspend channel fid expiresAt) transcript (.ok ()))
    (answered : Answered before transcript after) :
    ∃ row : CooldownRow, row.fid = toString fid ∧ row.channelId = channel ∧ row.active = true ∧
      row.expiresAt = expiresAt.map .stored ∧
      after = { before with working := (Change.cooldown row).apply before.working } := by
  obtain ⟨_, tables, _, rfl, read, run⟩ := runs_bind_ok.mp run
  obtain ⟨_, for_tables, for_rest⟩ := answered_append.mp answered
  obtain ⟨same, rfl⟩ := tables_answered read for_tables
  cases same
  obtain ⟨_, time, _, rfl, read, run⟩ := runs_bind_ok.mp run
  obtain ⟨_, for_time, for_row⟩ := answered_append.mp for_rest
  obtain rfl := now_answered read for_time
  rcases write_answered run for_row with ⟨-, rfl⟩ | ⟨_, same, -⟩
  · exact ⟨_, rfl, rfl, rfl, rfl, rfl⟩
  · cases same

theorem liftSuspension_answered {lifted : Bool}
    (run : Runs (liftSuspension case.channel.id case.user.fid) transcript (.ok lifted))
    (answered : Answered before transcript after) :
    Rules case (some .lift) transcript before.working after.working := by
  obtain ⟨_, tables, _, rfl, read, run⟩ := runs_bind_ok.mp run
  obtain ⟨between, for_tables, for_row⟩ := answered_append.mp answered
  obtain ⟨same, unchanged⟩ := tables_answered read for_tables
  cases same
  rw [unchanged] at for_row
  simp only [Store.lift?] at run
  cases found : before.working.cooldown? case.channel.id (toString case.user.fid) with
  | none =>
    rw [found] at run
    obtain ⟨-, rfl⟩ := runs_done.mp run
    cases for_row
    refine ⟨fun ruling given => ?_, fun _ _ _ => rfl⟩
    cases given
    have absent : case.suspension? before.working = none := found
    rw [absent]
    exact .lifted
  | some row =>
    rw [found] at run
    obtain ⟨_, _, _, rfl, written, run⟩ := runs_bind_ok.mp run
    obtain ⟨_, for_write, rest⟩ := answered_append.mp for_row
    obtain ⟨-, rfl⟩ := runs_done.mp run
    cases rest
    rcases write_answered written for_write with ⟨-, rfl⟩ | ⟨_, same, -⟩
    · obtain ⟨fid, channel⟩ := Store.cooldown?_key found
      refine .written fid channel ?_
      have known : case.suspension? before.working = some row := found
      rw [known]
      exact .lifted
    · cases same

/-! ## Actions and slow mode -/

/-- What may be asked without a change to a suspension. -/
def sparesSuspensions : Ask → Prop
  | .write change => change.sparesSuspensions = true
  | .remote _ | .tables | .clock => True
  | _ => False

/-- Where only such questions come up, the suspensions stay. -/
theorem cooldowns_answered {α : Type} {program : Moderation α} {outcome : Except Failure α}
    (run : Runs program transcript outcome) (answered : Answered before transcript after)
    (asks : program.Asks sparesSuspensions) :
    after.working.cooldowns = before.working.cooldowns := by
  refine answered.keeps (·.working.cooldowns) run asks fun ask spares before answer after answers => ?_
  cases ask with
  | remote | clock => rw [show after = before from answers]
  | tables => rw [show after = before from answers.2]
  | write change =>
    have wrote : (answer, after) = before.write change := answers
    unfold Session.write at wrote
    split at wrote
    · cases wrote
      rfl
    · cases wrote
      exact Change.apply_cooldowns spares before.working
  | evaluate | commit | rollback | newId | claim | release => exact spares.elim

/-- Suspends the user of a case for some hours from now. -/
def suspendFor (case : Case) (hours : Number) : Moderation Unit := do
  let expiresAt ← hoursFrom (← now) hours
  suspend case.channel.id case.user.fid (some expiresAt)

theorem startSlowMode_eq (case : Case) :
    startSlowMode case =
      (suspendFor case (.whole case.channel.slowModeHours)).bind fun _ => commit := by
  simp only [startSlowMode, suspendFor, Program.bind_eq, Program.bind_assoc]

theorem suspendFor_asks (case : Case) (hours : Number) :
    Asks (·.isCarrying = true) (suspendFor case hours) := by
  refine (now_asks isCarrying_reads.clock).bind fun time => (ofExcept_asks _).bind fun expiresAt => ?_
  exact suspend_asks isCarrying_reads.looks (fun _ => rfl) _ _ _

theorem suspendFor_rules {hours : Number} (run : Runs (suspendFor case hours) transcript (.ok ()))
    (answered : Answered before transcript after) :
    Rules case (some (.suspend (some hours))) transcript before.working after.working := by
  obtain ⟨_, time, _, rfl, read, rest⟩ := runs_bind_ok.mp run
  obtain ⟨_, expiresAt, _, rfl, length, suspended⟩ := runs_bind_ok.mp rest
  obtain rfl := runs_now read
  obtain ⟨ends, rfl⟩ := runs_ofExcept.mp length
  obtain ⟨_, for_time, for_row⟩ := answered_append.mp answered
  obtain rfl := now_answered read for_time
  obtain ⟨row, fid, channel, active, expires, rfl⟩ := suspend_answered suspended for_row
  exact .written fid channel
    (.timed (List.mem_append_left _ (List.mem_singleton_self _)) ends.symm active expires)

/-- Slow mode suspends the author of the cast, and commits that. -/
theorem startSlowMode_rules (run : Runs (startSlowMode case) transcript (.ok ()))
    (answered : Answered before transcript after) :
    Rules case (some (.suspend (some (.whole case.channel.slowModeHours)))) transcript before.working
      after.working ∧ after = .clean after.working := by
  rw [startSlowMode_eq] at run
  obtain ⟨_, _, _, rfl, suspended, committed⟩ := runs_bind_ok.mp run
  obtain ⟨between, for_row, for_commit⟩ := answered_append.mp answered
  obtain ⟨_, -, rfl⟩ := runs_question.mp committed
  obtain rfl : after = between.commit := answered_question.mp for_commit
  obtain ⟨own, others⟩ := suspendFor_rules suspended for_row
  refine ⟨⟨fun ruling given => ?_, others⟩, rfl⟩
  exact (own ruling given).mono (List.subset_append_left ..)

/-- An action does to suspensions what it rules, and nothing else. -/
theorem carryOut_rules (run : Runs (carryOut deployment case action) transcript (.ok ()))
    (answered : Answered before transcript after) :
    Rules case action.ruling? transcript before.working after.working := by
  cases ruling : action.ruling? with
  | none =>
    refine .none_of_cooldowns (cooldowns_answered run answered ?_)
    refine carryOut_asks_only ⟨fun _ => trivial, trivial, trivial⟩ deployment case action ?_
    exact fun change may => Action.mayWrite_cooldown ruling may
  | some ruled =>
    cases action with
    | ban =>
      cases ruling
      obtain ⟨_, _, _, rfl, suspended, banned⟩ := runs_bind_ok.mp run
      obtain ⟨between, for_row, for_call⟩ := answered_append.mp answered
      obtain ⟨row, fid, channel, active, endless, rfl⟩ := suspend_answered suspended for_row
      refine Rules.then_same (.written fid channel (.endless active endless)) ?_
      refine cooldowns_answered banned for_call (onNetwork_asks ?_ deployment _)
      exact ⟨fun _ => trivial, trivial, trivial⟩
    | mute =>
      cases ruling
      obtain ⟨row, fid, channel, active, endless, rfl⟩ := suspend_answered run answered
      exact .written fid channel (.endless active endless)
    | cooldown hours =>
      cases ruling
      exact suspendFor_rules run answered
    | cooldownEnded | unmuted =>
      cases ruling
      obtain ⟨_, _, _, rfl, lifted, rest⟩ := runs_bind_ok.mp run
      cases rest
      rw [List.append_nil] at answered ⊢
      exact liftSuspension_answered lifted answered
    | _ => cases ruling

end Moderation

end Curation
