import Curation.Proofs.Intake.Mutes
import Curation.Proofs.Moderation.Frame
import Curation.Proofs.Rehearsal.Serving

/-! What a run of moderation leaves to others. Whatever rules and actions are at work, and
whether the run returns or fails, it changes the bypass list of the channel of its case,
what is kept about the user of the case in that channel, and the votes on the cast. Other
channels and other users do not notice it. -/
namespace Curation

namespace Moderation

open Store (ChannelRow Tables)

variable {case : Case} {before after : Tables}

/-- What is kept of other channels, and of other users in the channel of a case, is the same,
row by row and in its order. -/
structure Case.SparesOthers (case : Case) (before after : Tables) : Prop where
  configurations : ∀ id, id ≠ Text.lower case.channel.id →
    after.channels.filter (fun row => row.id == id) = before.channels.filter fun row => row.id == id
  roles : after.roles = before.roles
  delegates : ∀ channel fid, case.owns channel fid = false →
    after.delegates.filter (fun row => row.channelId == channel && row.fid == fid) =
      before.delegates.filter fun row => row.channelId == channel && row.fid == fid
  logs : ∀ channel fid, case.owns channel fid = false →
    after.logs.filter (fun log => log.channelId == channel && log.fid == fid) =
      before.logs.filter fun log => log.channelId == channel && log.fid == fid
  cooldowns : ∀ channel fid, case.owns channel fid = false →
    after.cooldowns.filter (fun row => row.channelId == channel && row.fid == fid) =
      before.cooldowns.filter fun row => row.channelId == channel && row.fid == fid

/-- Lists that agree on some items agree on fewer. -/
theorem filter_of_filter {α : Type} {wider narrower : α → Bool} {items others : List α}
    (same : items.filter wider = others.filter wider)
    (within : ∀ item, narrower item = true → wider item = true) :
    items.filter narrower = others.filter narrower := by
  have both (items : List α) : items.filter narrower = (items.filter wider).filter narrower := by
    rw [List.filter_filter]
    refine List.filter_congr fun item _ => ?_
    cases kept : narrower item with
    | true => rw [within item kept, Bool.and_self]
    | false => rw [Bool.false_and]
  rw [both items, same, ← both others]

theorem Case.besides_other {row : ChannelRow} (apart : row.id ≠ Text.lower case.channel.id) :
    case.besides row = row := if_neg apart

theorem Case.besides_id (row : ChannelRow) : (case.besides row).id = row.id := by
  unfold besides
  split
  · rfl
  · rfl

/-- Of another channel all is shown. -/
theorem Case.filter_besides {id : String} (apart : id ≠ Text.lower case.channel.id) (rows : List ChannelRow) :
    (rows.map case.besides).filter (fun row => row.id == id) = rows.filter fun row => row.id == id := by
  induction rows with
  | nil => rfl
  | cons row rest ih =>
    rw [List.map_cons, List.filter_cons, List.filter_cons, ih, Case.besides_id]
    split
    · rename_i named
      obtain rfl : row.id = id := by simpa using named
      rw [Case.besides_other apart]
    · rfl

theorem Case.roles_same (same : case.outside after = case.outside before) : after.roles = before.roles := by
  have roles : (case.outside after).roles = (case.outside before).roles := by rw [same]
  exact roles

/-- Tables that agree outside of a case agree on all others. -/
theorem Case.sparesOthers (same : case.outside after = case.outside before) :
    case.SparesOthers before after where
  configurations id apart := by
    have channels : after.channels.map case.besides = before.channels.map case.besides :=
      congrArg (fun tables : Tables => tables.channels) same
    rw [← case.filter_besides apart, channels, case.filter_besides apart]
  roles := Case.roles_same same
  delegates channel fid apart := by
    have delegates := congrArg (fun tables : Tables => tables.delegates) same
    simp only [Case.outside, Case.roles_same same] at delegates
    refine filter_of_filter delegates fun row about => ?_
    simp only [Bool.and_eq_true, beq_iff_eq] at about
    simp only [Case.ownsRole, about.1, about.2, apart, Bool.false_and, Bool.not_false]
  logs channel fid apart := by
    refine filter_of_filter (congrArg (fun tables : Tables => tables.logs) same) fun log about => ?_
    simp only [Bool.and_eq_true, beq_iff_eq] at about
    rw [about.1, about.2, apart, Bool.not_false]
  cooldowns channel fid apart := by
    refine filter_of_filter (congrArg (fun tables : Tables => tables.cooldowns) same) fun row about => ?_
    simp only [Bool.and_eq_true, beq_iff_eq] at about
    rw [about.1, about.2, apart, Bool.not_false]

end Moderation

namespace Rehearsal

open Moderation

/-- Moderation in a rehearsal changes only what belongs to its case, and leaves nothing that
is not committed. -/
theorem rehearsal_spares_others (stage : Stage) (case : Case) (world : World)
    (clean : world.session.working = world.session.committed) :
    let after := (runModeration stage (moderate stage.deployment case) world).2
    case.outside after.session.committed = case.outside world.session.committed ∧
      after.session.working = after.session.committed ∧
      case.SparesOthers world.session.committed after.session.committed := by
  obtain ⟨_, run, served⟩ := run_served stage (moderate stage.deployment case) world
  have begun : Frames case (case.outside world.session.committed) world.session :=
    ⟨rfl, congrArg case.outside clean⟩
  have ended := (moderate_spares stage.deployment case _ rfl run served begun).rollback
  exact ⟨ended.committed, rfl, Case.sparesOthers ended.committed⟩

end Rehearsal

namespace Intake

open Moderation
open Program (Runs)
open Store (Change ChannelRow)

variable {deployment : Deployment} {case : Case} {before after : Desk} {transcript : Transcript}
  {outcome : Except Failure (List Log)}

/-- A run of moderation, however it ends, changes only what belongs to its case: the bypass
list of its channel, with the time at which that row was changed, and the suspension, the
log entries and the roles of its user in its channel, and the votes on its cast. What is
kept of others is as it was. This holds of what is committed, and of what is not. -/
theorem moderation_spares_others (idle : before.pending = [])
    (run : Runs (moderate deployment case) transcript outcome)
    (met : before.Met deployment transcript after) :
    case.outside after.committed = case.outside before.committed ∧
      case.outside after.tables = case.outside before.committed ∧
      case.SparesOthers before.committed after.committed := by
  have served := Desk.met_served met
  have begun : Frames case (case.outside before.committed) before.session :=
    ⟨rfl, congrArg case.outside (Desk.tables_idle idle)⟩
  have ended := moderate_spares deployment case _ rfl run served begun
  exact ⟨ended.committed, ended.working, Case.sparesOthers ended.committed⟩

/-! ## A bypass list that grows -/

section Bypassing

/-- The row of a channel that nobody is moderated in. -/
def otherRow : ChannelRow := .ofChannel { openChannel .like with id := "dogs" } .epoch

/-- Two channels; in the other one the same user is suspended, and in this one another user. -/
def twoChannels : Desk :=
  ⟨{ channels := [.ofChannel (openChannel .addToBypass) .epoch, otherRow]
     cooldowns := [⟨"8", "dogs", true, none, .epoch⟩, ⟨"9", "", true, none, .epoch⟩] }, [], {}, 0⟩

/-- The row of the channel after its user was put on the list. -/
def listedRow (time : Moment) : ChannelRow :=
  let row := ChannelRow.ofChannel (openChannel .addToBypass) .epoch
  let option : UserOption := ⟨8, "ann", none⟩
  { row with bypassed := (Json.arr [option.toJson]).spaced, updatedAt := time.stored }

/-- The user who asks to join is put on the bypass list. -/
theorem joining_lists (deployment : Deployment) (time : Moment) :
    ∃ transcript logs after, Runs (moderate deployment (joining .addToBypass)) transcript (.ok logs) ∧
      twoChannels.Met deployment transcript after ∧
      after.committed.channels = [listedRow time, otherRow] := by
  let listing : Transcript := [⟨.tables, twoChannels.tables⟩, ⟨.clock, some time⟩,
    ⟨.write (.channel (listedRow time)), .ok ()⟩]
  have runs : Runs (carryOut deployment (joining .addToBypass) .addToBypass) listing (.ok ()) :=
    .ask _ (.ask _ (.ask _ (.done ())))
  have answered : twoChannels.Answered listing
      { twoChannels with pending := [.channel (listedRow time)] } :=
    .cons ⟨rfl, rfl⟩ (.cons rfl (.cons ⟨rfl, rfl⟩ (.nil _)))
  obtain ⟨log, -, leads⟩ := joining_leads deployment "1" runs answered rfl
  generalize left : Desk.kept _ _ = after at leads
  cases leads with
  | mk run _ met =>
    have same := congrArg (fun desk : Desk => desk.committed.channels) left
    exact ⟨_, _, _, run, met, same.symm⟩

/-- A minute after the start. -/
def minuteLater : Moment := ⟨Moment.epoch.micros + 60000000, some 0⟩

/-- The user is on the list then, and the suspensions of this user elsewhere and of others
here are as they were. -/
theorem joining_spares_others :
    let deployment : Deployment := ⟨default, ⟨[], .nil⟩, false, 60, 1⟩
    let case := joining .addToBypass
    ∃ transcript logs after, twoChannels.pending = [] ∧
      Runs (moderate deployment case) transcript (.ok logs) ∧
      twoChannels.Met deployment transcript after ∧
      after.committed.channels = [listedRow minuteLater, otherRow] ∧
      case.outside after.committed = case.outside twoChannels.committed ∧
      case.outside after.tables = case.outside twoChannels.committed ∧
      case.SparesOthers twoChannels.committed after.committed := by
  intro deployment case
  obtain ⟨transcript, logs, after, run, met, channels⟩ := joining_lists deployment minuteLater
  exact ⟨transcript, logs, after, rfl, run, met, channels, moderation_spares_others rfl run met⟩

/-- Not only the bypass list changes of the channel's row, but also when it was updated. -/
theorem bypassing_stamps_row :
    let deployment : Deployment := ⟨default, ⟨[], .nil⟩, false, 60, 1⟩
    ∃ transcript logs after, twoChannels.pending = [] ∧
      Runs (moderate deployment (joining .addToBypass)) transcript (.ok logs) ∧
      twoChannels.Met deployment transcript after ∧
      after.committed.channels.map (fun row => { row with bypassed := "" }) ≠
        twoChannels.committed.channels.map fun row => { row with bypassed := "" } := by
  intro deployment
  obtain ⟨transcript, logs, after, run, met, channels⟩ := joining_lists deployment minuteLater
  refine ⟨transcript, logs, after, rfl, run, met, fun same => ?_⟩
  rw [channels] at same
  have stamps := congrArg (fun rows : List ChannelRow => rows.map fun row => row.updatedAt) same
  exact absurd stamps (by decide)

end Bypassing

end Intake

end Curation
