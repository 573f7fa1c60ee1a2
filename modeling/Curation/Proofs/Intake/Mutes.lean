import Curation.Proofs.Intake.Meeting
import Curation.Proofs.Intake.Owners
import Curation.Proofs.Moderation.LatestRuling

/-! How long a mute lasts. A ban or a mute leaves a suspension without an end. Only actions
that rule otherwise about the same user in the same channel replace it, or slow mode that
begins in the same run: once it stands, it keeps the user's casts from every rule, so no
later run comes to slow mode. -/
namespace Curation

/-- A user is suspended in a channel without an end. -/
def Store.Tables.IsMuted (tables : Tables) (channel : String) (fid : Int) : Prop :=
  ∃ row, tables.cooldown? channel (toString fid) = some row ∧ row.active = true ∧ row.expiresAt = none

theorem Store.Tables.IsMuted.of_cooldown {tables other : Tables} {channel : String} {fid : Int}
    (muted : tables.IsMuted channel fid)
    (same : other.cooldown? channel (toString fid) = tables.cooldown? channel (toString fid)) :
    other.IsMuted channel fid := by
  unfold IsMuted
  rw [same]
  exact muted

theorem Store.Tables.IsMuted.of_cooldowns {tables other : Tables} {channel : String} {fid : Int}
    (muted : tables.IsMuted channel fid) (same : other.cooldowns = tables.cooldowns) :
    other.IsMuted channel fid :=
  muted.of_cooldown (Tables.cooldown?_of_cooldowns same ..)

/-- An action leaves a suspension without an end. -/
def Action.mutes : Action → Bool
  | .ban | .mute => true
  | _ => false

/-- An action lifts a suspension or gives it an end. -/
def Action.endsMute : Action → Bool
  | .cooldown _ | .cooldownEnded | .unmuted => true
  | _ => false

namespace Moderation

open Program (Runs runs_bind_ok runs_done answered_append)
open Rehearsal (IsHarmless)
open Store (CooldownRow Session Tables)

variable {deployment : Deployment} {case : Case} {grounds : Grounds} {gate : Gate} {action : Action}
  {actions : List Action} {log : Log} {logs : List Log} {transcript : Transcript}
  {before after : Tables} {channel : String} {fid : Int}

/-- A case is about a user in a channel. -/
def Case.IsAbout (case : Case) (channel : String) (fid : Int) : Prop :=
  case.channel.id = channel ∧ case.user.fid = fid

/-! ## Actions -/

theorem Keeps.rules (kept : Keeps deployment case grounds action log before transcript after) :
    Rules case action.ruling? transcript before after := by
  cases kept with
  | mk carried answered _ _ =>
    obtain ⟨own, others⟩ := (carryOut_rules carried answered).then_same rfl
    exact ⟨fun ruling given => (own ruling given).mono (List.subset_append_left ..), others⟩

theorem Keeps.mutes (kept : Keeps deployment case grounds action log before transcript after)
    (mutes : action.mutes = true) : after.IsMuted case.channel.id case.user.fid := by
  have ruling : action.ruling? = some (.suspend none) := by
    cases action with
    | ban | mute => rfl
    | _ => cases mutes
  obtain ⟨row, stored, active, endless⟩ : ∃ row, case.suspension? after = some row ∧
      row.active = true ∧ row.expiresAt = none := by
    have obeys := kept.rules.own _ ruling
    generalize case.suspension? after = row? at obeys
    cases obeys with
    | endless active endless => exact ⟨_, rfl, active, endless⟩
  exact ⟨row, stored, active, endless⟩

/-- An action that does not end it leaves a mute, and so does any action about others. -/
theorem Keeps.muted (kept : Keeps deployment case grounds action log before transcript after)
    (spares : case.IsAbout channel fid → action.endsMute = false) (muted : before.IsMuted channel fid) :
    after.IsMuted channel fid := by
  by_cases about : case.IsAbout channel fid
  · obtain ⟨rfl, rfl⟩ := about
    cases silent : action.ruling? with
    | none =>
      unfold Tables.IsMuted
      rw [kept.rules.others _ _ (.inl silent)]
      exact muted
    | some ruling =>
      refine kept.mutes ?_
      have spares := spares ⟨rfl, rfl⟩
      cases action with
      | ban | mute => rfl
      | cooldown | cooldownEnded | unmuted => cases spares
      | _ => cases silent
  · unfold Tables.IsMuted
    rw [kept.rules.others _ _ (.inr fun same => about ⟨same.1.symm, (Text.toString_inj same.2).symm⟩)]
    exact muted

theorem KeepsAll.muted (kept : KeepsAll deployment case grounds actions logs before transcript after)
    (spares : case.IsAbout channel fid → ∀ action ∈ actions, action.endsMute = false)
    (muted : before.IsMuted channel fid) : after.IsMuted channel fid := by
  induction kept with
  | nil => exact muted
  | cons first _ ih =>
    have muted := first.muted (fun about => spares about _ (.head _)) muted
    exact ih (fun about action listed => spares about action (.tail _ listed)) muted

/-- Where no later action ends it, a mute among actions stands in the end. -/
theorem KeepsAll.mutes {done rest : List Action}
    (kept : KeepsAll deployment case grounds (done ++ action :: rest) logs before transcript after)
    (mutes : action.mutes = true) (spares : ∀ action ∈ rest, action.endsMute = false) :
    after.IsMuted case.channel.id case.user.fid := by
  generalize shape : done ++ action :: rest = actions at kept
  induction kept generalizing done with
  | nil => cases List.append_ne_nil_of_right_ne_nil done (List.cons_ne_nil action rest) shape
  | cons first later ih =>
    cases done with
    | nil =>
      obtain ⟨rfl, rfl⟩ := List.cons.inj shape
      exact later.muted (fun _ => spares) (first.mutes mutes)
    | cons other done => exact ih (List.cons.inj shape).2

/-! ## Slow mode -/

/-- A mute that stands keeps a cast from the rules, so slow mode does not begin after it. -/
theorem muted_not_slowed {before after : Session} {seen : Transcript}
    (judged : Runs (judge deployment case) seen (.ok (gate, grounds))) (served : Served before seen after)
    (muted : before.working.IsMuted case.channel.id case.user.fid) : case.slows gate = false := by
  have stops := judge_stops judged
  by_contra slows
  simp only [Case.slows, Bool.not_eq_false, Bool.and_eq_true, decide_eq_true_eq] at slows
  obtain ⟨⟨⟨rfl, cast⟩, -⟩, -⟩ := slows
  cases stops with
  | included _ free =>
    cases free with
    | noCast none_ =>
      rw [none_] at cast
      cases cast
    | @author tables time _ free =>
      have same : tables.cooldowns = before.working.cooldowns := judge_reads judged served (by simp)
      obtain ⟨row, stored, active, endless⟩ := muted.of_cooldowns same
      refine free row stored ⟨active, fun expiresAt ends => ?_⟩
      rw [endless] at ends
      cases ends

/-- Slow mode that does not begin changes nothing, and one for another user leaves what is
stored of this one. -/
theorem slowDown_cooldown? {before after : Session} (slowed : Runs (slowDown case gate) transcript (.ok ()))
    (answered : Answered before transcript after)
    (spares : case.IsAbout channel fid → case.slows gate = false)
    (same : before.working.cooldowns = before.committed.cooldowns) :
    after.committed.cooldown? channel (toString fid) = before.committed.cooldown? channel (toString fid) := by
  unfold slowDown at slowed
  split at slowed
  · rename_i slows
    obtain ⟨rules, clean⟩ := startSlowMode_rules slowed answered
    rw [clean, ← Tables.cooldown?_of_cooldowns same]
    refine rules.others _ _ (.inr fun about => ?_)
    rw [spares ⟨about.1.symm, (Text.toString_inj about.2).symm⟩] at slows
    cases slows
  · cases slowed
    cases answered
    rfl

/-- What is left muted by the actions of a run that returns is muted in the end. -/
theorem Succeeds.muted {before after : Session}
    (succeeds : Succeeds deployment case gate grounds logs before after transcript)
    (same : before.working.cooldowns = before.committed.cooldowns)
    (spares : case.IsAbout channel fid → case.slows gate = false)
    (muted : ∀ {acting middle},
      KeepsAll deployment case grounds (gate.actions case) logs before.working acting middle →
      middle.IsMuted channel fid) : after.committed.IsMuted channel fid := by
  cases succeeds with
  | mk kept slowed answered =>
    have left := muted kept
    rw [← kept.base] at left
    split at left
    · rename_i none_
      rw [if_pos none_] at answered
      exact (left.of_cooldowns same.symm).of_cooldown (slowDown_cooldown? slowed answered spares same)
    · rename_i some_
      rw [if_neg some_] at answered
      exact left.of_cooldown (slowDown_cooldown? slowed answered spares rfl)

end Moderation

/-! ## Runs -/

namespace Intake

open Moderation
open Program (Runs runs_bind runs_ofExcept runs_recover answered_append)
open Store (Change CooldownRow Session Tables)

/-- A case whose moderation has returned, with the gate that has stopped it. -/
structure Proceeding where
  case : Case
  gate : Gate

namespace Proceeding

/-- The actions that are carried out. -/
def executed (proceeding : Proceeding) : List Action :=
  if proceeding.case.simulation then [] else proceeding.gate.actions proceeding.case

/-- Whether slow mode begins at the end. -/
def slows (proceeding : Proceeding) : Bool := proceeding.case.slows proceeding.gate

/-- Moderation of the case leads from one desk to another. -/
inductive Leads (deployment : Deployment) (proceeding : Proceeding) (before : Desk) : Desk → Prop
  | mk {after : Desk} {seen acting : Transcript} {grounds : Grounds} {logs : List Log} :
    Runs (moderate deployment proceeding.case) (seen ++ acting) (.ok logs) →
    Runs (judge deployment proceeding.case) seen (.ok (proceeding.gate, grounds)) →
    before.Met deployment (seen ++ acting) after → Leads deployment proceeding before after.undone

end Proceeding

variable {deployment : Deployment} {proceeding : Proceeding} {before after start desk : Desk}
  {channel : String} {fid : Int}

/-- What moderation has left when it returned. -/
theorem Desk.met_succeeds {case : Case} {gate : Gate} {grounds : Grounds} {logs : List Log}
    {seen acting : Transcript} (idle : before.pending = []) (real : case.simulation = false)
    (run : Runs (moderate deployment case) (seen ++ acting) (.ok logs))
    (judged : Runs (judge deployment case) seen (.ok (gate, grounds)))
    (met : before.Met deployment (seen ++ acting) after) :
    ∃ checked, Served (.clean before.committed) seen checked ∧
      Succeeds deployment case gate grounds logs checked after.session acting := by
  rw [moderate_eq] at run
  have served := Desk.met_served met
  rw [Desk.session, Desk.tables_idle idle] at served
  obtain ⟨checked, for_seen, for_acting⟩ := answered_append.mp served
  exact ⟨checked, for_seen, enact_succeeds real (run.after judged) (served_answered for_acting)⟩

namespace Proceeding.Leads

private theorem succeeds (leads : proceeding.Leads deployment before after)
    (idle : before.pending = []) (real : proceeding.case.simulation = false) :
    ∃ grounds logs seen acting checked session,
      Runs (judge deployment proceeding.case) seen (.ok (proceeding.gate, grounds)) ∧
      Served (.clean before.committed) seen checked ∧
      Succeeds deployment proceeding.case proceeding.gate grounds logs checked session acting ∧
      after.committed = session.committed := by
  cases leads with
  | mk run judged met =>
    obtain ⟨checked, served, succeeds⟩ := Desk.met_succeeds idle real run judged met
    exact ⟨_, _, _, _, checked, _, judged, served, succeeds, rfl⟩

private theorem executed_real (real : proceeding.case.simulation = false) :
    proceeding.executed = proceeding.gate.actions proceeding.case := by
  simp only [executed, real, Bool.false_eq_true, if_false]

/-- A mute stands through a run that does not end it, and slow mode does not begin. -/
theorem muted (leads : proceeding.Leads deployment before after) (idle : before.pending = [])
    (spares : proceeding.case.IsAbout channel fid →
      ∀ action ∈ proceeding.executed, action.endsMute = false)
    (muted : before.committed.IsMuted channel fid) :
    after.committed.IsMuted channel fid ∧
      (proceeding.case.IsAbout channel fid → proceeding.slows = false) := by
  cases simulated : proceeding.case.simulation with
  | true =>
    refine ⟨?_, fun _ => by simp [slows, Case.slows, simulated]⟩
    cases leads with
    | @mk after _ _ _ _ run judged met =>
      have same := moderate_simulated simulated run (Desk.met_served met)
      have committed : after.committed = before.committed := congrArg Session.committed same
      rw [show after.undone.committed = before.committed from committed]
      exact muted
  | false =>
    rw [executed_real simulated] at spares
    obtain ⟨grounds, logs, seen, acting, checked, session, judged, served, succeeds, left⟩ :=
      leads.succeeds idle simulated
    have checks := judge_served judged served
    have slows (about : proceeding.case.IsAbout channel fid) :
        proceeding.case.slows proceeding.gate = false := by
      obtain ⟨rfl, rfl⟩ := about
      exact muted_not_slowed judged served muted
    rw [left]
    refine ⟨succeeds.muted checks.clean_cooldowns slows fun kept => ?_, slows⟩
    exact kept.muted spares (muted.of_cooldowns checks.cooldowns)

/-- A run that bans or mutes its user, and does not end that again, leaves a mute. -/
theorem mutes (leads : proceeding.Leads deployment before after) (idle : before.pending = [])
    {done rest : List Action} {action : Action} (executed : proceeding.executed = done ++ action :: rest)
    (mutes : action.mutes = true) (spares : ∀ action ∈ rest, action.endsMute = false)
    (unslowed : proceeding.slows = false) :
    after.committed.IsMuted proceeding.case.channel.id proceeding.case.user.fid := by
  cases simulated : proceeding.case.simulation with
  | true =>
    simp only [Proceeding.executed, simulated, if_true] at executed
    cases List.append_ne_nil_of_right_ne_nil done (List.cons_ne_nil action rest) executed.symm
  | false =>
    rw [executed_real simulated] at executed
    obtain ⟨grounds, logs, seen, acting, checked, session, judged, served, succeeds, left⟩ :=
      leads.succeeds idle simulated
    have checks := judge_served judged served
    rw [left]
    refine succeeds.muted checks.clean_cooldowns (fun _ => unslowed) fun kept => ?_
    rw [executed] at kept
    exact kept.mutes mutes spares

end Proceeding.Leads

/-- Runs of moderation that have returned, one after another. In between there is whatever
leaves the suspensions as they are. -/
inductive Proceedings (deployment : Deployment) (start : Desk) : List Proceeding → Desk → Prop
  | start : Proceedings deployment start [] start
  | next {proceedings : List Proceeding} {proceeding : Proceeding} {before after : Desk} :
    Proceedings deployment start proceedings before → proceeding.Leads deployment before after →
    Proceedings deployment start (proceedings ++ [proceeding]) after
  | between {proceedings : List Proceeding} {before after : Desk} :
    Proceedings deployment start proceedings before → after.pending = [] →
    after.committed.cooldowns = before.committed.cooldowns →
    Proceedings deployment start proceedings after

theorem Proceedings.idle {proceedings : List Proceeding}
    (ran : Proceedings deployment start proceedings desk) (idle : start.pending = []) :
    desk.pending = [] := by
  cases ran with
  | start => exact idle
  | next _ leads => cases leads; rfl
  | between _ idle _ => exact idle

/-! ## Requests to join -/

section Joining

variable {carried : Desk} {carrying : Transcript} {action : Action}

/-- A channel of user 7 that includes everybody who asks, with one action. -/
def openChannel (action : Action) : Channel :=
  { (default : Channel) with
    inclusion := { RuleSet.empty .like with rule := .condition ⟨"alwaysInclude", []⟩, actions := [action] }
    exclusion := .empty .hideQuietly }

/-- Another user asks to join it. -/
def joining (action : Action) : Case :=
  ⟨openChannel action, ⟨8, "ann", none, none, none, [], 0, 0, false, none, none⟩, none, false⟩

/-- An action that can be carried out is kept with its entry when that user asks. The entry
is all that is new besides what the action has written. -/
theorem joining_leads (deployment : Deployment) (id : String)
    (run : Runs (carryOut deployment (joining action) action) carrying (.ok ()))
    (answered : desk.Answered carrying carried) (new : carried.tables.log? id = none) :
    ∃ log : Log, log.id = id ∧
      (⟨joining action, .included⟩ : Proceeding).Leads deployment desk (carried.kept (.addLog log)) := by
  let case := joining action
  let decision : Decision := ⟨true, "Everything included by default", case.channel.inclusion.rule⟩
  let grounds : Grounds := ⟨decision.explanation, some decision.rule⟩
  let log := entry case grounds action.name id (Moment.stored .epoch)
  let evaluated : Transcript := [⟨.evaluate case case.channel.inclusion.rule .shortCircuit, .ok decision⟩]
  let entered : Transcript :=
    [⟨.newId, id⟩, ⟨.clock, some .epoch⟩, ⟨.write (.addLog log), .ok ()⟩, ⟨.commit, ()⟩]
  obtain ⟨_, owner⟩ := owner_runs deployment.directory case.channel.id read_ownerText
  obtain ⟨asked, owner, asking⟩ := ofFetch_runs owner desk
  have ordinary : Runs (bypassReason? deployment case) asked (.ok none) :=
    runs_bind.mpr (.inr ⟨asked, _, [], (List.append_nil _).symm, owner, .done _⟩)
  have judged : Runs (judge deployment case) (asked ++ evaluated) (.ok (.included, grounds)) :=
    runs_bind.mpr (.inr ⟨asked, _, evaluated, rfl, ordinary, .ask _ (.done _)⟩)
  have performed : Runs (perform deployment case action) carrying (.ok ()) :=
    runs_recover.mpr (.inl ⟨(), rfl, run⟩)
  have logged : Runs (logAction case grounds action.name) entered (.ok log) :=
    .ask _ (.ask _ (.ask _ (.ask _ (.done _))))
  have acted : Runs (runActions deployment case grounds [action]) (carrying ++ entered) (.ok [log]) :=
    runs_bind.mpr (.inr ⟨carrying, _, entered, rfl, performed,
      runs_bind.mpr (.inr ⟨entered, _, [], (List.append_nil _).symm, logged, .done _⟩)⟩)
  have enacted : Runs (enact deployment case .included grounds) (carrying ++ entered) (.ok [log]) :=
    runs_bind.mpr (.inr ⟨_, _, [], (List.append_nil _).symm, acted, .done _⟩)
  have returned : Runs (moderate deployment case) ((asked ++ evaluated) ++ (carrying ++ entered)) (.ok [log]) := by
    rw [moderate_eq]
    exact runs_bind.mpr (.inr ⟨_, _, _, rfl, judged, enacted⟩)
  have written : carried.Answers (.write (.addLog log)) (.ok ())
      { carried with pending := carried.pending ++ [.addLog log] } := by
    have allowed : (Change.addLog log).fault? carried.tables = none := by
      simp [Change.fault?, Change.integers, log, entry, new]
    simp only [Desk.Answers, allowed]
    trivial
  have entering : carried.Answered entered (carried.kept (.addLog log)) := by
    refine .cons rfl (.cons rfl (.cons written (.cons ?_ (.nil _))))
    simp only [Desk.Answers, Desk.tables_write]
    rfl
  have answered : desk.Answered ((asked ++ evaluated) ++ (carrying ++ entered)) (carried.kept (.addLog log)) :=
    answered_append.mpr ⟨desk, answered_append.mpr ⟨desk, asking, .cons rfl (.nil _)⟩,
      answered_append.mpr ⟨carried, answered, entering⟩⟩
  exact ⟨log, rfl, .mk returned judged (Desk.answered_met answered)⟩

/-- An entry that is added is found under no other id. -/
theorem log?_added {log : Log} {tables : Tables} {other : String} (apart : other ≠ log.id) :
    ((Change.addLog log).apply tables).log? other = tables.log? other := by
  have unlike : (log.id == other) = false := beq_false_of_ne (Ne.symm apart)
  simp only [Change.apply, Tables.log?, List.find?_append, List.find?_cons, unlike, List.find?_nil,
    Option.or_none]

/-- The user is suspended, as the clock shows it. -/
def suspending (desk : Desk) (expiresAt : Option Moment) : Transcript :=
  [⟨.tables, desk.tables⟩, ⟨.clock, some .epoch⟩,
    ⟨.write (.cooldown (Store.suspend desk.tables .epoch "" 8 expiresAt)), .ok ()⟩]

def suspended (desk : Desk) (expiresAt : Option Moment) : Desk :=
  { desk with
    pending := desk.pending ++ [.cooldown (Store.suspend desk.tables .epoch "" 8 expiresAt)] }

theorem suspending_answered (desk : Desk) (expiresAt : Option Moment) :
    desk.Answered (suspending desk expiresAt) (suspended desk expiresAt) :=
  .cons ⟨rfl, rfl⟩ (.cons rfl (.cons ⟨rfl, rfl⟩ (.nil _)))

theorem suspended_tables (desk : Desk) (expiresAt : Option Moment) :
    (suspended desk expiresAt).tables =
      (Change.cooldown (Store.suspend desk.tables .epoch "" 8 expiresAt)).apply desk.tables :=
  desk.tables_write _

theorem joining_mutes (deployment : Deployment) {desk : Desk} (idle : desk.pending = []) {id : String}
    (new : desk.committed.log? id = none) :
    ∃ after, (⟨joining .mute, .included⟩ : Proceeding).Leads deployment desk after ∧
      after.pending = [] ∧
      ∀ other, other ≠ id → desk.committed.log? other = none → after.committed.log? other = none := by
  have runs : Runs (carryOut deployment (joining .mute) .mute) (suspending desk none) (.ok ()) :=
    .ask _ (.ask _ (.ask _ (.done _)))
  have logs (other : String) : (suspended desk none).tables.log? other = desk.committed.log? other := by
    rw [suspended_tables, Desk.tables_idle idle]
    rfl
  obtain ⟨log, rfl, leads⟩ := joining_leads deployment id runs
    (suspending_answered desk none) ((logs id).trans new)
  exact ⟨_, leads, rfl, fun other apart none_ => (log?_added apart).trans ((logs other).trans none_)⟩

/-- The user is muted no more than until then, whatever was stored. -/
theorem joining_cools (deployment : Deployment) {desk : Desk} (idle : desk.pending = []) {id : String}
    (new : desk.committed.log? id = none) {hours : Binary64} {expiresAt : Moment}
    (ends : hoursFrom .epoch (.real hours) = .ok expiresAt) :
    ∃ after, (⟨joining (.cooldown hours), .included⟩ : Proceeding).Leads deployment desk after ∧
      ¬ after.committed.IsMuted "" 8 := by
  have runs : Runs (carryOut deployment (joining (.cooldown hours)) (.cooldown hours))
      ([⟨.clock, some .epoch⟩] ++ suspending desk (some expiresAt)) (.ok ()) :=
    runs_bind.mpr (.inr ⟨_, .epoch, _, rfl, .ask _ (.done _),
      runs_bind.mpr (.inr ⟨[], expiresAt, _, rfl, runs_ofExcept.mpr ⟨ends.symm, rfl⟩,
        .ask _ (.ask _ (.ask _ (.done _)))⟩)⟩)
  have tables := suspended_tables desk (some expiresAt)
  rw [Desk.tables_idle idle] at tables
  have new : (suspended desk (some expiresAt)).tables.log? id = none := by
    rw [tables]
    exact new
  obtain ⟨log, -, leads⟩ := joining_leads deployment id runs
    (.cons rfl (suspending_answered desk (some expiresAt))) new
  refine ⟨_, leads, ?_⟩
  rintro ⟨row, stored, -, endless⟩
  have cooldowns : ((suspended desk (some expiresAt)).kept (.addLog log)).committed.cooldowns =
      (suspended desk (some expiresAt)).tables.cooldowns := rfl
  rw [Store.Tables.cooldown?_of_cooldowns cooldowns, tables, Store.cooldown?_written,
    if_pos ⟨rfl, rfl⟩] at stored
  cases stored
  cases endless

/-- One hour. -/
def oneHour : Binary64 := .finite false 4503599627370496 (-52)

end Joining

/-! ## How long a mute lasts -/

/-- A ban or a mute stands until an action ends it, of the same run or of a later one about
the same user in the same channel, or slow mode begins in the same run. Runs about a
request to join do not end it by themselves, and no later run comes to slow mode. -/
theorem mute_stands (idle : start.pending = []) {earlier later : List Proceeding}
    (ran : Proceedings deployment start (earlier ++ proceeding :: later) desk)
    {done rest : List Action} {action : Action} (executed : proceeding.executed = done ++ action :: rest)
    (mutes : action = .ban ∨ action = .mute) (spares : ∀ action ∈ rest, action.endsMute = false)
    (unslowed : proceeding.slows = false)
    (lasts : ∀ other ∈ later, other.case.IsAbout proceeding.case.channel.id proceeding.case.user.fid →
      ∀ action ∈ other.executed, action.endsMute = false) :
    desk.committed.IsMuted proceeding.case.channel.id proceeding.case.user.fid ∧
      ∀ other ∈ later, other.case.IsAbout proceeding.case.channel.id proceeding.case.user.fid →
        other.slows = false := by
  have mutes : action.mutes = true := by
    rcases mutes with rfl | rfl
    · rfl
    · rfl
  generalize shape : earlier ++ proceeding :: later = all at ran
  -- The last run is the one that mutes, or one after it.
  induction ran generalizing later with
  | start => cases List.append_ne_nil_of_right_ne_nil earlier (List.cons_ne_nil proceeding later) shape
  | @next _ last _ _ ran leads ih =>
    rcases List.eq_nil_or_concat later with rfl | ⟨later, other, rfl⟩
    · obtain ⟨-, same⟩ := List.append_inj' shape rfl
      cases same
      exact ⟨leads.mutes (ran.idle idle) executed mutes spares unslowed, List.forall_mem_nil _⟩
    · rw [List.concat_eq_append] at shape lasts ⊢
      rw [← List.cons_append, ← List.append_assoc] at shape
      obtain ⟨front, same⟩ := List.append_inj' shape rfl
      obtain rfl : other = last := List.singleton_inj.mp same
      obtain ⟨muted, unslowed⟩ := ih (fun other listed => lasts other (List.mem_append_left _ listed)) front
      obtain ⟨muted, slows⟩ := leads.muted (ran.idle idle)
        (lasts other (List.mem_append_right _ (List.mem_singleton_self _))) muted
      refine ⟨muted, fun some_ listed => ?_⟩
      rcases List.mem_append.mp listed with among | last
      · exact unslowed some_ among
      · rw [List.mem_singleton.mp last]
        exact slows
  | between _ _ same ih =>
    obtain ⟨muted, unslowed⟩ := ih lasts shape
    exact ⟨muted.of_cooldowns same, unslowed⟩

/-- A user who was muted asks to join once more, is liked, and stays muted. -/
theorem liked_user_stays_muted :
    let deployment : Deployment := ⟨default, ⟨[], .nil⟩, false, 60, 1⟩
    let mutes : Proceeding := ⟨joining .mute, .included⟩
    let likes : Proceeding := ⟨joining .like, .included⟩
    mutes.executed = [.mute] ∧ likes.executed = [.like] ∧
      ∃ desk, Proceedings deployment ⟨{}, [], {}, 0⟩ [mutes, likes] desk ∧
        desk.committed.IsMuted "" 8 ∧ likes.slows = false := by
  intro deployment mutes likes
  obtain ⟨between, muting, idle, entries⟩ := @joining_mutes deployment ⟨{}, [], {}, 0⟩ rfl "1" rfl
  have new : between.tables.log? "2" = none := by
    rw [Desk.tables_idle idle]
    exact entries "2" (by decide) rfl
  have runs : Runs (carryOut deployment (joining .like) .like) [] (.ok ()) := .done ()
  obtain ⟨log, -, liking⟩ := joining_leads deployment "2" runs (.nil between) new
  have ran : Proceedings deployment ⟨{}, [], {}, 0⟩ [mutes, likes] _ := .next (.next .start muting) liking
  have spares : ∀ other ∈ [likes], ∀ action ∈ other.executed, action.endsMute = false := by decide
  obtain ⟨muted, slows⟩ := @mute_stands _ mutes ⟨{}, [], {}, 0⟩ _ rfl [] [likes] ran [] [] .mute rfl
    (.inr rfl) (List.forall_mem_nil _) rfl fun other listed _ => spares other listed
  exact ⟨rfl, rfl, _, ran, muted, slows likes (List.mem_singleton_self _) ⟨rfl, rfl⟩⟩

/-- A mute for good becomes one for an hour when the user asks to join again, though
nothing has lifted it. -/
theorem cooldown_ends_mute :
    let deployment : Deployment := ⟨default, ⟨[], .nil⟩, false, 60, 1⟩
    let mutes : Proceeding := ⟨joining .mute, .included⟩
    let cools : Proceeding := ⟨joining (.cooldown oneHour), .included⟩
    mutes.executed = [.mute] ∧
      (∀ proceeding ∈ [mutes, cools], ∀ action ∈ proceeding.executed,
        action ≠ .cooldownEnded ∧ action ≠ .unmuted) ∧
      ∃ desk, Proceedings deployment ⟨{}, [], {}, 0⟩ [mutes, cools] desk ∧
        ¬ desk.committed.IsMuted "" 8 := by
  intro deployment mutes cools
  obtain ⟨between, muting, idle, entries⟩ := @joining_mutes deployment ⟨{}, [], {}, 0⟩ rfl "1" rfl
  have computed : (hoursFrom .epoch (.real oneHour)).toOption.isSome = true := by decide +kernel
  cases ends : hoursFrom .epoch (.real oneHour) with
  | error failure =>
    rw [ends] at computed
    cases computed
  | ok expiresAt =>
    obtain ⟨after, cooling, unmuted⟩ :=
      joining_cools deployment idle (entries "2" (by decide) rfl) ends
    exact ⟨rfl, by decide, after, .next (.next .start muting) cooling, unmuted⟩

end Intake

end Curation
