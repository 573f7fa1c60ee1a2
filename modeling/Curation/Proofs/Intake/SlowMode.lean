import Curation.Proofs.Intake.Mutes

/-! How often slow mode lets the casts of one user through. An inclusion leaves a suspension
that ends some hours later. Until then the casts of the user are hidden before any rule is
asked, and hiding writes no suspension; runs about others write rows of their own. So the
suspension stands for all these hours, whatever the other runs do. -/
namespace Curation

/-- A user is suspended in a channel until some time. -/
def Store.Tables.IsSlowedUntil (tables : Tables) (channel : String) (fid : Int) (expiresAt : Moment) : Prop :=
  ∃ row, tables.cooldown? channel (toString fid) = some row ∧ row.active = true ∧
    row.expiresAt = some expiresAt.stored

theorem Store.Tables.IsSlowedUntil.of_cooldown {tables other : Tables} {channel : String} {fid : Int}
    {expiresAt : Moment} (slowed : tables.IsSlowedUntil channel fid expiresAt)
    (same : other.cooldown? channel (toString fid) = tables.cooldown? channel (toString fid)) :
    other.IsSlowedUntil channel fid expiresAt := by
  unfold IsSlowedUntil
  rw [same]
  exact slowed

namespace Moderation

open Program (Runs answered_append)
open Store (CooldownRow Session Tables)

variable {deployment : Deployment} {case : Case} {grounds : Grounds} {gate : Gate}
  {actions : List Action} {logs : List Log} {seen transcript : Transcript} {before after : Session}
  {channel : String} {fid : Int} {time expiresAt : Moment}

/-! ## Reading the clock -/

theorem hoursFrom_whole {hours : Int} (ends : hoursFrom time (.whole hours) = .ok expiresAt) :
    expiresAt.utcMicros = time.utcMicros + hours * Span.microsPerHour ∧ expiresAt.offset = time.offset := by
  refine ⟨?_, later_offset ends⟩
  simp only [hoursFrom, later, Span.ofHours, Span.ofUnits, Span.bounded] at ends
  split at ends
  · cases ends
  · rename_i micros length
    split at length
    · cases length
    cases length
    split at ends
    · rename_i found
      cases ends
      simp only [Moment.later?] at found
      split at found
      · cases found
        simp only [Moment.utcMicros]
        omega
      · cases found
    · cases ends

theorem clockReadings_append (first second : Transcript) :
    clockReadings (first ++ second) = clockReadings first ++ clockReadings second :=
  List.filterMap_append

theorem mem_clockReadings {shown : Option Moment} (read : ⟨.clock, shown⟩ ∈ transcript) :
    shown ∈ clockReadings transcript :=
  List.mem_filterMap.mpr ⟨_, read, rfl⟩

/-! ## While slow mode lasts -/

/-- Before slow mode is over, a cast does not get past the gate for suspensions. -/
theorem slowed_stops (judged : Runs (judge deployment case) seen (.ok (gate, grounds)))
    (served : Served before seen after) (cast : case.cast.isSome = true)
    (slowed : before.working.IsSlowedUntil case.channel.id case.user.fid expiresAt)
    (utc : expiresAt.offset = some 0) (clock : ReadsClockAt time seen)
    (early : time.utcMicros < expiresAt.utcMicros) : gate = .exempt ∨ gate = .suspended := by
  obtain ⟨row, stored, active, ends⟩ := slowed
  have kept {seen' : Transcript} (free : Free case seen') (part : seen' ⊆ seen) : False := by
    cases free with
    | noCast none_ =>
      rw [none_] at cast
      cases cast
    | @author tables shown _ free =>
      have same : tables.cooldowns = before.working.cooldowns :=
        judge_reads judged served (part (.head _))
      cases clock _ (mem_clockReadings (part (.tail _ (.head _))))
      rw [← Tables.cooldown?_of_cooldowns same] at stored
      refine free row stored ⟨active, fun other known => ?_⟩
      rw [ends] at known
      cases known
      rw [stored_asUtc utc]
      exact early
  cases judge_stops judged with
  | exempt => exact .inl rfl
  | suspended => exact .inr rfl
  | noRules _ free => exact (kept free (by simp)).elim
  | excluded _ free => exact (kept free (by simp)).elim
  | rejected _ free => exact (kept free (by simp)).elim
  | included _ free => exact (kept free (by simp)).elim

/-- Actions that rule nothing about a user leave the suspension of that user. -/
theorem KeepsAll.cooldown? {before after : Tables}
    (kept : KeepsAll deployment case grounds actions logs before transcript after)
    (spares : case.IsAbout channel fid → ∀ action ∈ actions, action.ruling? = none) :
    after.cooldown? channel (toString fid) = before.cooldown? channel (toString fid) := by
  induction kept with
  | nil => rfl
  | cons first _ ih =>
    rw [ih fun about action listed => spares about action (.tail _ listed)]
    refine first.rules.others _ _ ?_
    by_cases about : case.IsAbout channel fid
    · exact .inl (spares about _ (.head _))
    · exact .inr fun same => about ⟨same.1.symm, (Text.toString_inj same.2).symm⟩

/-- A run that rules nothing about a user leaves the suspension of that user. -/
theorem Succeeds.cooldown? (succeeds : Succeeds deployment case gate grounds logs before after transcript)
    (clean : before.working.cooldowns = before.committed.cooldowns)
    (spares : case.IsAbout channel fid →
      (∀ action ∈ gate.actions case, action.ruling? = none) ∧ case.slows gate = false) :
    after.committed.cooldown? channel (toString fid) = before.committed.cooldown? channel (toString fid) := by
  cases succeeds with
  | @mk _ slowing middle kept slowed answered =>
    -- What slow mode begins with: its tables are committed, but for log entries cleared before.
    have begun : ∃ between : Session, Answered between slowing after ∧
        between.committed.cooldown? channel (toString fid) =
          before.committed.cooldown? channel (toString fid) ∧
        between.working.cooldowns = between.committed.cooldowns := by
      refine ⟨_, answered, ?_⟩
      split
      · exact ⟨rfl, clean⟩
      · refine ⟨?_, rfl⟩
        rw [← Tables.cooldown?_of_cooldowns clean]
        exact kept.cooldown? fun about => (spares about).1
    obtain ⟨between, answered, same, clean⟩ := begun
    rw [← same]
    exact slowDown_cooldown? slowed answered (fun about => (spares about).2) clean

/-- Slow mode begins at a time that the clock has shown, and lasts for its hours. -/
theorem Succeeds.begins (succeeds : Succeeds deployment case gate grounds logs before after transcript)
    (slows : case.slows gate = true) :
    ∃ began expiresAt : Moment, some began ∈ clockReadings transcript ∧
      hoursFrom began (.whole case.channel.slowModeHours) = .ok expiresAt ∧
      after.committed.IsSlowedUntil case.channel.id case.user.fid expiresAt := by
  cases succeeds with
  | @mk _ slowing _ _ slowed answered =>
    rw [slowDown, if_pos slows] at slowed
    obtain ⟨rules, committed⟩ := startSlowMode_rules slowed answered
    rw [committed]
    obtain ⟨row, stored, began, expiresAt, read, ends, active, expires⟩ :
        ∃ row, case.suspension? after.working = some row ∧ ∃ began expiresAt,
          ⟨.clock, some began⟩ ∈ slowing ∧
          hoursFrom began (.whole case.channel.slowModeHours) = .ok expiresAt ∧ row.active = true ∧
          row.expiresAt = some expiresAt.stored := by
      have obeys := rules.own _ rfl
      generalize case.suspension? after.working = row? at obeys
      cases obeys with
      | timed read ends active expires => exact ⟨_, rfl, _, _, read, ends, active, expires⟩
    refine ⟨began, expiresAt, ?_, ends, row, stored, active, expires⟩
    rw [clockReadings_append]
    exact List.mem_append_right _ (mem_clockReadings read)

end Moderation

/-! ## Runs one after another -/

namespace Intake

open Moderation
open Program (Runs runs_bind runs_ofExcept runs_recover answered_append)
open Store (Change CooldownRow Session Tables)

/-- Moderation of a case that has returned, with the gate that has stopped it. -/
structure Passage where
  case : Case
  gate : Gate
  logs : List Log
  /-- When the case was judged. -/
  judgedAt : Moment
  /-- When its run was at its end. -/
  endedAt : Moment

variable {deployment : Deployment} {passage : Passage} {before after start desk : Desk}
  {channel : String} {fid : Int} {expiresAt : Moment}

namespace Passage

/-- The clock shows a time in UTC between the judgement and the end of the run. -/
def Spans (passage : Passage) (time : Moment) : Prop :=
  time.offset = some 0 ∧ passage.judgedAt.utcMicros ≤ time.utcMicros ∧
    time.utcMicros ≤ passage.endedAt.utcMicros

/-- Moderation of the case leads from one desk to another. -/
inductive Leads (deployment : Deployment) (passage : Passage) (before : Desk) : Desk → Prop
  | mk {after : Desk} {seen acting : Transcript} {grounds : Grounds} :
    Runs (moderate deployment passage.case) (seen ++ acting) (.ok passage.logs) →
    Runs (judge deployment passage.case) seen (.ok (passage.gate, grounds)) →
    before.Met deployment (seen ++ acting) after →
    ReadsClockAt passage.judgedAt seen →
    (∀ shown ∈ clockReadings acting, ∃ time, shown = some time ∧ passage.Spans time) →
    passage.judgedAt.utcMicros ≤ passage.endedAt.utcMicros →
    Leads deployment passage before after.undone

/-- The cast is hidden and nothing else is done. -/
def IsHidden (passage : Passage) : Prop :=
  passage.gate.actions passage.case = [.hideQuietly] ∧
    ∃ grounds log, passage.logs = [log] ∧ Enters passage.case grounds .hideQuietly log

namespace Leads

theorem idle (leads : passage.Leads deployment before after) : after.pending = [] := by
  cases leads
  rfl

theorem ordered (leads : passage.Leads deployment before after) :
    passage.judgedAt.utcMicros ≤ passage.endedAt.utcMicros := by
  cases leads with
  | mk _ _ _ _ _ ordered => exact ordered

/-- A suspended author has the cast hidden. -/
theorem hidden (leads : passage.Leads deployment before after) (suspended : passage.gate = .suspended) :
    passage.IsHidden := by
  have actions : passage.gate.actions passage.case = [.hideQuietly] := by rw [suspended]; rfl
  refine ⟨actions, ?_⟩
  cases leads with
  | mk run judged =>
    rw [moderate_eq] at run
    have enacted : Runs (enact deployment passage.case passage.gate _) _ _ := run.after judged
    rw [enact_eq_slowDown] at enacted
    obtain ⟨_, _, _, rfl, acted, ended⟩ := Program.runs_bind_ok.mp enacted
    obtain ⟨_, _, _, rfl, _, returned⟩ := Program.runs_bind_ok.mp ended
    cases returned
    rw [actions] at acted
    have entered := runActions_enters acted
    generalize passage.logs = logs at entered
    cases entered with
    | cons first rest =>
      cases rest
      exact ⟨_, _, rfl, first⟩

/-- A run leaves the suspensions of all that it does not rule about. -/
theorem cooldown? (leads : passage.Leads deployment before after) (idle : before.pending = [])
    (spares : passage.case.IsAbout channel fid →
      (∀ action ∈ passage.gate.actions passage.case, action.ruling? = none) ∧
        passage.case.slows passage.gate = false) :
    after.committed.cooldown? channel (toString fid) =
      before.committed.cooldown? channel (toString fid) := by
  cases leads with
  | mk run judged met =>
    cases simulated : passage.case.simulation with
    | true =>
      have same := congrArg Session.committed (moderate_simulated simulated run (Desk.met_served met))
      exact congrArg (·.cooldown? channel (toString fid)) same
    | false =>
      obtain ⟨checked, served, succeeds⟩ := Desk.met_succeeds idle simulated run judged met
      have checks := judge_served judged served
      have kept := succeeds.cooldown? checks.clean_cooldowns spares
      rw [checks.committed] at kept
      exact kept

/-- While slow mode lasts, a cast of the user is stopped and slow mode stays as it is. -/
theorem slowed (leads : passage.Leads deployment before after) (idle : before.pending = [])
    (slowed : before.committed.IsSlowedUntil channel fid expiresAt) (utc : expiresAt.offset = some 0)
    (cast : passage.case.IsAbout channel fid → passage.case.cast.isSome = true)
    (early : passage.case.IsAbout channel fid → passage.judgedAt.utcMicros < expiresAt.utcMicros) :
    after.committed.IsSlowedUntil channel fid expiresAt ∧
      (passage.case.IsAbout channel fid → passage.gate = .exempt ∨ passage.gate = .suspended) := by
  have stops (about : passage.case.IsAbout channel fid) :
      passage.gate = .exempt ∨ passage.gate = .suspended := by
    obtain ⟨rfl, rfl⟩ := about
    cases leads with
    | mk run judged met clock =>
      have served := Desk.met_served met
      rw [Desk.session, Desk.tables_idle idle] at served
      obtain ⟨checked, for_seen, -⟩ := answered_append.mp served
      exact slowed_stops judged for_seen (cast ⟨rfl, rfl⟩) slowed utc clock (early ⟨rfl, rfl⟩)
  refine ⟨slowed.of_cooldown (leads.cooldown? idle fun about => ?_), stops⟩
  rcases stops about with exempt | suspended
  · rw [exempt]
    exact ⟨by simp [Gate.actions, Action.ruling?], rfl⟩
  · rw [suspended]
    exact ⟨by simp [Gate.actions, Action.ruling?], rfl⟩

/-- An inclusion begins slow mode. -/
theorem begins (leads : passage.Leads deployment before after) (idle : before.pending = [])
    (real : passage.case.simulation = false) (slows : passage.case.slows passage.gate = true) :
    ∃ began expiresAt : Moment, passage.Spans began ∧ expiresAt.offset = some 0 ∧
      expiresAt.utcMicros = began.utcMicros + passage.case.channel.slowModeHours * Span.microsPerHour ∧
      after.committed.IsSlowedUntil passage.case.channel.id passage.case.user.fid expiresAt := by
  cases leads with
  | mk run judged met _ shows =>
    obtain ⟨_, _, succeeds⟩ := Desk.met_succeeds idle real run judged met
    obtain ⟨began, expiresAt, read, ends, slowed⟩ := succeeds.begins slows
    obtain ⟨_, same, spans⟩ := shows _ read
    cases same
    obtain ⟨length, offset⟩ := hoursFrom_whole ends
    exact ⟨began, expiresAt, spans, offset.trans spans.1, length, slowed⟩

end Leads

end Passage

/-- Runs of moderation that have returned, one after another, while time goes on. In between
there is whatever leaves the suspensions as they are. -/
inductive Passages (deployment : Deployment) (start : Desk) : List Passage → Desk → Prop
  | start : Passages deployment start [] start
  | next {passages : List Passage} {passage : Passage} {before after : Desk} :
    Passages deployment start passages before →
    (∀ earlier ∈ passages, earlier.endedAt.utcMicros ≤ passage.judgedAt.utcMicros) →
    passage.Leads deployment before after →
    Passages deployment start (passages ++ [passage]) after
  | between {passages : List Passage} {before after : Desk} :
    Passages deployment start passages before → after.pending = [] →
    after.committed.cooldowns = before.committed.cooldowns →
    Passages deployment start passages after

theorem Passages.idle {passages : List Passage} (ran : Passages deployment start passages desk)
    (idle : start.pending = []) : desk.pending = [] := by
  cases ran with
  | start => exact idle
  | next _ _ leads => exact leads.idle
  | between _ idle _ => exact idle

theorem Passages.ordered {passages : List Passage} (ran : Passages deployment start passages desk) :
    ∀ passage ∈ passages, passage.judgedAt.utcMicros ≤ passage.endedAt.utcMicros := by
  induction ran with
  | start => exact List.forall_mem_nil _
  | next _ _ leads ih => exact List.forall_mem_append.mpr ⟨ih, List.forall_mem_singleton.mpr leads.ordered⟩
  | between _ _ _ ih => exact ih

/-- After slow mode has begun for a user, it stands until its end, and all casts of the user
that were judged before are hidden. -/
structure Limited (channel : String) (fid : Int) (expiresAt : Moment) (later : List Passage) (desk : Desk) :
    Prop where
  stands : desk.committed.IsSlowedUntil channel fid expiresAt ∨
    ∃ passage ∈ later, expiresAt.utcMicros ≤ passage.judgedAt.utcMicros
  hidden : ∀ passage ∈ later, passage.case.IsAbout channel fid →
    passage.judgedAt.utcMicros < expiresAt.utcMicros → passage.gate = .suspended ∧ passage.IsHidden

/-- One more run leaves the limit as it was. -/
theorem Limited.next {later : List Passage} (limited : Limited channel fid expiresAt later before)
    (leads : passage.Leads deployment before after) (idle : before.pending = [])
    (utc : expiresAt.offset = some 0)
    (goes : ∀ earlier ∈ later, earlier.judgedAt.utcMicros ≤ passage.judgedAt.utcMicros)
    (ordinary : passage.case.IsAbout channel fid →
      passage.case.cast.isSome = true ∧ passage.gate ≠ .exempt) :
    Limited channel fid expiresAt (later ++ [passage]) after := by
  by_cases early : passage.judgedAt.utcMicros < expiresAt.utcMicros
  · have slowed : before.committed.IsSlowedUntil channel fid expiresAt := by
      refine limited.stands.resolve_right fun ⟨other, listed, past⟩ => ?_
      have := goes other listed
      omega
    obtain ⟨slowed, stops⟩ := leads.slowed idle slowed utc (fun about => (ordinary about).1) fun _ => early
    refine ⟨.inl slowed, fun some_ listed about unexpired => ?_⟩
    rcases List.mem_append.mp listed with among | last
    · exact limited.hidden some_ among about unexpired
    · obtain rfl := List.mem_singleton.mp last
      have suspended := (stops about).resolve_left (ordinary about).2
      exact ⟨suspended, leads.hidden suspended⟩
  · refine ⟨.inr ⟨passage, by simp, by omega⟩, fun some_ listed about unexpired => ?_⟩
    rcases List.mem_append.mp listed with among | last
    · exact limited.hidden some_ among about unexpired
    · obtain rfl := List.mem_singleton.mp last
      exact absurd unexpired early

/-- Slow mode limits how often a user is let through. Once a cast of a user was included in
a channel with slow mode, no other cast of the user is included before its hours are over,
and all that are judged before are hidden, each with its one entry. Runs about others, and
what they do, make no difference. -/
theorem slow_mode_limits (idle : start.pending = []) {earlier later : List Passage}
    (ran : Passages deployment start (earlier ++ passage :: later) desk)
    (included : passage.gate = .included) (cast : passage.case.cast.isSome = true)
    (real : passage.case.simulation = false) (slow : 0 < passage.case.channel.slowModeHours)
    (ordinary : ∀ other ∈ later, other.case.IsAbout passage.case.channel.id passage.case.user.fid →
      other.case.cast.isSome = true ∧ other.gate ≠ .exempt) :
    ∃ began : Moment, passage.Spans began ∧
      ∀ other ∈ later, other.case.IsAbout passage.case.channel.id passage.case.user.fid →
        (other.gate = .included →
          began.utcMicros + passage.case.channel.slowModeHours * Span.microsPerHour ≤
            other.judgedAt.utcMicros) ∧
        (other.judgedAt.utcMicros <
            began.utcMicros + passage.case.channel.slowModeHours * Span.microsPerHour →
          other.IsHidden) := by
  have slows : passage.case.slows passage.gate = true := by
    simp [Case.slows, included, cast, real, slow]
  suffices limit : ∃ began expiresAt : Moment, passage.Spans began ∧ expiresAt.offset = some 0 ∧
      expiresAt.utcMicros = began.utcMicros + passage.case.channel.slowModeHours * Span.microsPerHour ∧
      Limited passage.case.channel.id passage.case.user.fid expiresAt later desk by
    obtain ⟨began, expiresAt, spans, -, length, limited⟩ := limit
    refine ⟨began, spans, fun other listed about => ⟨fun admitted => ?_, fun early => ?_⟩⟩
    · by_contra early
      have suspended := (limited.hidden other listed about (by omega)).1
      rw [admitted] at suspended
      cases suspended
    · exact (limited.hidden other listed about (by omega)).2
  generalize shape : earlier ++ passage :: later = all at ran
  -- The last run is the one that begins slow mode, or one after it.
  induction ran generalizing later with
  | start => cases List.append_ne_nil_of_right_ne_nil earlier (List.cons_ne_nil passage later) shape
  | @next _ last _ _ ran goes leads ih =>
    rcases List.eq_nil_or_concat later with rfl | ⟨later, other, rfl⟩
    · obtain ⟨-, same⟩ := List.append_inj' shape rfl
      cases same
      obtain ⟨began, expiresAt, spans, utc, length, slowed⟩ := leads.begins (ran.idle idle) real slows
      exact ⟨began, expiresAt, spans, utc, length, .inl slowed, fun other listed => by cases listed⟩
    · rw [List.concat_eq_append] at shape ordinary ⊢
      rw [← List.cons_append, ← List.append_assoc] at shape
      obtain ⟨front, same⟩ := List.append_inj' shape rfl
      obtain rfl : other = last := List.singleton_inj.mp same
      obtain ⟨began, expiresAt, spans, utc, length, limited⟩ :=
        ih (fun other listed => ordinary other (List.mem_append_left _ listed)) front
      refine ⟨began, expiresAt, spans, utc, length, limited.next leads (ran.idle idle) utc ?_ ?_⟩
      · intro some_ listed
        have among : some_ ∈ earlier ++ passage :: later := by simp [listed]
        rw [front] at among
        exact (ran.ordered some_ among).trans (goes some_ among)
      · exact ordinary other (by simp)
  | between _ _ same ih =>
    obtain ⟨began, expiresAt, spans, utc, length, limited⟩ := ih ordinary shape
    refine ⟨began, expiresAt, spans, utc, length, ?_, limited.hidden⟩
    exact limited.stands.imp_left fun slowed => slowed.of_cooldown (Tables.cooldown?_of_cooldowns same ..)

/-! ## Casts of one user -/

section Posting

/-- A channel of user 7 that includes every cast, one in an hour. -/
def slowChannel : Channel := { openChannel .like with slowModeHours := 1 }

/-- Another user posts a cast in it. -/
def posting : Case :=
  let ann : User := ⟨8, "ann", none, none, none, [], 0, 0, false, none, none⟩
  ⟨slowChannel, ann, some { (default : Cast) with author := ann }, false⟩

/-- So many microseconds after the start. -/
def afterEpoch (micros : Int) : Moment := ⟨Moment.epoch.micros + micros, some 0⟩

/-- Calls of the network do not read the clock. -/
theorem clockReadings_ofFetch {α : Type} {call : Remote.Fetch α} {outcome : Except Failure α}
    {transcript : Transcript} (run : Runs (ofFetch call) transcript outcome) :
    clockReadings transcript = [] := by
  induction call generalizing transcript with
  | done | failed =>
    cases run
    rfl
  | ask question next ih =>
    cases run with
    | ask answer run =>
      have rest := ih answer run
      exact rest

section Runs

variable {id : String} {time : Moment}

/-- What is looked up at the gate for suspensions. -/
def looked (desk : Desk) (time : Moment) : Transcript :=
  [⟨.tables, desk.committed⟩, ⟨.clock, some time⟩]

/-- The cast comes to the gate for suspensions, and the tables and the clock tell what is
found there. -/
theorem posting_asks (deployment : Deployment) (idle : desk.pending = []) (time : Moment) :
    ∃ seen, Runs (bypassReason? deployment posting) seen (.ok none) ∧
      Runs (keptAwayReason? posting) (looked desk time)
        (.ok (suspensionReason? "ann" time (posting.suspension? desk.committed))) ∧
      desk.Answered (seen ++ looked desk time) desk ∧ ReadsClockAt time (seen ++ looked desk time) := by
  obtain ⟨_, owner⟩ := owner_runs deployment.directory posting.channel.id read_ownerText
  obtain ⟨asked, owner, asking⟩ := ofFetch_runs owner desk
  refine ⟨asked, ?_, .ask _ (.ask _ (.done _)), answered_append.mpr ⟨desk, asking, ?_⟩, ?_⟩
  · exact runs_bind.mpr (.inr ⟨asked, _, [], (List.append_nil _).symm, owner, .done _⟩)
  · exact .cons ⟨(Desk.tables_idle idle).symm, rfl⟩ (.cons rfl (.nil _))
  · rw [ReadsClockAt, clockReadings_append, clockReadings_ofFetch owner]
    exact fun shown => List.mem_singleton.mp

/-- The entry for an action on the cast. -/
def postingLog (grounds : Grounds) (action : Action) (id : String) (time : Moment) : Log :=
  entry posting grounds action.name id time.stored

/-- The desk with one more entry in the log. -/
def entered (desk : Desk) (log : Log) : Desk :=
  { desk with committed := (Change.addLog log).apply desk.committed, pending := [] }

/-- The actions of an included and of a hidden cast change nothing but the log where the
deployment keeps to itself. -/
theorem posting_acts (executes : deployment.executes = false) (idle : desk.pending = [])
    (new : desk.committed.log? id = none) (grounds : Grounds) {action : Action}
    (quiet : action = .like ∨ action = .hideQuietly) (time : Moment) :
    ∃ acting, Runs (runActions deployment posting grounds [action]) acting
        (.ok [postingLog grounds action id time]) ∧
      desk.Answered acting (entered desk (postingLog grounds action id time)) ∧
      clockReadings acting = [some time] := by
  let log := postingLog grounds action id time
  have carried : Runs (carryOut deployment posting action) [] (.ok ()) := by
    rcases quiet with rfl | rfl
    · exact .done ()
    · simp only [carryOut, posting, onNetwork, executes, Bool.false_eq_true, if_false]
      exact .done ()
  have performed : Runs (perform deployment posting action) [] (.ok ()) :=
    runs_recover.mpr (.inl ⟨(), rfl, carried⟩)
  let logging : Transcript :=
    [⟨.newId, id⟩, ⟨.clock, some time⟩, ⟨.write (.addLog log), .ok ()⟩, ⟨.commit, ()⟩]
  have logged : Runs (logAction posting grounds action.name) logging (.ok log) :=
    .ask _ (.ask _ (.ask _ (.ask _ (.done _))))
  have written : desk.Answers (.write (.addLog log)) (.ok ())
      { desk with pending := desk.pending ++ [.addLog log] } := by
    have allowed : (Change.addLog log).fault? desk.tables = none := by
      simp [Change.fault?, Change.integers, log, postingLog, entry, Desk.tables_idle idle, new]
    simp only [Desk.Answers, allowed]
    trivial
  refine ⟨logging, ?_, .cons rfl (.cons rfl (.cons written (.cons ?_ (.nil _)))), rfl⟩
  · exact runs_bind.mpr (.inr ⟨[], _, logging, rfl, performed,
      runs_bind.mpr (.inr ⟨logging, _, [], (List.append_nil _).symm, logged, .done _⟩)⟩)
  · simp only [Desk.Answers, Desk.tables_write, Desk.tables_idle idle]
    rfl

/-- While slow mode lasts, the cast is hidden. -/
theorem posting_hidden (executes : deployment.executes = false) (idle : desk.pending = [])
    (new : desk.committed.log? id = none) (utc : time.offset = some 0) {reason : String}
    (suspended : suspensionReason? "ann" time (posting.suspension? desk.committed) = some reason) :
    let log := postingLog ⟨reason, none⟩ .hideQuietly id time
    (⟨posting, .suspended, [log], time, time⟩ : Passage).Leads deployment desk (entered desk log) := by
  intro log
  obtain ⟨seen, ordinary, kept, asking, clock⟩ := posting_asks deployment idle time
  rw [suspended] at kept
  obtain ⟨acting, acted, entering, shown⟩ := posting_acts executes idle new ⟨reason, none⟩ (.inr rfl) time
  have judged : Runs (judge deployment posting) (seen ++ looked desk time)
      (.ok (.suspended, ⟨reason, none⟩)) :=
    runs_bind.mpr (.inr ⟨seen, _, _, rfl, ordinary,
      runs_bind.mpr (.inr ⟨_, _, [], (List.append_nil _).symm, kept, .done _⟩)⟩)
  have returned : Runs (moderate deployment posting) ((seen ++ looked desk time) ++ acting) (.ok [log]) := by
    rw [moderate_eq]
    refine runs_bind.mpr (.inr ⟨_, _, _, rfl, judged, ?_⟩)
    exact runs_bind.mpr (.inr ⟨_, _, [], (List.append_nil _).symm, acted, .done _⟩)
  have answered : desk.Answered ((seen ++ looked desk time) ++ acting) (entered desk log) :=
    answered_append.mpr ⟨desk, asking, entering⟩
  refine .mk returned judged (Desk.answered_met answered) clock ?_ (Int.le_refl _)
  rw [shown]
  exact List.forall_mem_singleton.mpr ⟨time, rfl, utc, Int.le_refl _, Int.le_refl _⟩

/-- The desk after slow mode has begun for the author of the cast. -/
def slowedUntil (desk : Desk) (time expiresAt : Moment) : Desk :=
  let row := Store.suspend desk.committed time "" 8 (some expiresAt)
  { desk with committed := (Change.cooldown row).apply desk.committed, pending := [] }

/-- Where no suspension counts, the cast is included, and slow mode begins. -/
theorem posting_included (executes : deployment.executes = false) (idle : desk.pending = [])
    (new : desk.committed.log? id = none) (utc : time.offset = some 0)
    (free : suspensionReason? "ann" time (posting.suspension? desk.committed) = none) {expiresAt : Moment}
    (ends : hoursFrom time (.whole 1) = .ok expiresAt) :
    let grounds : Grounds := ⟨"Everything included by default", some slowChannel.inclusion.rule⟩
    let log := postingLog grounds .like id time
    (⟨posting, .included, [log], time, time⟩ : Passage).Leads deployment desk
      (slowedUntil (entered desk log) time expiresAt) := by
  intro grounds log
  let decision : Decision := ⟨true, grounds.reason, slowChannel.inclusion.rule⟩
  let evaluated : Transcript := [⟨.evaluate posting slowChannel.inclusion.rule .concurrent, .ok decision⟩]
  let logged := entered desk log
  let row := Store.suspend logged.committed time "" 8 (some expiresAt)
  let slowing : Transcript := [⟨.clock, some time⟩, ⟨.tables, logged.committed⟩, ⟨.clock, some time⟩,
    ⟨.write (.cooldown row), .ok ()⟩, ⟨.commit, ()⟩]
  obtain ⟨seen, ordinary, kept, asking, clock⟩ := posting_asks deployment idle time
  rw [free] at kept
  obtain ⟨acting, acted, entering, shown⟩ := posting_acts executes idle new grounds (.inl rfl) time
  have judged : Runs (judge deployment posting) ((seen ++ looked desk time) ++ evaluated)
      (.ok (.included, grounds)) := by
    rw [List.append_assoc]
    exact runs_bind.mpr (.inr ⟨seen, _, _, rfl, ordinary,
      runs_bind.mpr (.inr ⟨_, _, evaluated, rfl, kept, .ask _ (.done _)⟩)⟩)
  have slowed : Runs (startSlowMode posting) slowing (.ok ()) := by
    refine runs_bind.mpr (.inr ⟨[⟨.clock, some time⟩], time, _, rfl, .ask _ (.done _), ?_⟩)
    refine runs_bind.mpr (.inr ⟨[], expiresAt, _, rfl, runs_ofExcept.mpr ⟨ends.symm, rfl⟩, ?_⟩)
    exact .ask _ (.ask _ (.ask _ (.ask _ (.done _))))
  have returned : Runs (moderate deployment posting)
      (((seen ++ looked desk time) ++ evaluated) ++ (acting ++ slowing)) (.ok [log]) := by
    rw [moderate_eq]
    refine runs_bind.mpr (.inr ⟨_, _, _, rfl, judged, ?_⟩)
    refine runs_bind.mpr (.inr ⟨acting, _, slowing, rfl, acted, ?_⟩)
    exact runs_bind.mpr (.inr ⟨_, _, [], (List.append_nil _).symm, slowed, .done _⟩)
  have slow_answered : logged.Answered slowing (slowedUntil logged time expiresAt) :=
    .cons rfl (.cons ⟨rfl, rfl⟩ (.cons rfl (.cons ⟨rfl, rfl⟩ (.cons rfl (.nil _)))))
  have answered : desk.Answered (((seen ++ looked desk time) ++ evaluated) ++ (acting ++ slowing))
      (slowedUntil logged time expiresAt) :=
    answered_append.mpr ⟨desk, answered_append.mpr ⟨desk, asking, .cons rfl (.nil _)⟩,
      answered_append.mpr ⟨logged, entering, slow_answered⟩⟩
  refine .mk returned judged (Desk.answered_met answered) ?_ ?_ (Int.le_refl _)
  · rw [ReadsClockAt, clockReadings_append]
    exact List.forall_mem_append.mpr ⟨clock, List.forall_mem_nil _⟩
  · rw [clockReadings_append, shown]
    intro shown listed
    have same : shown = some time := by simpa [slowing, clockReadings] using listed
    exact ⟨time, same, utc, Int.le_refl _, Int.le_refl _⟩

end Runs

/-- One cast is included, another one half an hour later is hidden, and one after the whole
hour is included again. -/
theorem one_cast_an_hour :
    let deployment : Deployment := ⟨default, ⟨[], .nil⟩, false, 60, 1⟩
    let halfPast := afterEpoch 1800000000
    let hourLater := afterEpoch 3600000000
    ∃ first second third desk,
      Passages deployment ⟨{}, [], {}, 0⟩ [first, second, third] desk ∧
      (first.case = posting ∧ second.case = posting ∧ third.case = posting) ∧
      (first.judgedAt = .epoch ∧ second.judgedAt = halfPast ∧ third.judgedAt = hourLater) ∧
      (first.gate = .included ∧ second.IsHidden ∧ third.gate = .included) ∧
      ∃ began : Moment, first.Spans began ∧
        began.utcMicros + 1 * Span.microsPerHour ≤ third.judgedAt.utcMicros := by
  intro deployment halfPast hourLater
  let grounds : Grounds := ⟨"Everything included by default", some slowChannel.inclusion.rule⟩
  let start : Desk := ⟨{}, [], {}, 0⟩
  let slowed := slowedUntil (entered start (postingLog grounds .like "1" .epoch)) .epoch hourLater
  let reason := s!"@ann is in cooldown until {hourLater.isoText}"
  let hidden := entered slowed (postingLog ⟨reason, none⟩ .hideQuietly "2" halfPast)
  let first : Passage := ⟨posting, .included, [postingLog grounds .like "1" .epoch], .epoch, .epoch⟩
  let second : Passage :=
    ⟨posting, .suspended, [postingLog ⟨reason, none⟩ .hideQuietly "2" halfPast], halfPast, halfPast⟩
  let third : Passage :=
    ⟨posting, .included, [postingLog grounds .like "3" hourLater], hourLater, hourLater⟩
  have includes : first.Leads deployment start slowed := posting_included rfl rfl rfl rfl rfl rfl
  have hides : second.Leads deployment slowed hidden := posting_hidden rfl rfl rfl rfl rfl
  have again : ∃ desk, third.Leads deployment hidden desk :=
    ⟨_, @posting_included deployment hidden "3" hourLater rfl rfl rfl rfl rfl (afterEpoch 7200000000) rfl⟩
  obtain ⟨desk, again⟩ := again
  have ran : Passages deployment start [first, second, third] desk := by
    refine .next (.next (.next .start (List.forall_mem_nil _) includes) ?_ hides) ?_ again
    · exact List.forall_mem_singleton.mpr (by decide)
    · exact List.forall_mem_cons.mpr ⟨by decide, List.forall_mem_singleton.mpr (by decide)⟩
  have ordinary : ∀ other ∈ [second, third], other.case.cast.isSome = true ∧ other.gate ≠ .exempt := by
    decide
  obtain ⟨began, spans, limit⟩ := @slow_mode_limits deployment first start desk rfl []
    [second, third] ran rfl rfl rfl (by decide) fun other listed _ => ordinary other listed
  have early : halfPast.utcMicros < began.utcMicros + 1 * Span.microsPerHour :=
    Int.lt_of_lt_of_le (by decide) (Int.add_le_add_right spans.2.1 _)
  exact ⟨first, second, third, desk, ran, ⟨rfl, rfl, rfl⟩, ⟨rfl, rfl, rfl⟩,
    ⟨rfl, (limit second (.head _) ⟨rfl, rfl⟩).2 early, rfl⟩, began, spans,
    (limit third (.tail _ (.head _)) ⟨rfl, rfl⟩).1 rfl⟩

end Posting

end Intake

end Curation
