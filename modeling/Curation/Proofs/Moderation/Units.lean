import Curation.Proofs.Moderation.Answering
import Curation.Proofs.Moderation.Entries

/-! Actions as units. In the real run each action is committed with its entry before the
next one starts; one that fails takes back what it wrote, ends the run, and leaves the
store as the actions before it made it. -/
namespace Curation.Moderation

open Program (Runs runs_bind runs_question runs_recover answered_append answered_question)
open Store (Session Tables)

variable {deployment : Deployment} {case : Case} {grounds : Grounds} {action : Action}
  {before : Tables} {exchanges : Transcript}

/-- An action was carried out and logged: the store now holds what it wrote, and behind
the entries that there were its own. -/
inductive Keeps (deployment : Deployment) (case : Case) (grounds : Grounds) (action : Action)
    (log : Log) (before : Tables) : Transcript → Tables → Prop where
  | mk {carrying logging : Transcript} {working : Tables} :
    Runs (carryOut deployment case action) carrying (.ok ()) →
    Answered (.clean before) carrying ⟨before, working⟩ →
    Runs (logAction case grounds action.name) logging (.ok log) →
    working.logs = before.logs →
    Keeps deployment case grounds action log before (carrying ++ logging)
      { working with logs := working.logs ++ [log] }

/-- Actions were kept one after the other. -/
inductive KeepsAll (deployment : Deployment) (case : Case) (grounds : Grounds) :
    List Action → List Log → Tables → Transcript → Tables → Prop where
  | nil (before : Tables) : KeepsAll deployment case grounds [] [] before [] before
  | cons {action : Action} {rest : List Action} {log : Log} {logs : List Log}
      {before middle after : Tables} {first later : Transcript} :
    Keeps deployment case grounds action log before first middle →
    KeepsAll deployment case grounds rest logs middle later after →
    KeepsAll deployment case grounds (action :: rest) (log :: logs) before (first ++ later) after

/-- An action failed, or could not be logged: nothing of it is committed. What a failing
action wrote is taken back at once. -/
inductive Fails (deployment : Deployment) (case : Case) (grounds : Grounds) (action : Action)
    (failure : Failure) (before : Tables) : Transcript → Session → Prop where
  | carrying {carrying : Transcript} :
    Runs (carryOut deployment case action) carrying (.error failure) →
    Fails deployment case grounds action failure before (carrying ++ [⟨.rollback, ()⟩]) (.clean before)
  | logging {carrying logging : Transcript} {working : Tables} :
    Runs (carryOut deployment case action) carrying (.ok ()) →
    Runs (logAction case grounds action.name) logging (.error failure) →
    Fails deployment case grounds action failure before (carrying ++ logging) ⟨before, working⟩

theorem Keeps.logs {log : Log} {after : Tables}
    (kept : Keeps deployment case grounds action log before exchanges after) :
    after.logs = before.logs ++ [log] := by
  cases kept with
  | mk _ _ _ same => rw [same]

theorem KeepsAll.logs {actions : List Action} {logs : List Log} {after : Tables}
    (kept : KeepsAll deployment case grounds actions logs before exchanges after) :
    after.logs = before.logs ++ logs := by
  induction kept with
  | nil => exact (List.append_nil _).symm
  | cons first _ ih => rw [ih, first.logs, List.append_assoc, List.singleton_append]

theorem KeepsAll.enters {actions : List Action} {logs : List Log} {after : Tables}
    (kept : KeepsAll deployment case grounds actions logs before exchanges after) :
    List.Forall₂ (Enters case grounds) actions logs := by
  induction kept with
  | nil => exact .nil
  | cons first _ ih =>
    cases first with
    | mk _ _ logged _ => exact .cons (logAction_enters logged) ih

/-- Where nothing was kept, the store is as it was. -/
theorem KeepsAll.base {actions : List Action} {logs : List Log} {after : Tables}
    (kept : KeepsAll deployment case grounds actions logs before exchanges after) :
    (if actions = [] then before else after) = after := by
  cases kept with
  | nil => exact if_pos rfl
  | cons => exact if_neg (List.cons_ne_nil _ _)

theorem Fails.committed {failure : Failure} {session : Session}
    (fails : Fails deployment case grounds action failure before exchanges session) :
    session.committed = before := by
  cases fails with
  | carrying | logging => rfl

/-! ## One action -/

/-- An action runs in itself, or it fails and its failure is answered by a rollback. -/
theorem runs_perform {outcome : Except Failure Unit} (real : case.simulation = false)
    (run : Runs (perform deployment case action) exchanges outcome) :
    (outcome = .ok () ∧ Runs (carryOut deployment case action) exchanges (.ok ())) ∨
      ∃ failure carrying, outcome = .error failure ∧ exchanges = carrying ++ [⟨.rollback, ()⟩] ∧
        Runs (carryOut deployment case action) carrying (.error failure) := by
  have real : ¬ case.simulation = true := by rw [real]; exact Bool.false_ne_true
  simp only [perform, if_neg real] at run
  rcases runs_recover.mp run with ⟨value, rfl, carried⟩ | ⟨carrying, failure, undoing, rfl, carried, run⟩
  · exact .inl ⟨rfl, carried⟩
  · cases run with
    | ask answer run =>
      cases run
      exact .inr ⟨failure, carrying, rfl, rfl, carried⟩

/-- An entry goes behind the others, or nothing is committed. -/
private theorem addLog_answered {before after : Session} {log : Log} {outcome : Except Failure Unit}
    (run : Runs (tryCatch (write (.addLog log)) fun failure => do
      rollback
      throw failure) exchanges outcome) (answered : Answered before exchanges after) :
    (outcome = .ok () ∧ after =
        { before with working := { before.working with logs := before.working.logs ++ [log] } }) ∨
      ∃ failure, outcome = .error failure ∧ after.committed = before.committed := by
  cases run with
  | ask written run =>
  cases answered with
  | @cons _ middle _ _ _ _ wrote answered =>
  have wrote : (written, middle) = before.write (.addLog log) := wrote
  cases written with
  | ok =>
    cases run
    cases answered
    unfold Session.write at wrote
    split at wrote
    · cases wrote
    · cases wrote
      exact .inl ⟨rfl, rfl⟩
  | error fault =>
    cases run with
    | ask _ run =>
    cases run
    cases answered with
    | cons undone answered =>
    cases answered
    have undone : after = middle.rollback := undone
    subst undone
    have kept : middle.committed = before.committed := write_committed wrote
    exact .inr ⟨_, rfl, kept⟩

/-- An entry is committed with all that was written before it, or nothing is committed. -/
private theorem logAction_answered {before after : Session} {outcome : Except Failure Log}
    (real : case.simulation = false)
    (run : Runs (logAction case grounds action.name) exchanges outcome)
    (answered : Answered before exchanges after) :
    (∃ log, outcome = .ok log ∧
        after = .clean { before.working with logs := before.working.logs ++ [log] }) ∨
      ∃ failure, outcome = .error failure ∧ after.committed = before.committed := by
  have real : ¬ case.simulation = true := by rw [real]; exact Bool.false_ne_true
  simp only [logAction, if_neg real] at run
  rcases runs_bind.mp run with ⟨_, _, undrawn⟩ | ⟨drawing, id, _, rfl, drawn, run⟩
  · cases undrawn with
    | ask _ undrawn => cases undrawn
  obtain ⟨_, for_id, after_id⟩ := answered_append.mp answered
  obtain rfl := newId_answered drawn for_id
  rcases runs_bind.mp run with ⟨failure, rfl, unread⟩ | ⟨reading, time, _, rfl, read, run⟩
  · exact .inr ⟨failure, rfl, by rw [now_answered unread after_id]⟩
  obtain ⟨_, for_time, after_time⟩ := answered_append.mp after_id
  obtain rfl := now_answered read for_time
  rcases runs_bind.mp run with ⟨failure, rfl, unwritten⟩ | ⟨writing, _, _, rfl, written, run⟩
  · rcases addLog_answered unwritten after_time with ⟨same, -⟩ | ⟨_, -, committed⟩
    · cases same
    · exact .inr ⟨failure, rfl, committed⟩
  obtain ⟨_, for_entry, after_entry⟩ := answered_append.mp after_time
  rcases addLog_answered written for_entry with ⟨-, rfl⟩ | ⟨_, same, -⟩
  · cases run with
    | ask _ run =>
    cases run
    cases after_entry with
    | cons committed rest =>
    cases rest
    exact .inl ⟨_, rfl, committed⟩
  · cases same

/-- One action with its entry. -/
def runAction (deployment : Deployment) (case : Case) (grounds : Grounds) (action : Action) :
    Moderation Log := do
  perform deployment case action
  logAction case grounds action.name

/-- An action is kept with its entry and all that was written before, or fails. -/
private theorem runAction_answered {before session : Session} {outcome : Except Failure Log}
    (real : case.simulation = false)
    (run : Runs (runAction deployment case grounds action) exchanges outcome)
    (answered : Answered before exchanges session) :
    (∃ log after, outcome = .ok log ∧ session = .clean after ∧
        Keeps deployment case grounds action log before.working exchanges after) ∨
      ∃ failure, outcome = .error failure ∧
        Fails deployment case grounds action failure before.committed exchanges session := by
  rcases runs_bind.mp run with ⟨failure, rfl, performed⟩ | ⟨carrying, _, logging, rfl, performed, logged⟩
  · rcases runs_perform real performed with ⟨same, -⟩ | ⟨_, carrying, same, rfl, carried⟩
    · cases same
    cases same
    obtain ⟨middle, for_carrying, undone⟩ := answered_append.mp answered
    have kept := (carryOut_answered carried for_carrying).1
    cases undone with
    | cons undone rest =>
    cases rest
    have undone : session = middle.rollback := undone
    have clean : session = .clean before.committed := by rw [undone, Session.rollback, kept]; rfl
    rw [clean]
    exact .inr ⟨failure, rfl, .carrying carried⟩
  · rcases runs_perform real performed with ⟨-, carried⟩ | ⟨_, _, same, -⟩
    · obtain ⟨middle, for_carrying, for_logging⟩ := answered_append.mp answered
      obtain ⟨committed, logs⟩ := carryOut_answered carried for_carrying
      rcases logAction_answered real logged for_logging with ⟨log, rfl, rfl⟩ | ⟨failure, rfl, committed'⟩
      · refine .inl ⟨log, _, rfl, rfl, ?_⟩
        exact .mk carried (carryOut_rebased carried for_carrying before.working) logged logs
      · obtain ⟨_, _⟩ := session
        obtain rfl : _ = before.committed := committed'.trans committed
        exact .inr ⟨failure, rfl, .logging carried logged⟩
    · cases same

/-! ## Lists of actions -/

theorem runActions_cons (action : Action) (rest : List Action) :
    runActions deployment case grounds (action :: rest) =
      (runAction deployment case grounds action).bind fun log =>
        (runActions deployment case grounds rest).bind fun logs => .done (log :: logs) := by
  simp only [runActions, runAction, Program.bind_eq, Program.bind_assoc, Program.pure_eq]

theorem runActions_append (first later : List Action) :
    runActions deployment case grounds (first ++ later) =
      (runActions deployment case grounds first).bind fun logs =>
        (runActions deployment case grounds later).bind fun more => .done (logs ++ more) := by
  induction first with
  | nil => exact (Program.bind_done _).symm
  | cons action rest ih =>
    simp only [List.cons_append, runActions_cons, ih, Program.bind_assoc, Program.bind]

/-- A run of actions keeps all of them, or it keeps those before one that fails. The first
that is kept commits what was written before the run; where none is, nothing is
committed. -/
theorem runActions_kept {actions : List Action} {before session : Session}
    {outcome : Except Failure (List Log)} (real : case.simulation = false)
    (run : Runs (runActions deployment case grounds actions) exchanges outcome)
    (answered : Answered before exchanges session) :
    (∃ logs after, outcome = .ok logs ∧
        KeepsAll deployment case grounds actions logs before.working exchanges after ∧
        session = if actions = [] then before else .clean after) ∨
      ∃ failure done action rest earlier last logs middle, outcome = .error failure ∧
        actions = done ++ action :: rest ∧ exchanges = earlier ++ last ∧
        KeepsAll deployment case grounds done logs before.working earlier middle ∧
        Fails deployment case grounds action failure (if done = [] then before.committed else middle)
          last session := by
  -- Each action but the first starts from the store that the one before it has committed.
  induction actions generalizing before exchanges outcome with
  | nil =>
    cases run
    cases answered
    exact .inl ⟨[], _, rfl, .nil _, rfl⟩
  | cons action rest ih =>
    rw [runActions_cons] at run
    rcases runs_bind.mp run with ⟨failure, rfl, ran⟩ | ⟨first, log, others, rfl, ran, run⟩
    · rcases runAction_answered real ran answered with ⟨_, _, same, -⟩ | ⟨_, same, fails⟩
      · cases same
      · cases same
        exact .inr ⟨failure, [], action, rest, [], exchanges, [], _, rfl, rfl, rfl, .nil _, fails⟩
    · obtain ⟨middle, for_first, for_others⟩ := answered_append.mp answered
      rcases runAction_answered real ran for_first with ⟨_, between, same, rfl, kept⟩ | ⟨_, same, -⟩
      · cases same
        rcases runs_bind.mp run with ⟨failure, rfl, ran⟩ | ⟨_, logs, _, rfl, ran, run⟩
        · rcases ih ran for_others with ⟨_, _, same, -⟩ |
            ⟨_, done, failing, later, earlier, last, logs, middle, same, rfl, rfl, keptAll, fails⟩
          · cases same
          · cases same
            refine .inr ⟨failure, action :: done, failing, later, first ++ earlier, last, log :: logs,
              middle, rfl, rfl, (List.append_assoc ..).symm, .cons kept keptAll, ?_⟩
            rw [← keptAll.base]
            exact fails
        · cases run
          rw [List.append_nil] at for_others ⊢
          rcases ih ran for_others with ⟨_, after, same, keptAll, left⟩ | ⟨_, _, _, _, _, _, _, _, same, -⟩
          · cases same
            refine .inl ⟨log :: logs, after, rfl, .cons kept keptAll, ?_⟩
            rw [left, ← apply_ite Session.clean]
            exact congrArg Session.clean keptAll.base
          · cases same
      · cases same

/-- The same where there is nothing to commit to begin with. -/
private theorem runActions_answered {actions : List Action} {session : Session}
    {outcome : Except Failure (List Log)} (real : case.simulation = false)
    (run : Runs (runActions deployment case grounds actions) exchanges outcome)
    (answered : Answered (.clean before) exchanges session) :
    (∃ logs after, outcome = .ok logs ∧ session = .clean after ∧
        KeepsAll deployment case grounds actions logs before exchanges after) ∨
      ∃ failure done action rest earlier last logs middle, outcome = .error failure ∧
        actions = done ++ action :: rest ∧ exchanges = earlier ++ last ∧
        KeepsAll deployment case grounds done logs before earlier middle ∧
        Fails deployment case grounds action failure middle last session := by
  rcases runActions_kept real run answered with ⟨logs, after, rfl, kept, left⟩ |
    ⟨failure, done, action, rest, earlier, last, logs, middle, rfl, shape, split_, kept, fails⟩
  · refine .inl ⟨logs, after, rfl, ?_, kept⟩
    rw [left, ← apply_ite Session.clean]
    exact congrArg Session.clean kept.base
  · refine .inr ⟨failure, done, action, rest, earlier, last, logs, middle, rfl, shape, split_, kept, ?_⟩
    rw [← kept.base]
    exact fails

/-- Where an action fails, the run fails with it, and asks for nothing but a rollback. -/
private theorem runActions_stops {rest : List Action} {outcome : Except Failure (List Log)}
    {carrying later more : Transcript} {failure : Failure} (real : case.simulation = false)
    (run : Runs (runActions deployment case grounds (action :: rest)) exchanges outcome)
    (carried : Runs (carryOut deployment case action) carrying (.error failure))
    (answers : carrying ++ later = exchanges ++ more) :
    outcome = .error failure ∧ exchanges = carrying ++ [⟨.rollback, ()⟩] := by
  simp only [runActions, Program.bind_eq] at run
  rcases runs_bind.mp run with ⟨_, rfl, performed⟩ | ⟨first, _, others, rfl, performed, -⟩
  · rcases runs_perform real performed with ⟨same, -⟩ | ⟨_, carrying', same, rfl, carried'⟩
    · cases same
    · obtain ⟨rfl, same'⟩ := carried.same carried' (answers.trans (List.append_assoc ..))
      cases same
      cases same'
      exact ⟨rfl, rfl⟩
  · rcases runs_perform real performed with ⟨-, carried'⟩ | ⟨_, _, same, -⟩
    · cases (carried.same carried' (answers.trans (List.append_assoc ..))).2
    · cases same

/-- Actions are independent units. A run that returns has committed one entry for each of
them, in their order, and all that they wrote. A run that fails has failed at one of
them: those before it are committed with their entries, and nothing of it or of what
comes after. Whenever an action fails, so does the run, with nothing asked after it but
to take back what that action wrote. -/
theorem actions_are_units {actions : List Action} {session : Session}
    {outcome : Except Failure (List Log)} (real : case.simulation = false)
    (run : Runs (runActions deployment case grounds actions) exchanges outcome)
    (answered : Answered (.clean before) exchanges session) :
    (∀ logs, outcome = .ok logs → ∃ after, session = .clean after ∧
      KeepsAll deployment case grounds actions logs before exchanges after ∧
      after.logs = before.logs ++ logs ∧ List.Forall₂ (Enters case grounds) actions logs) ∧
    (∀ failure, outcome = .error failure → ∃ done action rest earlier last logs middle,
      actions = done ++ action :: rest ∧ exchanges = earlier ++ last ∧
      KeepsAll deployment case grounds done logs before earlier middle ∧
      middle.logs = before.logs ++ logs ∧ List.Forall₂ (Enters case grounds) done logs ∧
      session.committed = middle ∧
      Fails deployment case grounds action failure middle last session) ∧
    ∀ done action rest earlier carrying later logs failure,
      actions = done ++ action :: rest → exchanges = earlier ++ (carrying ++ later) →
      Runs (runActions deployment case grounds done) earlier (.ok logs) →
      Runs (carryOut deployment case action) carrying (.error failure) →
      outcome = .error failure ∧ later = [⟨.rollback, ()⟩] ∧ ∃ middle, session = .clean middle ∧
        KeepsAll deployment case grounds done logs before earlier middle := by
  refine ⟨?returns, ?fails, ?stops⟩
  case returns =>
    rintro logs rfl
    rcases runActions_answered real run answered with ⟨_, after, same, clean, kept⟩ |
      ⟨_, _, _, _, _, _, _, _, same, -⟩
    · cases same
      exact ⟨after, clean, kept, kept.logs, kept.enters⟩
    · cases same
  case fails =>
    rintro failure rfl
    rcases runActions_answered real run answered with ⟨_, _, same, -⟩ |
      ⟨_, done, action, rest, earlier, last, logs, middle, same, shape, split, kept, fails⟩
    · cases same
    · cases same
      exact ⟨done, action, rest, earlier, last, logs, middle, shape, split, kept, kept.logs,
        kept.enters, fails.committed, fails⟩
  case stops =>
    rintro done action rest earlier carrying later logs failure rfl rfl ran carried
    obtain ⟨between, for_done, for_last⟩ := answered_append.mp answered
    rcases runActions_answered real ran for_done with ⟨_, middle, same, rfl, kept⟩ |
      ⟨_, _, _, _, _, _, _, _, same, -⟩
    · cases same
      -- The run has the same answers as one of the actions before, so it comes to this one.
      rw [runActions_append] at run
      rcases runs_bind.mp (run.after ran) with ⟨_, rfl, last⟩ | ⟨_, _, _, whole, last, -⟩
      · obtain ⟨same, whole⟩ := runActions_stops real last carried (List.append_nil _).symm
        cases same
        obtain rfl := List.append_cancel_left whole
        obtain ⟨undoing, for_carrying, undone⟩ := answered_append.mp for_last
        have committed := (carryOut_answered carried for_carrying).1
        cases undone with
        | cons undone rest =>
        cases rest
        have undone : session = undoing.rollback := undone
        refine ⟨rfl, rfl, middle, ?_, kept⟩
        rw [undone, Session.rollback, committed]
        rfl
      · cases (runActions_stops real last carried whole).1
    · cases same

/-- A ban that is held back leaves no suspension, while the entry before it stays. -/
theorem held_back_ban_is_undone :
    let deployment : Deployment := ⟨default, ⟨[], .nil⟩, true, 60, 1⟩
    let user : User := ⟨7, "ann", none, none, none, [], 0, 0, false, none, none⟩
    let case : Case := ⟨default, user, none, false⟩
    let grounds : Grounds := ⟨"spam", none⟩
    let log : Log := entry case grounds Action.hideQuietly.name "a" (Moment.stored Moment.epoch)
    let hidden : Transcript := [⟨.newId, "a"⟩, ⟨.clock, some Moment.epoch⟩,
      ⟨.write (.addLog log), .ok ()⟩, ⟨.commit, ()⟩]
    let kept : Tables := { logs := [log] }
    let banned : Transcript := [⟨.tables, kept⟩, ⟨.clock, some Moment.epoch⟩,
      ⟨.write (.cooldown (Store.suspend kept Moment.epoch "" 7 none)), .ok ()⟩,
      ⟨.remote (.isHeldBack ""), true⟩]
    let exchanges := hidden ++ (banned ++ [⟨.rollback, ()⟩])
    let failure : Failure := .remote (.heldBack "")
    case.simulation = false ∧
      Runs (runActions deployment case grounds [.hideQuietly, .ban, .like]) exchanges (.error failure) ∧
      Answered (.clean {}) exchanges (.clean kept) ∧
      ∃ middle, Session.clean kept = .clean middle ∧
        KeepsAll deployment case grounds [.hideQuietly] [log] {} hidden middle := by
  intro deployment user case grounds log hidden kept banned exchanges failure
  have ran : Runs (runActions deployment case grounds [.hideQuietly]) hidden (.ok [log]) :=
    .ask _ (.ask _ (.ask _ (.ask _ (.done _))))
  have carried : Runs (carryOut deployment case .ban) banned (.error failure) :=
    .ask _ (.ask _ (.ask _ (.ask _ (.failed _))))
  have run : Runs (runActions deployment case grounds [.hideQuietly, .ban, .like]) exchanges
      (.error failure) := by
    refine .ask _ (.ask _ (.ask _ (.ask _ ?_)))
    exact .ask _ (.ask _ (.ask _ (.ask _ (.ask _ (.failed failure)))))
  have answered : Answered (.clean {}) exchanges (.clean kept) :=
    .cons rfl <| .cons rfl <| .cons rfl <| .cons rfl <|
    .cons ⟨rfl, rfl⟩ <| .cons rfl <| .cons rfl <| .cons rfl <| .cons rfl <| .nil _
  have stops := (actions_are_units rfl run answered).2.2 [.hideQuietly] .ban [.like] hidden banned
    [⟨.rollback, ()⟩] [log] failure rfl rfl ran carried
  exact ⟨rfl, run, answered, stops.2.2⟩

end Curation.Moderation
