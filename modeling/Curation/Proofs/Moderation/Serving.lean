import Curation.Proofs.Moderation.Suspensions
import Curation.Proofs.Moderation.Units
import Curation.Proofs.Rehearsal.Untouched

/-! What is left of a run of moderation, however it ends. While a case is judged its checks
may clear log entries about its user, and nothing is committed. The actions come after
that, each committed with its entry, and slow mode comes last. -/
namespace Curation.Moderation

open Program (Asks Runs runs_bind runs_bind_ok runs_question answered_append answered_question)
open Rehearsal (IsHarmless)
open Store (Change Session Tables)

variable {deployment : Deployment} {case : Case} {grounds : Grounds} {gate : Gate}
  {transcript : Transcript} {before after : Session}

/-! ## Checks at work -/

/-- The session after checks of a case have been at work: the log entries about its user
may be cleared, though not committed, and not in a simulation. -/
inductive Case.Checked (case : Case) (before : Session) : Session → Prop
  | untouched : Checked case before before
  | cleared : case.simulation = false →
    Checked case before
      { before with
        working := (Change.deleteLogs case.channel.id (toString case.user.fid)).apply before.working }

namespace Case.Checked

/-- What is cleared twice is cleared once. -/
theorem trans {first second third : Session} (earlier : case.Checked first second)
    (later : case.Checked second third) : case.Checked first third := by
  cases earlier with
  | untouched => exact later
  | cleared real =>
    cases later with
    | untouched => exact .cleared real
    | cleared =>
      have again : ∀ tables : Tables,
          (Change.deleteLogs case.channel.id (toString case.user.fid)).apply
            ((Change.deleteLogs case.channel.id (toString case.user.fid)).apply tables) =
          (Change.deleteLogs case.channel.id (toString case.user.fid)).apply tables := by
        intro tables
        simp only [Change.apply, List.filter_filter, Bool.and_self]
      have once : case.Checked first _ := .cleared real
      rw [← again] at once
      exact once

theorem committed (checked : case.Checked before after) : after.committed = before.committed := by
  cases checked with
  | untouched | cleared => rfl

theorem cooldowns (checked : case.Checked before after) :
    after.working.cooldowns = before.working.cooldowns := by
  cases checked with
  | untouched | cleared => rfl

theorem clean_cooldowns {tables : Tables} (checked : case.Checked (.clean tables) after) :
    after.working.cooldowns = after.committed.cooldowns := by
  rw [checked.cooldowns, checked.committed]
  rfl

theorem simulated (checked : case.Checked before after) (simulated : case.simulation = true) :
    after = before := by
  cases checked with
  | untouched => rfl
  | cleared real =>
    rw [simulated] at real
    cases real

end Case.Checked

/-- A question may be answered so, and leaves this session. An evaluation leaves what its
checks do. -/
def Serves (before : Session) : (ask : Ask) → Answer ask → Session → Prop
  | .evaluate case _ _, _, after => case.Checked before after
  | ask, answer, after => Answers before ask answer after

abbrev Served : Session → Transcript → Session → Prop := Program.Answered Serves

theorem served_answered (served : Served before transcript after) :
    Answered before transcript after := by
  refine served.mono fun before ask answer after serves => ?_
  cases ask with
  | evaluate case rule strategy => exact Case.Checked.committed serves
  | remote | tables | write | commit | rollback | clock | newId | claim | release => exact serves

theorem harmless_served {ask : Ask} {answer : Answer ask} (harmless : IsHarmless case ask)
    (serves : Serves before ask answer after) : case.Checked before after := by
  cases ask with
  | remote | clock | newId =>
    obtain rfl : after = before := serves
    exact .untouched
  | tables =>
    obtain ⟨-, rfl⟩ := serves
    exact .untouched
  | evaluate judged =>
    obtain rfl : judged = case := harmless
    exact serves
  | write | commit | rollback | claim | release => exact harmless.elim

theorem judge_served {outcome : Except Failure (Gate × Grounds)}
    (run : Runs (judge deployment case) transcript outcome) (served : Served before transcript after) :
    case.Checked before after :=
  served.leads (R := case.Checked) (fun _ => .untouched) (fun first second => first.trans second) run
    (IsHarmless.judge deployment case) fun _ harmless _ _ _ serves => harmless_served harmless serves

/-- While a case is judged, the suspensions show as they were before. -/
theorem judge_reads {outcome : Except Failure (Gate × Grounds)} {tables : Tables}
    (run : Runs (judge deployment case) transcript outcome) (served : Served before transcript after)
    (read : ⟨.tables, tables⟩ ∈ transcript) : tables.cooldowns = before.working.cooldowns := by
  have harmless := (IsHarmless.judge deployment case).of_runs run
  clear run
  induction served with
  | nil => cases read
  | @cons before middle _ ask answer later serves _ ih =>
    rcases List.mem_cons.mp read with same | read
    · cases same
      rw [show tables = before.working from serves.1]
    · rw [ih read fun exchange listed => harmless exchange (.tail _ listed)]
      exact (harmless_served (harmless _ (.head _)) serves).cooldowns

/-- A simulation leaves the session as it is. -/
theorem moderate_simulated {outcome : Except Failure (List Log)} (simulated : case.simulation = true)
    (run : Runs (moderate deployment case) transcript outcome) (served : Served before transcript after) :
    after = before := by
  obtain ⟨channel, user, cast, simulation⟩ := case
  cases simulated
  have checked : Case.Checked ⟨channel, user, cast, true⟩ before after :=
    served.leads (R := Case.Checked _) (fun _ => .untouched) (fun first second => first.trans second) run
      (IsHarmless.moderate deployment ⟨channel, user, cast, true⟩)
      fun _ harmless _ _ _ serves => harmless_served harmless serves
  exact checked.simulated rfl

/-! ## Slow mode -/

/-- Whether slow mode begins for the author of a cast that a gate has stopped. -/
def Case.slows (case : Case) (gate : Gate) : Bool :=
  decide (gate = .included) && case.cast.isSome && !case.simulation &&
    decide (0 < case.channel.slowModeHours)

/-- Slow mode where it begins. -/
def slowDown (case : Case) (gate : Gate) : Moderation Unit :=
  if case.slows gate then startSlowMode case else return ()

theorem enact_eq_slowDown (deployment : Deployment) (case : Case) (gate : Gate) (grounds : Grounds) :
    enact deployment case gate grounds =
      (runActions deployment case grounds (gate.actions case)).bind fun logs =>
        (slowDown case gate).bind fun _ => .done logs := by
  have slows : (decide (gate = .included) && case.cast.isSome && !case.simulation &&
      decide (0 < case.channel.slowModeHours)) = case.slows gate := rfl
  simp only [enact, slowDown, slows, Program.bind_eq, Program.pure_eq]
  congr 1
  funext logs
  cases case.slows gate with
  | true | false => rfl

/-- Slow mode commits nothing where it does not come to its end. -/
theorem slowDown_fails {failure : Failure} (run : Runs (slowDown case gate) transcript (.error failure))
    (answered : Answered before transcript after) : after.committed = before.committed := by
  unfold slowDown at run
  split at run
  · rw [startSlowMode_eq] at run
    rcases runs_bind.mp run with ⟨_, -, suspending⟩ | ⟨_, _, _, rfl, -, committing⟩
    · exact (carrying_answered suspending (suspendFor_asks case _) answered).1
    · obtain ⟨_, same, -⟩ := runs_question.mp committing
      cases same
  · cases run

/-! ## What is left -/

/-- A run of moderation that fails leaves the committed store like this. It fails while the
case is judged, at an action, or when slow mode should begin. The actions before are kept
with their entries, the first of them together with what the checks have cleared; where
there is none, nothing is. -/
inductive Falters (deployment : Deployment) (case : Case) (failure : Failure) (before : Tables) :
    Transcript → Tables → Prop where
  | judging {seen : Transcript} : Runs (judge deployment case) seen (.error failure) →
    Falters deployment case failure before seen before
  | acting {gate : Gate} {grounds : Grounds} {seen earlier last : Transcript} {checked session : Session}
      {done rest : List Action} {action : Action} {logs : List Log} {middle : Tables} :
    Runs (judge deployment case) seen (.ok (gate, grounds)) → case.Checked (.clean before) checked →
    gate.actions case = done ++ action :: rest →
    KeepsAll deployment case grounds done logs checked.working earlier middle →
    Fails deployment case grounds action failure (if done = [] then before else middle) last session →
    Falters deployment case failure before (seen ++ (earlier ++ last))
      (if done = [] then before else middle)
  | slowing {gate : Gate} {grounds : Grounds} {seen acting slowing : Transcript} {checked : Session}
      {logs : List Log} {middle : Tables} :
    Runs (judge deployment case) seen (.ok (gate, grounds)) → case.Checked (.clean before) checked →
    KeepsAll deployment case grounds (gate.actions case) logs checked.working acting middle →
    Runs (slowDown case gate) slowing (.error failure) →
    Falters deployment case failure before (seen ++ (acting ++ slowing))
      (if gate.actions case = [] then before else middle)

/-- A run of moderation that returns has kept its gate's actions, and slow mode has begun
where it should. -/
inductive Succeeds (deployment : Deployment) (case : Case) (gate : Gate) (grounds : Grounds)
    (logs : List Log) (before after : Session) : Transcript → Prop where
  | mk {acting slowing : Transcript} {middle : Tables} :
    KeepsAll deployment case grounds (gate.actions case) logs before.working acting middle →
    Runs (slowDown case gate) slowing (.ok ()) →
    Answered (if gate.actions case = [] then before else .clean middle) slowing after →
    Succeeds deployment case gate grounds logs before after (acting ++ slowing)

theorem enact_succeeds {logs : List Log} (real : case.simulation = false)
    (run : Runs (enact deployment case gate grounds) transcript (.ok logs))
    (answered : Answered before transcript after) :
    Succeeds deployment case gate grounds logs before after transcript := by
  rw [enact_eq_slowDown] at run
  obtain ⟨acting, _, _, rfl, acted, run⟩ := runs_bind_ok.mp run
  obtain ⟨slowing, _, _, rfl, slowed, ended⟩ := runs_bind_ok.mp run
  cases ended
  rw [List.append_nil] at answered ⊢
  obtain ⟨between, for_actions, for_slow⟩ := answered_append.mp answered
  rcases runActions_kept real acted for_actions with ⟨_, middle, same, kept, rfl⟩ |
    ⟨_, _, _, _, _, _, _, _, same, -⟩
  · cases same
    exact .mk kept slowed for_slow
  · cases same

/-- Slow mode leaves the entries as they are. -/
private theorem slowDown_logs {middle : Tables} (run : Runs (slowDown case gate) transcript (.ok ()))
    (answered : Answered (.clean middle) transcript after) :
    after.committed.logs = middle.logs ∧ after.working.logs = middle.logs := by
  unfold slowDown at run
  split at run
  · rw [startSlowMode_eq] at run
    obtain ⟨_, _, _, rfl, suspending, committing⟩ := runs_bind_ok.mp run
    obtain ⟨between, for_row, for_commit⟩ := answered_append.mp answered
    obtain ⟨_, -, rfl⟩ := runs_question.mp committing
    obtain rfl : after = between.commit := answered_question.mp for_commit
    have same := (carrying_answered suspending (suspendFor_asks case _) for_row).2
    exact ⟨same, same⟩
  · cases run
    cases answered
    exact ⟨rfl, rfl⟩

theorem Succeeds.enters {logs : List Log}
    (succeeds : Succeeds deployment case gate grounds logs before after transcript) :
    List.Forall₂ (Enters case grounds) (gate.actions case) logs := by
  cases succeeds with
  | mk keeps => exact keeps.enters

/-- Where there are actions, the store holds their entries behind those before. -/
theorem Succeeds.logs {logs : List Log}
    (succeeds : Succeeds deployment case gate grounds logs before after transcript)
    (acts : gate.actions case ≠ []) :
    after.committed.logs = before.working.logs ++ logs ∧
      after.working.logs = before.working.logs ++ logs := by
  cases succeeds with
  | mk keeps slowed for_slow =>
  rw [if_neg acts] at for_slow
  rw [← keeps.logs]
  exact slowDown_logs slowed for_slow

/-- The entries of the actions are committed. -/
theorem Succeeds.logged {logs : List Log} (succeeds : Succeeds deployment case gate grounds logs before after transcript) :
    logs ⊆ after.committed.logs ∧ logs ⊆ after.working.logs := by
  by_cases idle : gate.actions case = []
  · cases succeeds with
    | mk keeps slowed for_slow =>
    rw [idle] at keeps
    cases keeps
    exact ⟨List.nil_subset _, List.nil_subset _⟩
  · obtain ⟨committed, working⟩ := succeeds.logs idle
    rw [committed, working]
    exact ⟨List.subset_append_right _ _, List.subset_append_right _ _⟩

/-- What a run of moderation returns is committed. -/
theorem moderate_logged {logs : List Log} (real : case.simulation = false)
    (run : Runs (moderate deployment case) transcript (.ok logs)) (served : Served before transcript after) :
    logs ⊆ after.committed.logs ∧ logs ⊆ after.working.logs := by
  obtain ⟨_, _, seen, acting, rfl, judged, acted⟩ := runs_moderate_ok.mp run
  obtain ⟨between, -, for_acting⟩ := answered_append.mp served
  exact (enact_succeeds real acted (served_answered for_acting)).logged

theorem moderate_falters {before : Tables} {failure : Failure} (real : case.simulation = false)
    (run : Runs (moderate deployment case) transcript (.error failure))
    (served : Served (.clean before) transcript after) :
    Falters deployment case failure before transcript after.committed := by
  rw [moderate_eq] at run
  rcases runs_bind.mp run with ⟨_, same, judging⟩ | ⟨seen, ⟨gate, grounds⟩, _, rfl, judged, run⟩
  · cases same
    rw [(judge_served judging served).committed]
    exact .judging judging
  obtain ⟨between, for_seen, for_enacting⟩ := answered_append.mp served
  have checked := judge_served judged for_seen
  have kept : between.committed = before := checked.committed
  simp only [enact_eq_slowDown] at run
  rcases runs_bind.mp run with ⟨_, same, acting⟩ | ⟨_, logs, _, rfl, acted, run⟩
  · cases same
    rcases runActions_kept real acting (served_answered for_enacting) with ⟨_, _, same, -⟩ |
      ⟨_, done, action, rest, earlier, last, logs, middle, same, shape, rfl, keeps, fails⟩
    · cases same
    · cases same
      rw [kept] at fails
      rw [fails.committed]
      exact .acting judged checked shape keeps fails
  · obtain ⟨acted_, for_actions, for_slow⟩ := answered_append.mp for_enacting
    rcases runActions_kept real acted (served_answered for_actions) with ⟨_, middle, same, keeps, rfl⟩ |
      ⟨_, _, _, _, _, _, _, _, same, -⟩
    · cases same
      rcases runs_bind.mp run with ⟨_, same, slowing⟩ | ⟨_, _, _, _, _, ended⟩
      · cases same
        rw [slowDown_fails slowing (served_answered for_slow), apply_ite Session.committed, kept]
        exact .slowing judged checked keeps slowing
      · cases ended
    · cases same

end Curation.Moderation
