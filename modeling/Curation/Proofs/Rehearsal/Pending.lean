import Curation.Proofs.Moderation.Frame
import Curation.Proofs.Rehearsal.Serving

/-! Requests that a moderator decides. The check that leaves a user to a moderator clears the
entries about the user, and while the rules go on nothing enters any. All that the run does
afterwards is entered behind what is left, so that in the end the entries about the user are
those that the run returns, whatever else its rules came to. -/
namespace Curation.Moderation

/-- The entry is about the user of a case in its channel. -/
def Case.ownsLog (case : Case) (log : Log) : Bool := case.owns log.channelId log.fid

/-- There is no entry about the user of a case. -/
def Case.Bare (case : Case) (session : Store.Session) : Prop :=
  ∀ log ∈ session.working.logs, case.ownsLog log = false

variable {case : Case} {before after : Store.Session}

theorem Case.Bare.filter (bare : case.Bare before) : before.working.logs.filter case.ownsLog = [] :=
  List.filter_eq_nil_iff.mpr fun log entry => by simp [bare log entry]

theorem Case.bare_cleared (case : Case) (session : Store.Session) :
    case.Bare { session with
      working :=
        (Store.Change.deleteLogs case.channel.id (toString case.user.fid)).apply session.working } := by
  intro log left
  exact (Bool.not_eq_true' _).mp (List.mem_filter.mp left).2

/-- Checks enter nothing. -/
theorem Case.Checked.bare (checked : case.Checked before after) (bare : case.Bare before) :
    case.Bare after := by
  cases checked with
  | untouched => exact bare
  | cleared => exact case.bare_cleared before

/-- Checks leave the entries about others alone. -/
theorem Case.Checked.others (checked : case.Checked before after) :
    after.working.logs.filter (!case.ownsLog ·) =
      before.working.logs.filter (!case.ownsLog ·) := by
  cases checked with
  | untouched => rfl
  | cleared =>
    have may : case.MayMake before.working (.deleteLogs case.channel.id (toString case.user.fid)) :=
      Case.owns_iff.mpr ⟨rfl, rfl⟩
    exact congrArg Store.Tables.logs may.outside

/-- Whatever gate stops a case, there is something to be done. -/
theorem Gate.actions_ne_nil (includes : case.channel.inclusion.actions ≠ [])
    (excludes : case.channel.exclusion.actions ≠ []) (gate : Gate) : gate.actions case ≠ [] := by
  cases gate with
  | exempt | suspended | noRules | rejected => exact List.cons_ne_nil _ _
  | excluded => exact excludes
  | included => exact includes

/-- The entries of actions are about the user of their case. -/
theorem ownsLog_of_enters {grounds : Grounds} {actions : List Action} {logs : List Log}
    (entered : List.Forall₂ (Enters case grounds) actions logs) : ∀ log ∈ logs, case.ownsLog log = true := by
  induction entered with
  | nil => exact List.forall_mem_nil _
  | cons enters _ ih =>
    obtain ⟨id, time, rfl⟩ := enters
    exact List.forall_mem_cons.mpr ⟨by simp [Case.ownsLog, Case.owns, entry], ih⟩

end Curation.Moderation

namespace Curation.Rehearsal

open Evaluation (EachCall Slot Working mem_working next?_some)
open Evaluation.Node (At Path)
open Moderation

variable {case : Case}

/-- What the check that leaves a user to a moderator does. -/
theorem taskOf_manuallyApprove (deployment : Deployment) (real : case.simulation = false)
    {leaf : Condition} (named : leaf.name = "manuallyApprove") :
    taskOf deployment case leaf =
      .ask (.clearLogs case.channel.id (toString case.user.fid)) fun _ =>
        .done ⟨false, "Need manual approval by channel moderators"⟩ := by
  have known : Check.byName? "manuallyApprove" = some Check.Admission.manuallyApprove := rfl
  simp [taskOf, named, known, Check.Admission.manuallyApprove, contextOf, real, Check.clearLogs,
    Program.bind]

/-- While rules are evaluated, the check that leaves the user to a moderator is never under way,
and once it is recorded, there is no entry about the user. -/
structure Notes (case : Case) (state : State Failure) : Prop where
  calls : EachCall (fun _ leaf (call : Call Failure) =>
    leaf.name ≠ "manuallyApprove" ∧ call.progress.Clears case) state.evaluation
  bare : ∀ record ∈ state.records, record.check = "manuallyApprove" → case.Bare state.world.session

namespace Notes

variable {state : State Failure}

theorem lineUp (notes : Notes case state) :
    Notes case { state with evaluation := state.evaluation.lineUp } :=
  ⟨notes.calls.lineUp, notes.bare⟩

theorem passTo (notes : Notes case state) (time : Number) :
    Notes case { state with world := state.world.passTo time } where
  calls := notes.calls
  bare := by
    intro record recorded named
    rw [passTo_session]
    exact notes.bare record recorded named

/-- What is stopped is some other check. -/
theorem stop (notes : Notes case state) {stopped : List (Working (Call Failure))}
    (others : ∀ working ∈ stopped, working.leaf.name ≠ "manuallyApprove") :
    Notes case (state.stop stopped) where
  calls := notes.calls
  bare := by
    intro record recorded named
    rcases List.mem_append.mp recorded with now | earlier
    · obtain ⟨working, among, same⟩ := List.mem_filterMap.mp now
      simp only at same
      split at same
      · cases same
      · cases same
        exact absurd named (others working among)
    · exact notes.bare record earlier named

theorem working (notes : Notes case state) :
    ∀ working ∈ state.evaluation.working, working.leaf.name ≠ "manuallyApprove" :=
  fun _ member => (notes.calls _ _ _ _ (mem_working.mp member)).1

theorem settle (notes : Notes case state) (manner : Evaluation.Manner) :
    Notes case (state.settle manner) := by
  have settled : Notes case { state with
      evaluation := state.evaluation.settle manner
      isUnsettled := !(state.evaluation.settle manner).tree.isSettled } :=
    ⟨notes.calls.settle, notes.bare⟩
  exact settled.stop fun working left => notes.working working (List.mem_filter.mp left).1

theorem overrun (notes : Notes case state) (deadline : Number) :
    Notes case (state.overrun deadline).2 :=
  (notes.passTo deadline).stop notes.working

/-- Taking in how far a check got. The one that leaves the user to a moderator has ended then and
has cleared the entries about the user. -/
theorem take (notes : Notes case state) {path : Path} {leaf : Condition} {slot : Slot (Call Failure)}
    (at_ : At leaf slot path state.evaluation.tree) (ticket : Nat) (start : Number)
    {progress : Progress Failure Verdict} {around : Surroundings}
    (checks : Checks case state.world around.world) (clears : progress.Clears case)
    (by_hand : leaf.name = "manuallyApprove" →
      (∃ verdict, progress = .ended (.ok verdict)) ∧ case.Bare around.world.session) :
    Notes case (state.take path ticket leaf start progress around) := by
  have earlier : ∀ record ∈ state.records, record.check = "manuallyApprove" →
      case.Bare around.world.session :=
    fun record recorded named => checks.bare (notes.bare record recorded named)
  cases progress with
  | waits | gathers =>
    have other : leaf.name ≠ "manuallyApprove" := by
      intro named
      obtain ⟨⟨verdict, ended⟩, -⟩ := by_hand named
      cases ended
    exact ⟨notes.calls.putSlot at_ ⟨other, clears⟩, earlier⟩
  | ended outcome =>
    cases outcome with
    | ok verdict | error fault =>
      refine ⟨notes.calls.finish at_ _, fun record recorded named => ?_⟩
      rcases List.mem_cons.mp recorded with rfl | before
      · exact (by_hand named).2
      · exact earlier record before named

end Notes

/-- The rounds of an evaluation keep to this, in whatever order the checks are let in and go on. -/
theorem Plan.carryOn_notes (stage : Stage) (real : case.simulation = false) (strategy : OrStrategy)
    (budget : Budget) (deadline : Number) (rounds : Nat) (state : State Failure)
    (notes : Notes case state) :
    Notes case ((planOf stage case strategy).carryOn budget deadline rounds state).2 := by
  induction rounds generalizing state with
  | zero => exact notes.overrun deadline
  | succ rounds ih =>
    have linedUp := notes.lineUp
    unfold carryOn
    simp only
    split
    · exact linedUp
    split
    · rename_i path ticket leaf next
      obtain ⟨checks, clears⟩ := advance_checks (taskOf_clears stage.deployment case leaf) budget
        { world := state.world }
      refine ih _ (linedUp.take (next?_some next).1 _ _ checks clears fun named => ?_)
      -- This check never waits: the round in which it is let in is the one in which it clears.
      simp only [planOf, taskOf_manuallyApprove stage.deployment real named]
      exact ⟨⟨_, rfl⟩, case.bare_cleared state.world.session⟩
    split
    · rename_i working due
      have member : working ∈ state.evaluation.lineUp.working := List.mem_of_find?_eq_some due
      have at_ := mem_working.mp member
      obtain ⟨checks, clears⟩ := Progress.resume_checks (linedUp.calls _ _ _ _ at_).2 budget
        { world := state.world, granted := working.call.granted }
      exact ih _ (linedUp.take at_ _ _ checks clears fun named =>
        absurd named (linedUp.working working member))
    split
    · exact ih _ (linedUp.settle _)
    split
    · exact linedUp.overrun deadline
    split
    · exact ih _ (linedUp.passTo _)
    · exact linedUp.overrun deadline

/-- Once the check that leaves the user to a moderator is recorded, the evaluation leaves no entry
about the user. -/
theorem evaluate_bare (stage : Stage) (real : case.simulation = false) (strategy : OrStrategy)
    (rule : Rule) (world : World)
    (ran : ∃ record ∈ ((planOf stage case strategy).evaluate rule world).2.1,
      record.check = "manuallyApprove") :
    case.Bare (evaluate stage case rule strategy world).2.session := by
  obtain ⟨record, recorded, named⟩ := ran
  unfold evaluate
  unfold Plan.evaluate at recorded ⊢
  split at recorded
  · cases recorded
  · rename_i time
    simp only [if_neg time]
    have begun : Notes case
        { evaluation := .begin_ (planOf stage case strategy).manner rule, world } :=
      ⟨.start rule, List.forall_mem_nil _⟩
    exact (Plan.carryOn_notes stage real strategy _ _ rounds _ begun).bare record recorded named

/-! ## The whole run -/

/-- Rules are to be evaluated, and the check that leaves the user to a moderator will be at work
then. -/
def LeavesToModerator (stage : Stage) : Moderation.Ask → World → Prop
  | .evaluate case rule strategy, world =>
    ∃ record ∈ ((planOf stage case strategy).evaluate rule world).2.1, record.check = "manuallyApprove"
  | _, _ => False

instance decidableLeavesToModerator (stage : Stage) :
    (ask : Moderation.Ask) → (world : World) → Decidable (LeavesToModerator stage ask world)
  | .evaluate _ _ _, _ => inferInstanceAs (Decidable (∃ record ∈ _, _))
  | .remote _, _ | .tables, _ | .write _, _ | .commit, _ | .rollback, _ | .clock, _ | .newId, _
  | .claim _ _, _ | .release _, _ => .isFalse id

/-- Where that check was at work while the case was judged, there is no entry about the user. -/
theorem judge_bare {stage : Stage} {world : World} (real : case.simulation = false)
    (left : (judge stage.deployment case).Meets (answerModeration stage) (LeavesToModerator stage) world) :
    case.Bare ((judge stage.deployment case).run (answerModeration stage) world).2.session := by
  have keeps : ∀ ask, IsHarmless case ask → ∀ world : World, case.Bare world.session →
      case.Bare (answerModeration stage ask world).2.session :=
    fun ask harmless world => (harmless_served harmless (answerModeration_serves stage ask world)).bare
  have clears : ∀ ask, IsHarmless case ask → ∀ world, LeavesToModerator stage ask world →
      case.Bare (answerModeration stage ask world).2.session := by
    intro ask harmless world leaves
    cases ask with
    | evaluate judged rule strategy =>
      obtain rfl : judged = case := harmless
      exact evaluate_bare stage real strategy rule world leaves
    | remote | tables | write | commit | rollback | clock | newId | claim | release => exact leaves.elim
  have bare := (IsHarmless.judge stage.deployment case).meets_holds keeps clears left
  exact bare

/-- Nothing is left to a moderator any more once the case is judged. -/
theorem enact_not_left {stage : Stage} {gate : Gate} {grounds : Grounds} {world : World} :
    ¬ (enact stage.deployment case gate grounds).Meets (answerModeration stage)
      (LeavesToModerator stage) world := by
  intro left
  obtain ⟨ask, here, acting, leaves⟩ := (enact_asks stage.deployment case gate grounds).of_meets left
  cases ask with
  | evaluate => cases acting
  | remote | tables | write | commit | rollback | clock | newId | claim | release => exact leaves.elim

/-- A real run that returns has judged its case, and has kept the actions of the gate that stopped
it. -/
theorem run_moderate_ok {stage : Stage} {world : World} {logs : List Log} (real : case.simulation = false)
    (returned : ((moderate stage.deployment case).run (answerModeration stage) world).1 = .ok logs) :
    ∃ gate grounds between transcript,
      (judge stage.deployment case).run (answerModeration stage) world = (.ok (gate, grounds), between) ∧
      case.Checked world.session between.session ∧
      Succeeds stage.deployment case gate grounds logs between.session
        ((moderate stage.deployment case).run (answerModeration stage) world).2.session transcript := by
  obtain ⟨seen, judging, for_judging⟩ := run_served stage (judge stage.deployment case) world
  have checked := judge_served judging for_judging
  simp only [moderate_eq, Program.run_bind] at returned ⊢
  generalize (judge stage.deployment case).run (answerModeration stage) world = judged at *
  obtain ⟨result, between⟩ := judged
  cases result with
  | error failure => cases returned
  | ok verdict =>
  obtain ⟨gate, grounds⟩ := verdict
  obtain ⟨transcript, acting, for_acting⟩ :=
    run_served stage (enact stage.deployment case gate grounds) between
  simp only at returned
  rw [returned] at acting
  exact ⟨gate, grounds, between, transcript, rfl, checked, enact_succeeds real acting (served_answered for_acting)⟩

/-- Where a case is left to a moderator in a run that returns, the entries about its user are
afterwards those that the run returns, one for each action of the gate that stopped the case.
Where the rules have not let the user in, this is the one request that is pending. The entries
about others are what they were. -/
theorem manual_approval_leaves_own_logs (stage : Stage) (case : Case) (world : World) (logs : List Log)
    (real : case.simulation = false) (includes : case.channel.inclusion.actions ≠ [])
    (excludes : case.channel.exclusion.actions ≠ [])
    (returned : (runModeration stage (moderate stage.deployment case) world).1 = .ok logs)
    (left : (moderate stage.deployment case).Meets (answerModeration stage) (LeavesToModerator stage) world) :
    ∃ tables, (runModeration stage (moderate stage.deployment case) world).2.session = .clean tables ∧
      tables.logs.filter case.ownsLog = logs ∧
      tables.logs.filter (!case.ownsLog ·) = world.session.working.logs.filter (!case.ownsLog ·) ∧
      ∃ gate grounds,
        ((judge stage.deployment case).run (answerModeration stage) world).1 = .ok (gate, grounds) ∧
        List.Forall₂ (Enters case grounds) (gate.actions case) logs ∧
        (gate = .rejected → ∃ log, logs = [log] ∧ log.action = Action.hideQuietly.name) := by
  have judged_left : (judge stage.deployment case).Meets (answerModeration stage)
      (LeavesToModerator stage) world := by
    rw [moderate_eq, Program.meets_bind] at left
    rcases left with judging | ⟨_, -, enacting⟩
    · exact judging
    · exact absurd enacting enact_not_left
  have bare := judge_bare real judged_left
  obtain ⟨gate, grounds, between, transcript, judged, checked, succeeds⟩ := run_moderate_ok real returned
  rw [judged] at bare ⊢
  have entered := succeeds.enters
  obtain ⟨committed, -⟩ := succeeds.logs (Gate.actions_ne_nil includes excludes gate)
  have own := ownsLog_of_enters entered
  have apart : logs.filter (!case.ownsLog ·) = [] :=
    List.filter_eq_nil_iff.mpr fun log entry => by simp [own log entry]
  refine ⟨_, rfl, ?_, ?_, gate, grounds, rfl, entered, ?_⟩
  · rw [committed, List.filter_append, bare.filter, List.filter_eq_self.mpr own, List.nil_append]
  · rw [committed, List.filter_append, checked.others, apart, List.append_nil]
  · rintro rfl
    cases entered with
    | cons enters rest =>
    cases rest
    obtain ⟨id, time, rfl⟩ := enters
    exact ⟨_, rfl, rfl⟩

/-- A user asks to join who has been logged before: what was logged is replaced by the request,
and what was logged about somebody else stays. -/
theorem request_is_alone :
    let directory : Remote.Directory :=
      { (default : Remote.Directory) with channels := ⟨"network", "https://channels", 10, none⟩ }
    let stage : Stage := ⟨⟨directory, Check.registry, false, 60, 1⟩, 30, 5⟩
    let by_hand : Rule := .group "and" [] .all [.condition ⟨"manuallyApprove", []⟩]
    let channel : Channel :=
      ⟨"cats", "", true, none, 0, [], false, ⟨none, .all, true, by_hand, [.like]⟩,
        ⟨none, .all, true, .group "and" [] .all [], [.hideQuietly]⟩⟩
    let case : Case := ⟨channel, ⟨7, "ann", none, none, none, [], 0, 0, false, none, none⟩, none, false⟩
    let lead : Stub := ⟨"https://channels/v1/channel", none, none, none, none, 0,
      .answered ⟨200, "\x7b\"result\": \x7b\"channel\": \x7b\"leadFid\": 1\x7d\x7d\x7d"⟩⟩
    let earlier (id fid : String) : Log := { (default : Log) with id, channelId := "cats", fid }
    let world : World :=
      { now := 0, stubs := [lead], session := .clean { logs := [earlier "a" "7", earlier "b" "8"] } }
    let request := entry case ⟨"Need manual approval by channel moderators", none⟩ "hideQuietly"
      "00000000-0000-4000-8000-000000000001" ⟨1704067200000000, none⟩
    channel.inclusion.actions ≠ [] ∧ channel.exclusion.actions ≠ [] ∧
      (runModeration stage (moderate stage.deployment case) world).1 = .ok [request] ∧
      (moderate stage.deployment case).Meets (answerModeration stage) (LeavesToModerator stage) world ∧
      ∃ tables, (runModeration stage (moderate stage.deployment case) world).2.session = .clean tables ∧
        tables.logs.filter case.ownsLog = [request] ∧
        tables.logs.filter (!case.ownsLog ·) = [earlier "b" "8"] := by
  intro directory stage by_hand channel case lead earlier world request
  have includes : channel.inclusion.actions ≠ [] := List.cons_ne_nil _ _
  have excludes : channel.exclusion.actions ≠ [] := List.cons_ne_nil _ _
  have returned : (runModeration stage (moderate stage.deployment case) world).1 = .ok [request] :=
    Program.ok_of_toOption (by decide +kernel)
  have left : (moderate stage.deployment case).Meets (answerModeration stage) (LeavesToModerator stage) world := by
    decide +kernel
  obtain ⟨tables, clean, own, others, -⟩ :=
    manual_approval_leaves_own_logs stage case world [request] rfl includes excludes returned left
  exact ⟨includes, excludes, returned, left, tables, clean, own, others.trans (by decide)⟩

end Curation.Rehearsal
