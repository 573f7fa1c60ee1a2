import Curation.Proofs.Moderation.Gates
import Curation.Proofs.Rehearsal.Sparing
import Curation.Rehearsal.Moderating

/-! Simulated moderation. A simulation judges a case as the real run does, although the
checks of the real run may have cleared logs by then, and it returns an entry for each
action that the real run carried out. -/
namespace Curation.Rehearsal

open Moderation
open Program (Asks runs_run run_bind)

variable {stage : Stage} {case : Case} {session : Store.Session} {world : World}

/-! ## Judging -/

theorem taskOf_simulated (deployment : Deployment) (case : Case) (leaf : Condition) :
    taskOf deployment (case.when true) leaf = Check.spare (taskOf deployment (case.when false) leaf) := by
  unfold taskOf
  cases found : Check.byName? leaf.name with
  | none => rfl
  | some entry =>
    have listed : entry ∈ Check.catalogue := List.mem_of_find?_eq_some found
    exact Check.run_simulated (contextOf deployment case leaf) entry listed

theorem planOf_simulated (strategy : OrStrategy) :
    planOf stage (case.when true) strategy = (planOf stage (case.when false) strategy).spared := by
  simp only [planOf, Plan.spared, ← taskOf_simulated]

/-- A simulated evaluation ends as the real one does, whatever the session. -/
theorem evaluate_simulated (rule : Rule) (strategy : OrStrategy) :
    evaluate stage (case.when true) rule strategy (world.withSession session) =
      inSession session (evaluate stage (case.when false) rule strategy world) := by
  simp only [evaluate, planOf_simulated, Plan.evaluate_spared, inSession]

theorem run_evaluate (case : Case) (rule : Rule) (strategy : OrStrategy) :
    (Moderation.evaluate case rule strategy).run (answerModeration stage) world =
      evaluate stage case rule strategy world := by
  unfold Moderation.evaluate
  simp only [Program.bind_eq, Program.bind, Program.run, answerModeration]
  generalize evaluate stage case rule strategy world = evaluated
  obtain ⟨outcome, after⟩ := evaluated
  cases outcome with
  | ok decision | error failure => rfl

/-- Of its channel a check of a case reads the id alone. -/
theorem taskOf_amid (deployment : Deployment) (channel : Channel) (case : Case) (leaf : Condition) :
    taskOf deployment (case.amid channel) leaf = taskOf deployment case leaf := by
  unfold taskOf
  cases found : Check.byName? leaf.name with
  | none => rfl
  | some entry =>
    have listed : entry ∈ Check.catalogue := List.mem_of_find?_eq_some found
    exact Check.run_amid (contextOf deployment case leaf) channel entry listed

/-- So rules are evaluated alike in all channels of that id. -/
theorem evaluate_amid (channel : Channel) (rule : Rule) (strategy : OrStrategy) :
    evaluate stage (case.amid channel) rule strategy world = evaluate stage case rule strategy world := by
  have same : planOf stage (case.amid channel) strategy = planOf stage case strategy := by
    simp only [planOf]
    congr 1
    funext leaf
    exact taskOf_amid stage.deployment channel case leaf
  simp only [evaluate, same]

private theorem judgeInclusion_simulated :
    (judgeInclusion (case.when true)).run (answerModeration stage) (world.withSession session) =
      inSession session ((judgeInclusion (case.when false)).run (answerModeration stage) world) := by
  have same : evaluate stage (case.when true) (case.when true).channel.inclusion.rule
      (strategyFor (case.when true)) (world.withSession session) =
        inSession session (evaluate stage (case.when false) (case.when false).channel.inclusion.rule
          (strategyFor (case.when false)) world) := evaluate_simulated _ _
  simp only [judgeInclusion, Program.bind_eq, run_bind, run_evaluate, same]
  generalize evaluate stage (case.when false) _ _ world = evaluated
  obtain ⟨outcome, after⟩ := evaluated
  cases outcome with
  | error failure => rfl
  | ok included =>
    simp only [inSession]
    cases included.passed with
    | true | false => rfl

private theorem judgeRules_simulated :
    (judgeRules (case.when true)).run (answerModeration stage) (world.withSession session) =
      inSession session ((judgeRules (case.when false)).run (answerModeration stage) world) := by
  have same : evaluate stage (case.when true) (case.when true).channel.exclusion.rule
      (strategyFor (case.when true)) (world.withSession session) =
        inSession session (evaluate stage (case.when false) (case.when false).channel.exclusion.rule
          (strategyFor (case.when false)) world) := evaluate_simulated _ _
  by_cases consulted : isConsulted case.channel.exclusion case.cast
  · have consulted_ (simulation : Bool) : isConsulted (case.when simulation).channel.exclusion
      (case.when simulation).cast = true := consulted
    simp only [judgeRules, consulted_, if_true, Program.bind_eq, run_bind, run_evaluate, same]
    generalize evaluate stage (case.when false) _ _ world = evaluated
    obtain ⟨outcome, after⟩ := evaluated
    cases outcome with
    | error failure => rfl
    | ok excluded =>
      simp only [inSession]
      cases excluded.passed with
      | true => rfl
      | false => exact judgeInclusion_simulated
  · have apart (simulation : Bool) : ¬ isConsulted (case.when simulation).channel.exclusion
      (case.when simulation).cast = true := consulted
    simp only [judgeRules, if_neg (apart _)]
    exact judgeInclusion_simulated

/-- A simulation judges as the real run does, and only the session may differ then. -/
theorem judge_simulated (stage : Stage) (deployment : Deployment) (case : Case) (world : World) :
    ∃ session, (judge deployment (case.when true)).run (answerModeration stage) world =
      inSession session ((judge deployment (case.when false)).run (answerModeration stage) world) := by
  have bypass (simulation : Bool) :
      bypassReason? deployment (case.when simulation) = bypassReason? deployment case := rfl
  have keptAway (simulation : Bool) : keptAwayReason? (case.when simulation) = keptAwayReason? case := rfl
  simp only [judge, Program.bind_eq, run_bind, bypass, keptAway]
  generalize (bypassReason? deployment case).run (answerModeration stage) world = first
  obtain ⟨result, world⟩ := first
  cases result with
  | error failure => exact ⟨world.session, rfl⟩
  | ok reason? =>
  cases reason? with
  | some reason => exact ⟨world.session, rfl⟩
  | none =>
  simp only [run_bind]
  generalize (keptAwayReason? case).run (answerModeration stage) world = second
  obtain ⟨result, world⟩ := second
  cases result with
  | error failure => exact ⟨world.session, rfl⟩
  | ok reason? =>
  cases reason? with
  | some reason => exact ⟨world.session, rfl⟩
  | none =>
  refine ⟨world.session, ?_⟩
  by_cases some_rules : case.channel.inclusion.hasConditions
  · have some_rules (simulation : Bool) :
        (case.when simulation).channel.inclusion.hasConditions = true := some_rules
    simp only [some_rules, if_true]
    exact judgeRules_simulated
  · have none_ (simulation : Bool) :
        ¬ (case.when simulation).channel.inclusion.hasConditions = true := some_rules
    simp only [if_neg (none_ _)]
    rfl

/-! ## Entering -/

/-- What a simulation asks to make its entries. -/
def isEntering : Moderation.Ask → Bool
  | .clock | .newId => true
  | _ => false

private theorem now_enters : Asks (isEntering · = true) Moderation.now := by
  refine .ask rfl fun time => ?_
  cases time with
  | none => exact .failed _
  | some moment => exact .done moment

theorem runActions_simulated_asks (deployment : Deployment) (grounds : Grounds)
    (actions : List Action) :
    Asks (isEntering · = true) (runActions deployment (case.when true) grounds actions) := by
  induction actions with
  | nil => exact .done []
  | cons action rest ih =>
    have logged : Asks (isEntering · = true) (logAction (case.when true) grounds action.name) :=
      now_enters.bind fun _ => .ask rfl fun _ => .done _
    exact logged.bind fun log => ih.bind fun logs => .done _

private theorem actions_when (gate : Gate) (simulation : Bool) :
    gate.actions (case.when simulation) = gate.actions case := by
  cases gate with
  | exempt | suspended | noRules | excluded | rejected | included => rfl

theorem enact_simulated (deployment : Deployment) (gate : Gate) (grounds : Grounds) :
    enact deployment (case.when true) gate grounds =
      runActions deployment (case.when true) grounds (gate.actions case) := by
  have simulated : (case.when true).simulation = true := rfl
  simp [enact, actions_when, simulated]

/-- A simulation takes no time once the case is judged. -/
private theorem enact_simulated_now (deployment : Deployment) (gate : Gate) (grounds : Grounds)
    (world : World) :
    ((enact deployment (case.when true) gate grounds).run (answerModeration stage) world).2.now =
      world.now := by
  rw [enact_simulated]
  refine (runActions_simulated_asks deployment grounds _).run_keeps (fun ask entering world => ?_) world
  cases ask with
  | clock | newId => rfl
  | remote | evaluate | tables | write | commit | rollback | claim | release => cases entering

/-- While the clock can be read, a simulation returns. -/
private theorem runActions_simulated (deployment : Deployment) (grounds : Grounds)
    (actions : List Action) (readable : world.clock?.isSome = true) :
    ∃ logs, ((runActions deployment (case.when true) grounds actions).run
      (answerModeration stage) world).1 = .ok logs := by
  induction actions generalizing world with
  | nil => exact ⟨[], rfl⟩
  | cons action rest ih =>
    obtain ⟨time, known⟩ := Option.isSome_iff_exists.mp readable
    have simulated : (case.when true).simulation = true := rfl
    have logged : (logAction (case.when true) grounds action.name).run (answerModeration stage) world =
        (.ok (entry (case.when true) grounds action.name (Log.simulatedStart ++ world.newId.1) time),
          world.newId.2) := by
      simp [logAction, simulated, Moderation.now, Moderation.newId, Program.bind, Program.run,
        answerModeration, known]
    obtain ⟨logs, later⟩ := @ih world.newId.2 readable
    simp only [runActions, perform, simulated, if_true, Program.bind_eq, Program.pure_eq, run_bind,
      Program.run, logged]
    generalize (runActions deployment (case.when true) grounds rest).run (answerModeration stage)
      world.newId.2 = result at later ⊢
    obtain ⟨outcome, after⟩ := result
    cases later
    exact ⟨_, rfl⟩

/-- Where the clock shows a time in the end, it did so all along. -/
private theorem enact_simulated_returns (stage : Stage) (case : Case) (gate : Gate) (grounds : Grounds)
    (readable : ((enact stage.deployment (case.when true) gate grounds).run
      (answerModeration stage) world).2.clock?.isSome = true) :
    ∃ logs, ((enact stage.deployment (case.when true) gate grounds).run
      (answerModeration stage) world).1 = .ok logs := by
  simp only [World.clock?, enact_simulated_now] at readable
  rw [enact_simulated]
  exact runActions_simulated stage.deployment grounds (gate.actions case) readable

private theorem enact_run_enters {deployment : Deployment} {gate : Gate} {grounds : Grounds}
    {logs : List Log}
    (returned : ((enact deployment case gate grounds).run (answerModeration stage) world).1 = .ok logs) :
    List.Forall₂ (Enters case grounds) (gate.actions case) logs := by
  obtain ⟨exchanges, run⟩ := runs_run (answerModeration stage) (enact deployment case gate grounds) world
  rw [returned] at run
  exact enact_enters run

/-- Where the real run returns, the simulation returns as many entries, and they agree
one by one; the clock only has to show a time until the simulation is over. -/
theorem simulation_agrees (stage : Stage) (case : Case) (world : World) (logs : List Log)
    (returned : (runModeration stage (moderate stage.deployment (case.when false)) world).1 = .ok logs)
    (readable :
      (runModeration stage (moderate stage.deployment (case.when true)) world).2.clock?.isSome = true) :
    ∃ logs', (runModeration stage (moderate stage.deployment (case.when true)) world).1 = .ok logs' ∧
      List.Forall₂ Log.AgreesWith logs logs' := by
  obtain ⟨session, same⟩ := judge_simulated stage stage.deployment case world
  simp only [runModeration, moderate_eq, run_bind] at returned readable ⊢
  rw [same] at readable ⊢
  generalize (judge stage.deployment (case.when false)).run (answerModeration stage) world = judged
    at returned readable ⊢
  obtain ⟨result, after⟩ := judged
  cases result with
  | error failure => cases returned
  | ok verdict =>
    obtain ⟨gate, grounds⟩ := verdict
    simp only [inSession] at returned readable ⊢
    obtain ⟨logs', returned'⟩ := enact_simulated_returns stage case gate grounds readable
    have real := enact_run_enters returned
    have simulated := enact_run_enters returned'
    rw [actions_when] at real simulated
    exact ⟨logs', returned', entries_agree real simulated⟩

/-- A user on the bypass list is liked once, in the real run and in the simulation. -/
theorem listed_user_is_simulated :
    let stage : Stage := ⟨⟨default, ⟨[], .nil⟩, false, 60, 1⟩, 30, 5⟩
    let user : User := ⟨7, "ann", none, none, none, [], 0, 0, false, none, none⟩
    let channel : Channel := { (default : Channel) with bypassed := [⟨7, "ann", none⟩] }
    let case : Case := ⟨channel, user, none, false⟩
    let world : World := { now := 0 }
    ∃ log, (runModeration stage (moderate stage.deployment (case.when false)) world).1 = .ok [log] ∧
      (runModeration stage (moderate stage.deployment (case.when true)) world).2.clock?.isSome = true ∧
      ∃ logs', (runModeration stage (moderate stage.deployment (case.when true)) world).1 = .ok logs' ∧
        List.Forall₂ Log.AgreesWith [log] logs' := by
  intro stage user channel case world
  have returned : ∃ log,
      (runModeration stage (moderate stage.deployment (case.when false)) world).1 = .ok [log] := ⟨_, rfl⟩
  have readable :
      (runModeration stage (moderate stage.deployment (case.when true)) world).2.clock?.isSome = true := rfl
  obtain ⟨log, returned⟩ := returned
  exact ⟨log, returned, readable, simulation_agrees stage case world [log] returned readable⟩

end Curation.Rehearsal
