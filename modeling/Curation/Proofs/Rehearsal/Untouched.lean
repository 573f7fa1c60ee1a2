import Curation.Proofs.Rehearsal.Simulation
import Curation.Proofs.Rehearsal.Traffic

/-! Simulations change nothing. Whatever a simulation is answered, and whether it
returns or fails, the store is as it was, with nothing waiting to be committed, and
nobody was invited or banned and no cast hidden or shown again. -/
namespace Curation.Rehearsal

open Moderation
open Program (Asks)

variable {stage : Stage} {case : Case} {world : World} {α : Type}

/-- What a simulation asks: it reads, draws ids, and has rules evaluated for its own
case, but writes nothing. -/
def IsHarmless (case : Case) : Moderation.Ask → Prop
  | .remote ask => ask.isReading = true
  | .evaluate judged _ _ => judged = case
  | .tables | .clock | .newId => True
  | _ => False

namespace IsHarmless

theorem fetch {call : Remote.Fetch α} (reads : Remote.Reads call) :
    Asks (IsHarmless case) (ofFetch call) := reads.within

theorem now : Asks (IsHarmless case) Moderation.now := by
  refine .ask trivial fun time => ?_
  cases time with
  | none => exact .failed _
  | some moment => exact .done moment

theorem evaluate (rule : Rule) (strategy : OrStrategy) :
    Asks (IsHarmless case) (Moderation.evaluate case rule strategy) := by
  refine .ask rfl fun decided => ?_
  cases decided with
  | ok decision => exact .done decision
  | error failure => exact .failed failure

variable (deployment : Deployment) (case : Case)

theorem bypassReason? : Asks (IsHarmless case) (Moderation.bypassReason? deployment case) := by
  unfold Moderation.bypassReason?
  simp only [Program.bind_eq, Program.pure_eq]
  split
  · exact .done _
  · refine (fetch (Remote.Channels.owner_reads _ _)).bind fun owner => ?_
    split
    · exact .done _
    · split
      · refine .ask trivial fun tables => ?_
        simp only [Program.bind]
        split
        · exact .done _
        · exact .done _
      · exact .done _

theorem keptAwayReason? : Asks (IsHarmless case) (Moderation.keptAwayReason? case) := by
  unfold Moderation.keptAwayReason?
  split
  · exact .done _
  · exact .ask trivial fun tables => now.bind fun time => .done _

theorem judgeInclusion : Asks (IsHarmless case) (Moderation.judgeInclusion case) := by
  refine (evaluate _ _).bind fun included => ?_
  split
  · exact .done _
  · exact .done _

theorem judgeRules : Asks (IsHarmless case) (Moderation.judgeRules case) := by
  unfold Moderation.judgeRules
  simp only
  split
  · refine (evaluate _ _).bind fun excluded => ?_
    split
    · exact .done _
    · exact judgeInclusion case
  · exact judgeInclusion case

theorem judge : Asks (IsHarmless case) (Moderation.judge deployment case) := by
  refine (bypassReason? deployment case).bind fun bypass? => ?_
  split
  · exact .done _
  · refine (keptAwayReason? case).bind fun keptAway? => ?_
    split
    · exact .done _
    · split
      · exact judgeRules case
      · exact .done _

theorem moderate :
    Asks (IsHarmless (case.when true)) (Moderation.moderate deployment (case.when true)) := by
  rw [moderate_eq]
  refine (judge deployment (case.when true)).bind fun (gate, grounds) => ?_
  simp only [enact_simulated]
  refine (runActions_simulated_asks deployment grounds _).mono fun ask entering => ?_
  cases ask with
  | clock | newId => trivial
  | remote | evaluate | tables | write | commit | rollback | claim | release => cases entering

end IsHarmless

/-! ## In a rehearsal -/

/-- A leaf of a case's rules looks, or clears the logs of the user where nothing is
simulated. -/
theorem taskOf_asks (deployment : Deployment) (case : Case) (leaf : Condition) :
    (taskOf deployment case leaf).Asks fun ask =>
      ask.IsLooking ∨
        ask = .clearLogs case.channel.id (toString case.user.fid) ∧ case.simulation = false := by
  unfold taskOf
  cases found : Check.byName? leaf.name with
  | none => exact .failed _
  | some entry =>
    have listed : entry ∈ Check.catalogue := List.mem_of_find?_eq_some found
    exact Check.catalogue_asks (contextOf deployment case leaf) entry listed

/-- A simulated check only looks. -/
theorem taskOf_looks (deployment : Deployment) (case : Case) (simulated : case.simulation = true)
    (leaf : Condition) : Check.Looks (taskOf deployment case leaf) := by
  refine (taskOf_asks deployment case leaf).mono fun ask asked => ?_
  rcases asked with looking | ⟨-, real⟩
  · exact looking
  · rw [simulated] at real
    cases real

private theorem answer_comes (stage : Stage) (simulated : case.simulation = true) {ask : Moderation.Ask}
    (harmless : IsHarmless case ask) (calm : world.IsCalm) :
    ComesTo world (answerModeration stage ask world).2 := by
  cases ask with
  | remote ask =>
    cases ask with
    | isHeldBack service | report service success => exact .of_same calm rfl rfl rfl
    | send request =>
      have sent := send_comes calm harmless
      exact sent.trans (passTo_comes _ sent.calm)
  | evaluate judged rule strategy =>
    obtain rfl : judged = case := harmless
    exact Plan.evaluate_comes _ (taskOf_looks stage.deployment judged simulated) rule calm
  | tables | clock => exact .refl calm
  | newId => exact .of_same calm rfl rfl rfl
  | write | commit | rollback | claim | release => exact harmless.elim

private theorem run_comes (stage : Stage) {program : Moderation α} (asks : program.Asks (IsHarmless case))
    (simulated : case.simulation = true) (calm : world.IsCalm) :
    ComesTo world (program.run (answerModeration stage) world).2 := by
  induction asks generalizing world with
  | done | failed => exact .refl calm
  | @ask question next harmless _ ih =>
    have answered := answer_comes stage simulated harmless calm
    exact answered.trans (ih (answerModeration stage question world).1 answered.calm)

/-- A simulation leaves the store exactly as it is and sends no writing request,
however it ends. Only calls that earlier runs left under way have to be reading ones,
and this is so again afterwards. -/
theorem simulation_changes_nothing (stage : Stage) (case : Case) (world : World)
    (calm : world.IsCalm) :
    let after := ((moderate stage.deployment (case.when true)).run (answerModeration stage) world).2
    after.session = world.session ∧ after.IsCalm ∧
      ∃ requests, after.sent = requests ++ world.sent ∧
        ∀ request ∈ requests, ¬ Remote.Channels.IsWrite stage.deployment.directory request := by
  have comes := run_comes stage (IsHarmless.moderate stage.deployment case) rfl calm
  obtain ⟨requests, sent, reading⟩ := comes.sent
  refine ⟨comes.session, comes.calm, requests, sent, fun request listed writes => ?_⟩
  have writing := writes.not_reading
  rw [reading request listed] at writing
  cases writing

/-- The real run for a user on the bypass list may send an invitation; the simulation
sends none. -/
theorem listed_user_is_not_invited :
    let stage : Stage := ⟨⟨default, ⟨[], .nil⟩, true, 60, 1⟩, 30, 5⟩
    let user : User := ⟨7, "ann", none, none, none, [], 0, 0, false, none, none⟩
    let channel : Channel := { (default : Channel) with bypassed := [⟨7, "ann", none⟩] }
    let case : Case := ⟨channel, user, none, false⟩
    let world : World := { now := 0 }
    let after := ((moderate stage.deployment (case.when true)).run (answerModeration stage) world).2
    (∃ request, Remote.Channels.IsWrite stage.deployment.directory request ∧
        (moderate stage.deployment (case.when false)).MayAsk (.remote (.send request))) ∧
      world.IsCalm ∧ after.session = world.session ∧ after.IsCalm ∧
      ∃ requests, after.sent = requests ++ world.sent ∧
        ∀ request ∈ requests, ¬ Remote.Channels.IsWrite stage.deployment.directory request := by
  intro stage user channel case world after
  have calm : world.IsCalm := List.forall_mem_nil _
  have invited : ∃ request, Remote.Channels.IsWrite stage.deployment.directory request ∧
      (moderate stage.deployment (case.when false)).MayAsk (.remote (.send request)) :=
    ⟨_, ⟨channel.id, "", 7, _, .head _, .later (false : Bool) .now⟩, .later (false : Bool) .now⟩
  exact ⟨invited, calm, simulation_changes_nothing stage case world calm⟩

end Curation.Rehearsal
