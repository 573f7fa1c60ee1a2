import Curation.Proofs.Evaluation.Hollow
import Curation.Proofs.Rehearsal.Orders

/-! Rehearsals of trees without leaves. Nothing is called, so all that happens is that the tree is
settled, again and again while children begin in the place of others that failed. Each time there
is less left to do, and it ends before the clock goes on. -/
namespace Curation

namespace Evaluation

namespace Node

variable {L P ε : Type} {begin_ : Rule → Node L ε} {node node' : Node L ε}

/-! ## Settling until nothing is left to decide -/

private theorem unsettled_among (before : List (Node L ε)) {child : Node L ε} (after : List (Node L ε))
    (unsettled : child.isSettled = false) : isSettledEach (before ++ child :: after) = false := by
  induction before with
  | nil => simp [isSettledEach, unsettled]
  | cons node rest ih => simp [isSettledEach, ih]

/-- Where a node can decide, something is left to decide. -/
theorem Decides.unsettled (decides : Decides begin_ node node') : node.isSettled = false := by
  induction decides with
  | all settled | race settled => simp [isSettled, settled, outcome?]
  | allFault member =>
    obtain ⟨fault, first⟩ := exists_firstFault? member
    simp [isSettled, settleAll, first, outcome?]
  | raceFault member =>
    obtain ⟨fault, first⟩ := exists_firstFault? member
    simp [isSettled, settleRace, first, outcome?]
  | inOrder => simp [isSettled, outcome?]
  | inAll _ ih | inRace _ ih => simp [isSettled, unsettled_among _ _ ih]
  | inCurrent _ ih => simp [isSettled, ih]

private theorem settleAll_cases (rule : Rule) (children : List (Node L ε)) :
    settleAll rule children = .all rule children ∨ ∃ outcome, settleAll rule children = .ended outcome := by
  unfold settleAll
  split
  · exact .inr ⟨_, rfl⟩
  · split
    · exact .inr ⟨_, rfl⟩
    · exact .inl rfl

private theorem settleRace_cases (rule : Rule) (children : List (Node L ε)) :
    settleRace rule children = .race rule children ∨ ∃ outcome, settleRace rule children = .ended outcome := by
  unfold settleRace
  split
  · exact .inr ⟨_, rfl⟩
  · simp only
    split
    · exact .inr ⟨_, rfl⟩
    · split
      · exact .inr ⟨_, rfl⟩
      · exact .inl rfl

private theorem settleInOrder_open {current : Node L ε} (open_ : current.outcome? = none) (rule : Rule)
    (failures : List Decision) (rest : List Rule) :
    settleInOrder begin_ rule failures current rest = .inOrder rule failures current rest := by
  cases current with
  | ended => cases open_
  | open_ | all | race | inOrder => rw [settleInOrder] <;> simp

mutual
/-- A tree that settling leaves as it is has nothing left to decide. -/
theorem isSettled_of_settle (manner : Manner) :
    (node : Node (Slot P) ε) → settle manner.start node = node → node.isSettled = true
  | .open_ _ _, _ => rfl
  | .ended _, _ => rfl
  | .all rule children, same => by
    rw [settle] at same
    rcases settleAll_cases rule (settleEach manner.start children) with stays | ⟨outcome, ended⟩
    · obtain ⟨-, each⟩ := Node.all.inj (stays.symm.trans same)
      rw [each] at stays
      rw [isSettled, isSettledEach_of_settleEach manner children each, stays]
      rfl
    · cases ended.symm.trans same
  | .race rule children, same => by
    rw [settle] at same
    rcases settleRace_cases rule (settleEach manner.start children) with stays | ⟨outcome, ended⟩
    · obtain ⟨-, each⟩ := Node.race.inj (stays.symm.trans same)
      rw [each] at stays
      rw [isSettled, isSettledEach_of_settleEach manner children each, stays]
      rfl
    · cases ended.symm.trans same
  | .inOrder rule failures current rest, same => by
    rw [settle] at same
    cases known : (settle manner.start current).outcome? with
    | none =>
      rw [settleInOrder_open known] at same
      obtain ⟨-, -, still, -⟩ := Node.inOrder.inj same
      rw [still] at known
      rw [isSettled, isSettled_of_settle manner current still, known]
      rfl
    | some outcome =>
      -- The current child has ended, and what comes of that has less left to do.
      generalize settle manner.start current = settled at known same
      cases settled with
      | ended outcome =>
        have decides : Decides manner.start (.inOrder rule failures (.ended outcome) rest : Node (Slot P) ε)
            (settleInOrder manner.start rule failures (.ended outcome) rest) := .inOrder
        have less := decides.left_lt
        rw [same] at less
        simp only [left] at less
        omega
      | open_ | all | race | inOrder => cases known

theorem isSettledEach_of_settleEach (manner : Manner) :
    (nodes : List (Node (Slot P) ε)) → settleEach manner.start nodes = nodes → isSettledEach nodes = true
  | [], _ => rfl
  | node :: rest, same => by
    obtain ⟨here, later⟩ := List.cons.inj same
    rw [isSettledEach, isSettled_of_settle manner node here, isSettledEach_of_settleEach manner rest later]
    rfl
end

/-- Settling takes something from what there is left to do, where something is left to decide. -/
theorem left_settle {manner : Manner} {node : Node (Slot P) ε} (unsettled : node.isSettled = false) :
    left (settle manner.start node) < left node := by
  have steps := settle_steps manner.start node
  cases steps.cases_head with
  | inl same =>
    have settled := isSettled_of_settle manner node same.symm
    rw [unsettled] at settled
    cases settled
  | inr begun =>
    obtain ⟨first, decides, later⟩ := begun
    have less := decides.left_lt
    generalize settle manner.start node = settled at later
    induction later with
    | refl => exact less
    | tail _ last ih => exact Nat.lt_trans last.left_lt ih

end Node

theorem StandsFor.settle {P ε : Type} {manner : Manner} {outcomes : Node.Path → Condition → Except ε Verdict}
    {rule : Rule} {node : Node (Slot P) ε} (stands : StandsFor manner.known manner.strategy outcomes rule node) :
    StandsFor manner.known manner.strategy outcomes rule (Node.settle manner.start node) := by
  have steps := Node.settle_steps manner.start node
  generalize Node.settle manner.start node = settled at steps
  induction steps with
  | refl => exact stands
  | tail _ last ih => exact Decides.standsFor last ih

end Evaluation

/-! ## Rounds of a rehearsal -/

namespace Rehearsal

open Evaluation
open Evaluation.Node (At left leftOfRule)

variable {ε : Type} {rule : Rule} {evaluation : Evaluation (Call ε) ε}

/-- Nobody is new, in line or at work in an evaluation without open leaves. -/
private theorem nobody (closed : ∀ leaf slot path, ¬ At leaf slot path evaluation.tree) :
    evaluation.lineUp = evaluation ∧ evaluation.working = [] ∧ evaluation.line = [] := by
  have new : evaluation.newcomers = [] :=
    List.eq_nil_iff_forall_not_mem.mpr fun _ member => closed _ _ _ (mem_newcomers.mp member)
  have working : evaluation.working = [] :=
    List.eq_nil_iff_forall_not_mem.mpr fun _ member => closed _ _ _ (mem_working.mp member)
  have line : evaluation.line = [] :=
    List.eq_nil_iff_forall_not_mem.mpr fun _ member => closed _ _ _ (mem_line.mp member)
  refine ⟨?_, working, line⟩
  rw [Evaluation.lineUp, new]
  rfl

private theorem carryOn_bare (plan : Plan ε) (bare : rule.leaves = []) (budget : Budget) (deadline : Number)
    (rounds : Nat) (state : State ε)
    (stands : StandsForBare plan.manner.known plan.manner.strategy rule state.evaluation.tree)
    (noted : state.evaluation.tree.isSettled = true ∨ state.isUnsettled = true)
    (enough : left state.evaluation.tree < rounds) :
    (plan.carryOn budget deadline rounds state).1 = .ok rule.vacancy := by
  induction rounds generalizing state with
  | zero => exact absurd enough (Nat.not_lt_zero _)
  | succ rounds ih =>
    have closed (leaf slot path) : ¬ At leaf slot path state.evaluation.tree := stands.no_leaf bare
    obtain ⟨lined_up, working, line⟩ := nobody closed
    have nobody_next : state.evaluation.next? plan.permits = none := by
      simp only [next?, line, lowest?, ite_self]
    have nobody_due : state.due? = none := by
      simp only [State.due?, working, List.find?_nil]
    simp only [Plan.carryOn, lined_up, nobody_next, nobody_due]
    cases ended : state.evaluation.tree.outcome? with
    | some outcome => exact stands.vacancy bare ended
    | none =>
      have unsettled : state.evaluation.tree.isSettled = false := by
        rcases Node.can_go_on plan.manner.start _ ended with ⟨path, leaf, slot, at_⟩ | ⟨_, decides⟩
        · exact absurd at_ (closed leaf slot path)
        · exact decides.unsettled
      have flagged : state.isUnsettled = true := by
        rcases noted with settled | flagged
        · rw [unsettled] at settled
          cases settled
        · exact flagged
      simp only [flagged, if_true]
      have less : left (state.evaluation.settle plan.manner).tree < left state.evaluation.tree :=
        Node.left_settle unsettled
      refine ih (state.settle plan.manner) stands.settle ?_ (Nat.lt_of_lt_of_le less (Nat.le_of_lt_succ enough))
      have noted : (state.settle plan.manner).isUnsettled =
          !(state.settle plan.manner).evaluation.tree.isSettled := rfl
      rw [noted]
      cases (state.settle plan.manner).evaluation.tree.isSettled with
      | true => exact .inl rfl
      | false => exact .inr rfl

/-- Where a rehearsal of a tree without leaves comes to a decision, it is the value of the tree. -/
theorem Plan.evaluate_bare_eq (plan : Plan ε) (bare : rule.leaves = []) {world : World} {decision : Decision}
    (ended : (plan.evaluate rule world).1 = .ok decision) : decision = rule.vacancy := by
  have any (task : Task ε Verdict) : task.Ensures fun _ => True := by
    induction task with
    | done | failed => constructor; trivial
    | ask question next ih => exact .ask ih
  rcases plan.evaluate_run (fun _ _ _ => True) (fun _ leaf => any (plan.task leaf)) rule world ended with
    overran | ⟨moves, evaluation, run, decided⟩
  · cases overran
  · exact Except.ok.inj ((run.standsForBare bare).vacancy bare decided)

/-- With some time and rounds enough, a rehearsal of a tree without leaves comes to its value. -/
theorem Plan.evaluate_bare (plan : Plan ε) (bare : rule.leaves = []) (timely : plan.limit.le 0 = false)
    (small : leftOfRule rule < rounds) (world : World) :
    (plan.evaluate rule world).1 = .ok rule.vacancy := by
  have begun : left (plan.manner.start rule : Node (Slot (Call ε)) ε) ≤ leftOfRule rule :=
    Node.left_start plan.manner rule
  unfold Plan.evaluate
  rw [timely]
  exact carryOn_bare plan bare _ _ rounds _ (start_standsFor _ rule) (.inr rfl) (Nat.lt_of_le_of_lt begun small)

end Rehearsal

end Curation
