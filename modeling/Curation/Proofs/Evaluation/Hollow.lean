import Curation.Proofs.Evaluation.Justification

/-! Trees without leaves. Whether a rule has conditions is read off its root, so a node whose
children lead down to no leaf counts as having some. It can never pass: where nothing is
checked, the nodes without children fail, and all above them with them. -/
namespace Curation

open Evaluation
open Evaluation.Node (Path At Has)

namespace Rule

/-- A node with children, none of which leads down to a leaf. -/
def IsHollow : Rule → Prop
  | .condition _ => False
  | .group _ _ _ children => children ≠ [] ∧ leavesOf children = []

/-- A rule has conditions where it has a leaf, and where it is hollow. -/
theorem hasConditions_iff (rule : Rule) : rule.hasConditions = true ↔ rule.leaves ≠ [] ∨ rule.IsHollow := by
  cases rule with
  | condition leaf => simp [hasConditions, leaves]
  | group name args operation children =>
    cases children with
    | nil => simp [hasConditions, leaves, leavesOf, IsHollow]
    | cons child rest =>
      by_cases bare : leavesOf (child :: rest) = []
      · simp [hasConditions, leaves, IsHollow, bare]
      · simp [hasConditions, leaves, bare]

theorem IsHollow.bare {rule : Rule} (hollow : rule.IsHollow) : rule.leaves = [] := by
  cases rule with
  | condition => exact hollow.elim
  | group => exact hollow.2

/-- Why a tree without leaves fails. -/
inductive Vacancy : String → Prop where
  | childless : Vacancy "No rules"
  | all (explanations : List String) : (∀ explanation ∈ explanations, Vacancy explanation) →
    Vacancy ("Failed all checks: " ++ ", ".intercalate explanations)

/-- What a tree without leaves comes to. -/
def vacancy (rule : Rule) : Decision := rule.value fun _ _ => ⟨false, ""⟩

/-- A decision against something for want of anything to check. -/
structure IsVacant (decision : Decision) : Prop where
  failed : decision.passed = false
  explained : Vacancy decision.explanation

private theorem conjunction_vacant (rule : Rule) {children : List Decision} (some_child : children ≠ [])
    (vacant : ∀ child ∈ children, IsVacant child) : IsVacant (conjunction rule children) := by
  cases children with
  | nil => exact absurd rfl some_child
  | cons child rest =>
    have first := vacant child (.head _)
    simp only [conjunction, List.find?_cons, first.failed]
    exact ⟨rfl, first.explained⟩

private theorem disjunction_vacant (rule : Rule) {children : List Decision}
    (vacant : ∀ child ∈ children, IsVacant child) : IsVacant (disjunction rule children) := by
  have none_passes : children.find? (·.passed) = none := by
    refine List.find?_eq_none.mpr fun child member => ?_
    simp [(vacant child member).failed]
  unfold disjunction
  rw [none_passes]
  split
  · contradiction
  · exact ⟨rfl, (vacant _ (.head _)).explained⟩
  · refine ⟨rfl, .all _ fun explanation listed => ?_⟩
    obtain ⟨child, member, rfl⟩ := List.mem_map.mp listed
    exact (vacant child member).explained

mutual
/-- A tree without leaves comes to a failure, whatever is said about leaves. -/
theorem value_vacant (verdicts : Path → Condition → Verdict) :
    (rule : Rule) → rule.leaves = [] → IsVacant (rule.value verdicts)
  | .condition leaf, bare => nomatch bare
  | .group name args operation children, bare => by
    have each := values_vacant verdicts 0 children bare
    unfold value
    split
    · exact ⟨rfl, .childless⟩
    · rename_i some_child
      cases operation with
      | any => exact disjunction_vacant _ each
      | all =>
        refine conjunction_vacant _ ?_ each
        cases children with
        | nil => exact absurd rfl some_child
        | cons => exact List.cons_ne_nil _ _

theorem values_vacant (verdicts : Path → Condition → Verdict) (position : Nat) :
    (rules : List Rule) → leavesOf rules = [] → ∀ decision ∈ values verdicts position rules, IsVacant decision
  | [], _, decision, member => nomatch member
  | rule :: rest, bare, decision, member => by
    obtain ⟨here, later⟩ := List.append_eq_nil_iff.mp bare
    rcases List.mem_cons.mp member with rfl | member
    · exact value_vacant (ofChild position verdicts) rule here
    · exact values_vacant verdicts (position + 1) rest later decision member
end

end Rule

/-! ## Evaluating a tree without leaves -/

namespace Evaluation

variable {L P ε : Type} {known : String → Bool} {strategy : OrStrategy}
  {outcomes : Path → Condition → Except ε Verdict} {rule : Rule} {node : Node L ε}

/-- An open leaf is one of the rule. -/
theorem StandsFor.leaf_mem {leaf : Condition} {state : L} {path : Path}
    (stands : StandsFor known strategy outcomes rule node) (at_ : At leaf state path node) :
    leaf ∈ rule.leaves := by
  obtain ⟨rule', there, stands⟩ := stands.at_place at_.has
  cases stands with
  | open_ => exact Rule.leaves_ruleAt there leaf (.head _)

theorem StandsFor.no_leaf {leaf : Condition} {state : L} {path : Path}
    (stands : StandsFor known strategy outcomes rule node) (bare : rule.leaves = []) :
    ¬ At leaf state path node := by
  intro at_
  have member := stands.leaf_mem at_
  rw [bare] at member
  cases member

/-- A node that stands for a tree without leaves, by verdicts that nobody asks for. -/
abbrev StandsForBare (known : String → Bool) (strategy : OrStrategy) (rule : Rule) (node : Node L ε) : Prop :=
  StandsFor known strategy (fun _ _ => .ok ⟨false, ""⟩) rule node

theorem StandsForBare.vacancy (stands : StandsForBare known strategy rule node) (bare : rule.leaves = [])
    {outcome : Except (EvaluationFault ε) Decision} (ended : node.outcome? = some outcome) :
    outcome = .ok rule.vacancy := by
  have all_known : ∀ leaf ∈ rule.leaves, known leaf.name = true := by simp [bare]
  cases stands with
  | open_ | all | race | inOrder => cases ended
  | ended right =>
    cases ended
    cases outcome with
    | error fault => exact absurd right.1 (not_raises all_known)
    | ok decision =>
      simp only [Right, Rule.sequential_eq_value _ rule all_known] at right
      cases right
      rfl

variable {manner : Manner} {permits moves : Nat} {may : Says ε} {evaluation : Evaluation P ε}

/-- Without leaves there is nothing that the order of an evaluation depends on. -/
theorem Run.standsForBare (run : Run manner permits may rule moves evaluation) (bare : rule.leaves = []) :
    StandsForBare manner.known manner.strategy rule evaluation.tree := by
  induction run with
  | start => exact start_standsFor _ rule
  | move _ move ih =>
    cases move with
    | lineUp new => exact absurd (mem_newcomers.mp new) (ih.no_leaf bare)
    | letIn call first => exact absurd (next?_some first).1 (ih.no_leaf bare)
    | finish member => exact absurd (mem_working.mp member) (ih.no_leaf bare)
    | decide decides => exact Decides.standsFor decides ih
  | goOn _ goes ih =>
    cases goes with
    | at_work call member => exact absurd (mem_working.mp member) (ih.no_leaf bare)

end Evaluation

end Curation
