import Curation.Proofs.Evaluation.Faults

/-! The node that a decision names. A failure is the root's own. A pass is that of a
node below nodes that ask for any of their children only: each of these hands on the
decision of its first child that passes as it stands, and a node that passes otherwise
names itself. So that node comes to the same decision where nothing else is evaluated. -/
namespace Curation

open Evaluation
open Evaluation.Node (Path)

namespace Rule

/-- A node with only nodes that ask for any of their children above it. -/
inductive UnderAny (node : Rule) : Path → Rule → Prop where
  | here : UnderAny node [] node
  | child {path : Path} {name : String} {args : Json.Members} {before after : List Rule} {child : Rule} :
    UnderAny node path child →
    UnderAny node (before.length :: path) (.group name args .any (before ++ child :: after))

theorem UnderAny.ruleAt {node rule : Rule} {place : Path} (under : UnderAny node place rule) :
    RuleAt node place rule := by
  induction under with
  | here => exact .here
  | child _ ih => exact .child ih

theorem leaves_ruleAt {node rule : Rule} {place : Path} (at_ : RuleAt node place rule) :
    ∀ leaf ∈ node.leaves, leaf ∈ rule.leaves := by
  induction at_ with
  | here => exact fun _ member => member
  | child _ ih => exact fun leaf member => mem_leavesOf_append _ _ _ (ih leaf member)

/-- A node that does not ask for any of its children: a condition, or one that asks for all. -/
def IsFirm (node : Rule) : Prop :=
  (∃ leaf, node = .condition leaf) ∨ ∃ name args children, node = .group name args .all children

/-- The verdicts of the leaves below a place. -/
def ofPlace (place : Path) (verdicts : Path → Condition → Verdict) : Path → Condition → Verdict :=
  fun path => verdicts (place ++ path)

/-- The node that a decision names is at this place, and comes to the decision by itself. -/
structure Settles (verdicts : Path → Condition → Verdict) (rule : Rule) (decision : Decision)
    (place : Path) : Prop where
  under : UnderAny decision.rule place rule
  firm : decision.rule.IsFirm
  alone : decision.rule.value (ofPlace place verdicts) = decision

/-! ## Nodes above a decision -/

private theorem conjunction_rule (rule : Rule) (children : List Decision) :
    (conjunction rule children).rule = rule := by
  unfold conjunction
  split
  · rfl
  · rfl

private theorem disjunction_cases (rule : Rule) (children : List Decision) :
    (∃ passing ∈ children, passing.passed = true ∧ disjunction rule children = passing) ∨
      ((disjunction rule children).passed = false ∧ (disjunction rule children).rule = rule) := by
  unfold disjunction
  split
  · rename_i passing first
    exact .inl ⟨passing, List.mem_of_find?_eq_some first, List.find?_some first, rfl⟩
  · exact .inr ⟨rfl, rfl⟩
  · exact .inr ⟨rfl, rfl⟩

/-- A rule that fails is itself what decides. -/
theorem value_failed {verdicts : Path → Condition → Verdict} {rule : Rule}
    (failed : (rule.value verdicts).passed = false) : (rule.value verdicts).rule = rule := by
  cases rule with
  | condition leaf => rfl
  | group name args operation children =>
    unfold value at failed ⊢
    split
    · rfl
    · rename_i some_rule
      cases operation with
      | all => exact conjunction_rule _ _
      | any =>
        simp only [some_rule] at failed
        rcases disjunction_cases (.group name args .any children) (values verdicts 0 children) with
          ⟨passing, -, passes, same⟩ | ⟨-, own⟩
        · rw [← same] at passes
          exact absurd (passes.symm.trans failed) nofun
        · exact own

/-- What settles a child settles a node that asks for any. -/
theorem Settles.child {verdicts : Path → Condition → Verdict} {before after : List Rule} {child : Rule}
    {decision : Decision} {place : Path}
    (settles : Settles (ofChild before.length verdicts) child decision place) (name : String)
    (args : Json.Members) :
    Settles verdicts (.group name args .any (before ++ child :: after)) decision
      (before.length :: place) where
  under := .child settles.under
  firm := settles.firm
  alone := settles.alone

mutual
/-- Where a rule passes, the node that the decision names settles it. -/
theorem value_passed (verdicts : Path → Condition → Verdict) : (rule : Rule) →
    (rule.value verdicts).passed = true → ∃ place, Settles verdicts rule (rule.value verdicts) place
  | .condition leaf, _ => ⟨[], .here, .inl ⟨leaf, rfl⟩, rfl⟩
  | .group name args .all children, passed => by
    have own : (value verdicts (.group name args .all children)).rule = .group name args .all children := by
      unfold value
      split
      · rfl
      · exact conjunction_rule _ _
    refine ⟨[], ?_, .inr ⟨name, args, children, own⟩, ?_⟩
    · rw [own]
      exact .here
    · rw [own]
      rfl
  | .group name args .any children, passed => by
    unfold value at passed ⊢
    split at passed
    · cases passed
    · rename_i some_rule
      rcases disjunction_cases (.group name args .any children) (values verdicts 0 children) with
        ⟨passing, member, passes, same⟩ | ⟨failed, -⟩
      · obtain ⟨before, child, after, place, rfl, settles⟩ :=
          values_passed verdicts 0 children passing member passes
        rw [Nat.zero_add] at settles
        refine ⟨before.length :: place, ?_⟩
        simp only [some_rule, same]
        exact settles.child name args
      · exact absurd (passed.symm.trans failed) nofun

theorem values_passed (verdicts : Path → Condition → Verdict) (position : Nat) : (rules : List Rule) →
    ∀ decision ∈ values verdicts position rules, decision.passed = true →
      ∃ before child after place, rules = before ++ child :: after ∧
        Settles (ofChild (position + before.length) verdicts) child decision place
  | [], decision, member, _ => by cases member
  | rule :: rest, decision, member, passes => by
    rcases List.mem_cons.mp member with rfl | later
    · obtain ⟨place, settles⟩ := value_passed (ofChild position verdicts) rule passes
      exact ⟨[], rule, rest, place, rfl, settles⟩
    · obtain ⟨before, child, after, place, rfl, settles⟩ :=
        values_passed verdicts (position + 1) rest decision later passes
      refine ⟨rule :: before, child, after, place, rfl, ?_⟩
      rw [Nat.add_right_comm] at settles
      exact settles
end

end Rule

namespace Evaluation

variable {ε P : Type} {known : String → Bool} {verdicts : Path → Condition → Verdict} {rule : Rule}

/-- Whichever way nodes that ask for any child run and however many checks may be at work, every
order of an evaluation ends, and in this decision. -/
def ComesTo (P ε : Type) (known : String → Bool) (verdicts : Path → Condition → Verdict) (rule : Rule)
    (decision : Decision) : Prop :=
  ∀ strategy permits, 1 ≤ permits →
    AlwaysEnds P ⟨known, strategy⟩ permits (.verdicts ε verdicts) rule (· = .ok decision)

/-- The node that a decision names justifies it: it is the root where the rule fails; where it passes,
the node is a condition or asks for all its children, and evaluated alone it comes to this decision. -/
structure Justified (P ε : Type) (known : String → Bool) (verdicts : Path → Condition → Verdict)
    (rule : Rule) (decision : Decision) : Prop where
  failed : decision.passed = false → decision.rule = rule
  passed : decision.passed = true → ∃ place, Rule.UnderAny decision.rule place rule ∧
    decision.rule.IsFirm ∧ ComesTo P ε known (Rule.ofPlace place verdicts) decision.rule decision

/-- An evaluation in which no check fails has ended in this decision. -/
structure Reaches (P ε : Type) (known : String → Bool) (strategy : OrStrategy)
    (verdicts : Path → Condition → Verdict) (rule : Rule) (decision : Decision) : Prop where
  all_known : ∀ leaf ∈ rule.leaves, known leaf.name = true
  ended : ∃ permits moves, ∃ evaluation : Evaluation P ε,
    Run ⟨known, strategy⟩ permits (.verdicts ε verdicts) rule moves evaluation ∧
      evaluation.tree.outcome? = some (.ok decision)

theorem comesTo_value [Inhabited P] (all_known : ∀ leaf ∈ rule.leaves, known leaf.name = true) :
    ComesTo P ε known verdicts rule (rule.value verdicts) :=
  fun _ _ permitted => alwaysEnds permitted (fun _ _ => ⟨_, rfl⟩) fun _ _ _ run ended =>
    run_value all_known run ended

/-- What a rule comes to is justified by the node that it names. -/
theorem value_justified [Inhabited P] (all_known : ∀ leaf ∈ rule.leaves, known leaf.name = true) :
    Justified P ε known verdicts rule (rule.value verdicts) where
  failed := Rule.value_failed
  passed := by
    intro passes
    obtain ⟨place, settles⟩ := Rule.value_passed verdicts rule passes
    have inside : ∀ leaf ∈ (rule.value verdicts).rule.leaves, known leaf.name = true :=
      fun leaf member => all_known leaf (Rule.leaves_ruleAt settles.under.ruleAt leaf member)
    have comes : ComesTo P ε known (Rule.ofPlace place verdicts) (rule.value verdicts).rule _ :=
      comesTo_value inside
    rw [settles.alone] at comes
    exact ⟨place, settles.under, settles.firm, comes⟩

theorem Reaches.eq_value {strategy : OrStrategy} {decision : Decision}
    (reaches : Reaches P ε known strategy verdicts rule decision) : decision = rule.value verdicts := by
  obtain ⟨permits, moves, evaluation, run, ended⟩ := reaches.ended
  have same := run_value reaches.all_known run ended
  cases same
  rfl

end Evaluation

end Curation
