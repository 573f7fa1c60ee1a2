import Curation.Proofs.Rehearsal.Orders

/-! An evaluation in which no check fails comes to what the declaration order says,
whatever the order in which its checks end, whichever way nodes that ask for any
child run, and however many checks may be at work at a time.

Where checks fail, there are two ways to run nodes that ask for any child. In order,
whether there is a decision and which one is settled by the leaves alone. At once, a
fault may come first, but a decision is never another one. -/
namespace Curation.Rehearsal

open Evaluation
open Evaluation.Node (Path)
open Rule (sequential)

variable {ε P : Type} {known : String → Bool} {outcomes : Path → Condition → Except ε Verdict}

/-! ## Without failures -/

/-- Every order of an evaluation ends, and in the value of its rule; and so does the
rehearsal of it, unless its time or its rounds run out. -/
theorem evaluation_follows_declaration [Inhabited P] (plan : Plan ε) (rule : Rule)
    (verdicts : Path → Condition → Verdict) (permitted : 1 ≤ plan.permits)
    (all_known : ∀ leaf ∈ rule.leaves, plan.manner.known leaf.name = true) :
    AlwaysEnds P plan.manner plan.permits (.verdicts ε verdicts) rule
        (· = .ok (rule.value verdicts)) ∧
      ((∀ path leaf, (plan.task leaf).Ensures (· = .ok (verdicts path leaf))) → ∀ world,
        (plan.evaluate rule world).1 = .error .overran ∨
          (plan.evaluate rule world).1 = .ok (rule.value verdicts)) := by
  constructor
  · exact alwaysEnds permitted (fun _ _ => ⟨_, rfl⟩) fun _ _ _ run ended =>
      run_value all_known run ended
  · intro keeps world
    rcases plan.evaluate_run (.verdicts ε verdicts) keeps rule world rfl with
      overran | ⟨moves, evaluation, run, ended⟩
    · exact .inl overran
    · exact .inr (run_value all_known run ended)

/-- Of two leaves the second passes, and one check at a time is enough to find out. -/
theorem either_leaf_decides :
    let closed : Condition := ⟨"closed", []⟩
    let open_ : Condition := ⟨"open", []⟩
    let rule : Rule := .group "or" [] .any [.condition closed, .condition open_]
    let verdict (leaf : Condition) : Verdict := ⟨leaf.name == "open", leaf.name⟩
    let plan : Plan String :=
      ⟨⟨fun name => name == "open" || name == "closed", .concurrent⟩, fun leaf => .done (verdict leaf),
        1, 30, 5⟩
    AlwaysEnds Unit plan.manner plan.permits (.verdicts String fun _ => verdict) rule
        (· = .ok ⟨true, "open", .condition open_⟩) ∧
      ((plan.evaluate rule {}).1 = .error .overran ∨
        (plan.evaluate rule {}).1 = .ok ⟨true, "open", .condition open_⟩) := by
  intro closed open_ rule verdict plan
  have follows := evaluation_follows_declaration (P := Unit) plan rule (fun _ => verdict)
    (by decide) (by simp [rule, plan, closed, open_, Rule.leaves, Rule.leavesOf])
  exact ⟨follows.1, follows.2 (fun _ _ => .done rfl) {}⟩

/-! ## In order and at once -/

variable {rule : Rule}

/-- In order, faults come where the declaration order has one. -/
private theorem inOrder_right {outcome : Except (EvaluationFault ε) Decision}
    (right : Right known .shortCircuit outcomes rule outcome) :
    outcome.toOption = sequential known outcomes rule := by
  cases outcome with
  | ok decision => exact right.symm
  | error fault => exact (right.2 rfl).symm

private theorem eq_of_toOption {outcome : Except (EvaluationFault ε) Decision} {decision : Decision}
    (same : outcome.toOption = some decision) : outcome = .ok decision := by
  cases outcome with
  | ok other => cases same; rfl
  | error fault => cases same

private theorem inOrder_alwaysEnds [Inhabited P] {permits : Nat} (permitted : 1 ≤ permits) :
    AlwaysEnds P ⟨known, .shortCircuit⟩ permits (.of outcomes) rule
      (·.toOption = sequential known outcomes rule) :=
  alwaysEnds permitted (fun _ _ => ⟨_, rfl⟩) fun _ _ _ run ended => inOrder_right (run.right ended)

private theorem inOrder_evaluate (rule : Rule) {plan : Plan ε}
    (manner : plan.manner = ⟨known, .shortCircuit⟩)
    (keeps : ∀ path leaf, (plan.task leaf).Ensures (· = outcomes path leaf)) (world : World) :
    (plan.evaluate rule world).1 = .error .overran ∨
      (plan.evaluate rule world).1.toOption = sequential known outcomes rule := by
  rcases plan.evaluate_run (.of outcomes) keeps rule world rfl with
    overran | ⟨moves, evaluation, run, ended⟩
  · exact .inl overran
  · rw [manner] at run
    exact .inr (inOrder_right (run.right ended))

/-- In order, every order ends in the same decision or all end in faults; and what
some order at once decides, every order in order decides as well. So do
rehearsals, unless their time or their rounds run out. -/
theorem strategies_agree [Inhabited P] (known : String → Bool)
    (outcomes : Path → Condition → Except ε Verdict) (rule : Rule) :
    (∃ decision?,
      (∀ permits, 1 ≤ permits →
        AlwaysEnds P ⟨known, .shortCircuit⟩ permits (.of outcomes) rule
          (·.toOption = decision?)) ∧
      ∀ (plan : Plan ε) world, plan.manner = ⟨known, .shortCircuit⟩ →
        (∀ path leaf, (plan.task leaf).Ensures (· = outcomes path leaf)) →
        (plan.evaluate rule world).1 = .error .overran ∨
          (plan.evaluate rule world).1.toOption = decision?) ∧
    (∀ permits moves (evaluation : Evaluation P ε) decision,
      Run ⟨known, .concurrent⟩ permits (.of outcomes) rule moves evaluation →
      evaluation.tree.outcome? = some (.ok decision) →
      ∀ permits, 1 ≤ permits →
        AlwaysEnds P ⟨known, .shortCircuit⟩ permits (.of outcomes) rule (· = .ok decision)) ∧
    ∀ (atOnce inOrder : Plan ε) world world' decision,
      atOnce.manner = ⟨known, .concurrent⟩ → inOrder.manner = ⟨known, .shortCircuit⟩ →
      (∀ path leaf, (atOnce.task leaf).Ensures (· = outcomes path leaf)) →
      (∀ path leaf, (inOrder.task leaf).Ensures (· = outcomes path leaf)) →
      (atOnce.evaluate rule world).1 = .ok decision →
        (inOrder.evaluate rule world').1 = .error .overran ∨
          (inOrder.evaluate rule world').1 = .ok decision := by
  refine ⟨⟨sequential known outcomes rule, fun _ permitted => inOrder_alwaysEnds permitted,
    fun plan world manner keeps => inOrder_evaluate rule manner keeps world⟩, ?_, ?_⟩
  · intro _ moves evaluation decision run ended permits permitted
    have decided : sequential known outcomes rule = some decision := run.right ended
    have ends : AlwaysEnds P ⟨known, .shortCircuit⟩ permits (.of outcomes) rule
        (·.toOption = sequential known outcomes rule) := inOrder_alwaysEnds permitted
    rw [decided] at ends
    exact { ends with
      right := fun moves evaluation outcome run ended =>
        eq_of_toOption (ends.right moves evaluation outcome run ended) }
  · intro atOnce inOrder world world' decision concurrent shortCircuit keeps keeps' decided
    rcases atOnce.evaluate_run (.of outcomes) keeps rule world decided with
      overran | ⟨moves, evaluation, run, ended⟩
    · cases overran
    rw [concurrent] at run
    have decided : sequential known outcomes rule = some decision := run.right ended
    have same := inOrder_evaluate rule shortCircuit keeps' world'
    rw [decided] at same
    exact same.imp_right eq_of_toOption

/-- The second leaf fails, but at once the first one may pass before; then it passes
in order as well. -/
theorem first_leaf_decides :
    let first : Condition := ⟨"first", []⟩
    let rule : Rule := .group "or" [] .any [.condition first, .condition ⟨"second", []⟩]
    let outcomes (_ : Path) (leaf : Condition) : Except String Verdict :=
      if leaf.name = "first" then .ok ⟨true, "fine"⟩ else .error "broken"
    let decision : Decision := ⟨true, "fine", .condition first⟩
    let manner (strategy : OrStrategy) : Manner := ⟨fun _ => true, strategy⟩
    ∃ moves, ∃ evaluation : Evaluation Unit String,
      Run (manner .concurrent) 1 (.of outcomes) rule moves evaluation ∧
      evaluation.tree.outcome? = some (.ok decision) ∧
      AlwaysEnds Unit (manner .shortCircuit) 1 (.of outcomes) rule (· = .ok decision) := by
  intro first rule outcomes decision manner
  have begun : Run (manner .concurrent) 1 (.of outcomes) rule 0
    (.begin_ (manner .concurrent) rule : Evaluation Unit String) := .start
  have new : ([0], first) ∈ (.begin_ (manner .concurrent) rule : Evaluation Unit String).newcomers :=
    mem_newcomers.mpr (mem_leaves_iff.mp ⟨1, .head _⟩)
  have said : Says.of outcomes [0] first (.ok ⟨true, "fine"⟩) := rfl
  have atWork := (begun.move (.lineUp new)).move (.letIn () rfl)
  have ended := atWork.move (.finish (.head _) said)
  have decided := ended.move (.decide (.race rfl))
  have agree := strategies_agree (P := Unit) (fun _ => true) outcomes rule
  exact ⟨_, _, decided, rfl, agree.2.1 _ _ _ decision decided rfl 1 (Nat.le_refl 1)⟩

end Curation.Rehearsal
