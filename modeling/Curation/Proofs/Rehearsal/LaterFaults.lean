import Curation.Proofs.Evaluation.Faults
import Curation.Proofs.Rehearsal.Orders

/-! What a fault declared after a pass does to a node that asks for any child at
once. The children before the first that passes all fail, so the decision is
there; but the node looks at every child that has ended before it looks for the
decision, and a fault of a later child that ended no later than the decision is
passed on instead of it. -/
namespace Curation.Rehearsal

open Evaluation
open Evaluation.Node (Path Has Decides)
open Rule (sequential sequentials)

variable {ε P : Type}

/-- Some leaf below a child past this position fails, or names no known check. -/
def RaisesPast (position : Nat) (known : String → Bool)
    (outcomes : Path → Condition → Except ε Verdict) (rule : Rule) : Prop :=
  ∃ later path leaf, position < later ∧ LeafAt leaf (later :: path) rule ∧
    (known leaf.name = false ∨ ∃ fault, outcomes (later :: path) leaf = .error fault)

/-- No leaf fails below the children up to this position. -/
def QuietUpTo (position : Nat) (known : String → Bool)
    (outcomes : Path → Condition → Except ε Verdict) (rule : Rule) : Prop :=
  ∀ earlier path leaf, earlier ≤ position → LeafAt leaf (earlier :: path) rule →
    known leaf.name = true ∧ ∃ verdict, outcomes (earlier :: path) leaf = .ok verdict

/-- The first child that passes, or a fault that a later child is the cause of. -/
def PassesUnlessLaterFault (passing : Decision) (position : Nat) (known : String → Bool)
    (outcomes : Path → Condition → Except ε Verdict) (rule : Rule)
    (outcome : Except (EvaluationFault ε) Decision) : Prop :=
  outcome = .ok passing ∨
    (∃ fault, outcome = .error fault) ∧ RaisesPast position known outcomes rule

variable {known : String → Bool} {outcomes : Path → Condition → Except ε Verdict}

/-- Where nothing fails up to a position, a fault comes from past it. -/
private theorem raisesPast_of_quiet {position : Nat} {name : String} {args : Json.Members}
    {operation : Operation} {rules : List Rule}
    (quiet : QuietUpTo position known outcomes (.group name args operation rules))
    (raises : Raises known outcomes (.group name args operation rules)) :
    RaisesPast position known outcomes (.group name args operation rules) := by
  obtain ⟨path, leaf, at_, cause⟩ := raises
  cases path with
  | nil => cases at_
  | cons at_position path =>
    refine ⟨at_position, path, leaf, Nat.lt_of_not_le fun early => ?_, at_, cause⟩
    obtain ⟨named, verdict, said⟩ := quiet at_position path leaf early at_
    rcases cause with unknown | ⟨fault, raised⟩
    · rw [named] at unknown
      cases unknown
    · rw [said] at raised
      cases raised

section

variable {name : String} {args : Json.Members} {before after : List Rule} {child : Rule}
  {failures : List Decision} {passing : Decision}

private theorem sequential_eq_first_pass
    (tried : sequentials known outcomes 0 before = failures.map some)
    (failed : ∀ failure ∈ failures, failure.passed = false)
    (found : sequential known (ofChild before.length outcomes) child = some passing)
    (passes : passing.passed = true) :
    sequential known outcomes (.group name args .any (before ++ child :: after)) = some passing := by
  rw [sequential_any (by simp), Rule.sequentials_append, tried, Rule.firstPass_failed failed,
    sequentials, Nat.zero_add, found, Rule.firstPass, if_pos passes]

/-- The children before the first that passes fail, and nothing raises up to it.
Then a node that asks for any child at once comes to the passing one, unless a leaf
below a later child fails: whenever there is such a leaf, some order ends in its
fault, whatever the number of permits and wherever in a tree the node is. The
same holds of rehearsals, unless their time or their rounds run out. -/
theorem first_pass_stands_unless_later_fault [Inhabited P] {permits : Nat} (permitted : 1 ≤ permits)
    (tried : sequentials known outcomes 0 before = failures.map some)
    (failed : ∀ failure ∈ failures, failure.passed = false)
    (found : sequential known (ofChild before.length outcomes) child = some passing)
    (passes : passing.passed = true)
    (quiet : QuietUpTo before.length known outcomes
      (.group name args .any (before ++ child :: after))) :
    let rule : Rule := .group name args .any (before ++ child :: after)
    let manner : Manner := ⟨known, .concurrent⟩
    let right := PassesUnlessLaterFault passing before.length known outcomes rule
    AlwaysEnds P manner permits (.of outcomes) rule right ∧
      (∀ (plan : Plan ε) world, plan.manner = manner →
        (∀ path leaf, (plan.task leaf).Ensures (· = outcomes path leaf)) →
        (plan.evaluate rule world).1 = .error .overran ∨ right (plan.evaluate rule world).1) ∧
      ∀ (whole : Path → Condition → Except ε Verdict) place root, RuleAt rule place root →
        (∀ path, whole (place ++ path) = outcomes path) →
        (∀ moves (evaluation : Evaluation P ε) outcome,
          Run manner permits (.of whole) root moves evaluation →
          Has (.ended outcome) place evaluation.tree → right outcome) ∧
        (RaisesPast before.length known outcomes rule →
          ∃ moves fault, ∃ evaluation : Evaluation P ε,
            Run manner permits (.of whole) root moves evaluation ∧
              Has (.ended (.error fault)) place evaluation.tree) := by
  intro rule manner right
  have decided : sequential known outcomes rule = some passing :=
    sequential_eq_first_pass tried failed found passes
  have right_of : ∀ outcome, Right known .concurrent outcomes rule outcome → right outcome := by
    rintro (fault | decision) come_to
    · exact .inr ⟨⟨fault, rfl⟩, raisesPast_of_quiet quiet come_to.1⟩
    · exact .inl (congrArg Except.ok (Option.some.inj (come_to.symm.trans decided)))
  refine ⟨?_, ?_, ?_⟩
  · exact alwaysEnds permitted (fun _ _ => ⟨_, rfl⟩) fun _ _ _ run ended =>
      right_of _ (run.right ended)
  · intro plan world same keeps
    rcases plan.evaluate_run (.of outcomes) keeps rule world rfl with
      overran | ⟨moves, evaluation, run, ended⟩
    · exact .inl overran
    · rw [same] at run
      exact .inr (right_of _ (run.right ended))
  · intro whole place root there same
    constructor
    · intro moves evaluation outcome run has
      have come_to := run.right_at there has
      simp only [same] at come_to
      exact right_of _ come_to
    · rintro ⟨later, path, leaf, _, at_, cause⟩
      -- The leaf ends before any other, and its fault rises to the node.
      have cause : known leaf.name = false ∨ ∃ fault, whole (place ++ later :: path) leaf = .error fault := by
        rw [same]
        exact cause
      obtain ⟨moves, fault, evaluation, run, has⟩ :=
        (there.trans at_.ruleAt).fails_first (P := P) permitted cause
      obtain ⟨tree, steps, risen⟩ := has.rise_to
      obtain ⟨moves, run⟩ := run.decideAll steps
      exact ⟨moves, fault, _, run, risen⟩

end

/-- The first leaf has passed and the second has failed by the time that the node
looks at them, and it comes to the fault. -/
theorem later_fault_wins :
    let first : Condition := ⟨"first", []⟩
    let second : Condition := ⟨"second", []⟩
    let rule : Rule := .group "or" [] .any [.condition first, .condition second]
    let outcomes (_ : Path) (leaf : Condition) : Except String Verdict :=
      if leaf.name = "first" then .ok ⟨true, "fine"⟩ else .error "broken"
    let decision : Decision := ⟨true, "fine", .condition first⟩
    let manner : Manner := ⟨fun _ => true, .concurrent⟩
    let fault : EvaluationFault String := .check "broken"
    AlwaysEnds Unit manner 2 (.of outcomes) rule
        (PassesUnlessLaterFault decision 0 manner.known outcomes rule) ∧
      ∃ moves, ∃ evaluation : Evaluation Unit String,
        Run manner 2 (.of outcomes) rule moves evaluation ∧
        evaluation.tree = .race rule [.ended (.ok decision), .ended (.error fault)] ∧
        ∀ outcome, Decides manner.start evaluation.tree (.ended outcome) → outcome = .error fault := by
  intro first second rule outcomes decision manner fault
  have quiet : QuietUpTo 0 manner.known outcomes rule := by
    intro earlier path leaf start at_
    obtain rfl : earlier = 0 := by omega
    obtain ⟨child, same, inside⟩ := at_.of_group
    cases same
    cases inside
    exact ⟨rfl, _, rfl⟩
  have general := @first_pass_stands_unless_later_fault String Unit manner.known outcomes "or" [] []
    [.condition second] (.condition first) [] decision _ 2 (by decide) rfl (by simp) rfl rfl quiet
  have begun : Run manner 2 (.of outcomes) rule 0 (.begin_ manner rule : Evaluation Unit String) :=
    .start
  have new : ([0], first) ∈ (.begin_ manner rule : Evaluation Unit String).newcomers :=
    mem_newcomers.mpr (mem_leaves_iff.mp ⟨1, .head _⟩)
  have lined_up := begun.move (.lineUp new)
  have new' : ([1], second) ∈ ((.begin_ manner rule : Evaluation Unit String).enroll [0] first).newcomers :=
    mem_newcomers.mpr (mem_leaves_iff.mp ⟨1, .tail _ (.head _)⟩)
  have at_work := ((lined_up.move (.lineUp new')).move (.letIn () rfl)).move (.letIn () rfl)
  have said : Says.of outcomes [0] first (.ok ⟨true, "fine"⟩) := rfl
  have said' : Says.of outcomes [1] second (.error "broken") := rfl
  have passed := at_work.move (.finish (.head _) said)
  have failed := passed.move (.finish (.head _) said')
  refine ⟨general.1, _, _, failed, rfl, fun outcome decides => ?_⟩
  obtain ⟨other, member, rfl⟩ := decides.fault_first (.tail _ (.head _))
  have member : .ended (.error other) ∈
    ([.ended (.ok decision), .ended (.error fault)] : List (Node (Slot Unit) String)) := member
  simpa using member

end Curation.Rehearsal
