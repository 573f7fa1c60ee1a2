import Curation.Proofs.Evaluation.Places

/-! Every order in which an evaluation can take place. Newcomers line up in any
order, checks end whenever they end, and each inner node takes note of its
children at a time of its own, so that several of them may have ended since it
last looked. Nothing is said about time; the clock-driven run of a rehearsal is
one of these runs. Main statement: no order gets stuck, and none goes on forever
unless a check does. -/
namespace Curation.Evaluation

variable {L P ε : Type}

namespace Node

/-- One inner node, at the root or below, decides by what its children have come
to. Which of several faults it passes on depends on which one came first. -/
inductive Decides (begin_ : Rule → Node L ε) : Node L ε → Node L ε → Prop where
  | all {rule : Rule} {children : List (Node L ε)}
      {outcome : Except (EvaluationFault ε) Decision} :
    settleAll rule children = .ended outcome → Decides begin_ (.all rule children) (.ended outcome)
  | race {rule : Rule} {children : List (Node L ε)}
      {outcome : Except (EvaluationFault ε) Decision} :
    settleRace rule children = .ended outcome → Decides begin_ (.race rule children) (.ended outcome)
  | allFault {rule : Rule} {children : List (Node L ε)} {fault : EvaluationFault ε} :
    .ended (.error fault) ∈ children → Decides begin_ (.all rule children) (.ended (.error fault))
  | raceFault {rule : Rule} {children : List (Node L ε)} {fault : EvaluationFault ε} :
    .ended (.error fault) ∈ children → Decides begin_ (.race rule children) (.ended (.error fault))
  | inOrder {rule : Rule} {failures : List Decision} {rest : List Rule}
      {outcome : Except (EvaluationFault ε) Decision} :
    Decides begin_ (.inOrder rule failures (.ended outcome) rest)
      (settleInOrder begin_ rule failures (.ended outcome) rest)
  | inAll {rule : Rule} {before after : List (Node L ε)} {child child' : Node L ε} :
    Decides begin_ child child' →
    Decides begin_ (.all rule (before ++ child :: after)) (.all rule (before ++ child' :: after))
  | inRace {rule : Rule} {before after : List (Node L ε)} {child child' : Node L ε} :
    Decides begin_ child child' →
    Decides begin_ (.race rule (before ++ child :: after)) (.race rule (before ++ child' :: after))
  | inCurrent {rule : Rule} {failures : List Decision} {rest : List Rule}
      {current current' : Node L ε} :
    Decides begin_ current current' →
    Decides begin_ (.inOrder rule failures current rest) (.inOrder rule failures current' rest)

end Node

open Node (Path Decides)

/-- What a leaf comes to when its check ends. -/
def conclusion (leaf : Condition) :
    Except ε Verdict → Except (EvaluationFault ε) Decision
  | .ok verdict => .ok (.ofVerdict leaf verdict)
  | .error fault => .error (.check fault)

/-- A newcomer at the end of the line. -/
def enroll (path : Path) (leaf : Condition) (evaluation : Evaluation P ε) : Evaluation P ε :=
  { evaluation.putSlot path leaf (.inLine evaluation.tickets) with tickets := evaluation.tickets + 1 }

/-- What the checks may end in, each by its place and its leaf. -/
abbrev Says (ε : Type) := Path → Condition → Except ε Verdict → Prop

/-- Checks whose outcomes are settled beforehand. -/
def Says.of (outcomes : Path → Condition → Except ε Verdict) : Says ε :=
  fun path leaf outcome => outcome = outcomes path leaf

/-- Checks that come to these verdicts and never fail. -/
def Says.verdicts (ε : Type) (verdicts : Path → Condition → Verdict) : Says ε :=
  .of fun path leaf => .ok (verdicts path leaf)

/-- One thing that happens in an evaluation: a newcomer lines up, the next in
line is let in, a check at work ends, or a node decides. -/
inductive Move (manner : Manner) (permits : Nat) (may : Says ε) :
    Evaluation P ε → Evaluation P ε → Prop where
  | lineUp {evaluation : Evaluation P ε} {path : Path} {leaf : Condition} :
    (path, leaf) ∈ evaluation.newcomers → Move manner permits may evaluation (evaluation.enroll path leaf)
  | letIn {evaluation : Evaluation P ε} {path : Path} {ticket : Nat} {leaf : Condition} (call : P) :
    evaluation.next? permits = some (path, ticket, leaf) →
    Move manner permits may evaluation (evaluation.putSlot path leaf (.atWork ticket call))
  | finish {evaluation : Evaluation P ε} {working : Working P} {outcome : Except ε Verdict} :
    working ∈ evaluation.working → may working.path working.leaf outcome →
    Move manner permits may evaluation
      (evaluation.finish working.path (conclusion working.leaf outcome))
  | decide {evaluation : Evaluation P ε} {tree : Node (Slot P) ε} :
    Decides manner.start evaluation.tree tree →
    Move manner permits may evaluation { evaluation with tree }

/-- A check at work goes on and stays at work. -/
inductive GoesOn : Evaluation P ε → Evaluation P ε → Prop where
  | at_work {evaluation : Evaluation P ε} {working : Working P} (call : P) :
    working ∈ evaluation.working →
    GoesOn evaluation (evaluation.putSlot working.path working.leaf (.atWork working.ticket call))

/-- The evaluations that a rule can lead to, with the number of moves on the way.
That checks go on does not count. -/
inductive Run (manner : Manner) (permits : Nat) (may : Says ε) (rule : Rule) :
    Nat → Evaluation P ε → Prop where
  | start : Run manner permits may rule 0 (begin_ manner rule)
  | move {moves : Nat} {evaluation next : Evaluation P ε} :
    Run manner permits may rule moves evaluation → Move manner permits may evaluation next →
    Run manner permits may rule (moves + 1) next
  | goOn {moves : Nat} {evaluation next : Evaluation P ε} :
    Run manner permits may rule moves evaluation → GoesOn evaluation next →
    Run manner permits may rule moves next

/-- Whatever the order, a rule is decided, and in this way: the moves are limited
in number, there is one as long as there is no outcome, and the outcome is right. -/
structure AlwaysEnds (P : Type) (manner : Manner) (permits : Nat) (may : Says ε) (rule : Rule)
    (right : Except (EvaluationFault ε) Decision → Prop) : Prop where
  bounded : ∃ bound, ∀ moves (evaluation : Evaluation P ε),
    Run manner permits may rule moves evaluation → moves ≤ bound
  never_stuck : ∀ moves (evaluation : Evaluation P ε), Run manner permits may rule moves evaluation →
    evaluation.tree.outcome? = none → ∃ next, Move manner permits may evaluation next
  right : ∀ moves (evaluation : Evaluation P ε) outcome,
    Run manner permits may rule moves evaluation → evaluation.tree.outcome? = some outcome →
    right outcome

/-! ## Leaves that come from nowhere else -/

namespace Node

variable {known : String → Bool} {fresh state : L} {strategy : OrStrategy} {leaf : Condition}

mutual
/-- Where a rule begins, every leaf is new. -/
theorem start_fresh : (rule : Rule) → ∀ path,
    At leaf state path (start known fresh strategy rule : Node L ε) → state = fresh
  | .condition other, path, at_ => by
    unfold start at at_
    split at at_ <;> cases at_
    rfl
  | .group name args operation [], path, at_ => by
    simp only [start] at at_
    cases at_
  | .group name args .all (first :: rest), path, at_ => by
    obtain ⟨child, member, inner, inside⟩ := at_.of_all
    rcases List.mem_cons.mp member with rfl | later
    · exact start_fresh first inner inside
    · exact startAll_fresh rest child later inner inside
  | .group name args .any (first :: rest), path, at_ => by
    have firsts := start_fresh first
    have others := startAll_fresh rest
    simp only [start] at at_
    split at at_
    · cases at_ with
      | inOrder inside => exact firsts _ inside
    · obtain ⟨child, member, inner, inside⟩ := at_.of_race
      rcases List.mem_cons.mp member with rfl | later
      · exact firsts inner inside
      · exact others child later inner inside

theorem startAll_fresh : (rules : List Rule) →
    ∀ child ∈ (startAll known fresh strategy rules : List (Node L ε)), ∀ path,
      At leaf state path child → state = fresh
  | [], child, member, _, _ => by cases member
  | rule :: rest, child, member, path, at_ => by
    rcases List.mem_cons.mp member with rfl | later
    · exact start_fresh rule path at_
    · exact startAll_fresh rest child later path at_
end

private theorem settleInOrder_at {manner : Manner} {slot : Slot P} {path : Path} {rule : Rule}
    {failures : List Decision} {current : Node (Slot P) ε} {rest : List Rule}
    (at_ : At leaf slot path (settleInOrder manner.start rule failures current rest)) :
    slot = .fresh ∨ At leaf slot path (.inOrder rule failures current rest) := by
  fun_induction settleInOrder manner.start rule failures current rest with
  | case1 | case2 | case3 => cases at_
  | case4 failures decision fails more next rest =>
    rename_i ih
    rcases ih at_ with new | inside
    · exact .inl new
    · cases inside with
      | inOrder inside => exact .inl (start_fresh next _ inside)
  | case5 => exact .inr at_

/-- A decision opens no leaf but new ones. -/
theorem Decides.at_of {manner : Manner} {slot : Slot P} {path : Path} {node node' : Node (Slot P) ε}
    (decides : Decides manner.start node node') (at_ : At leaf slot path node') :
    slot = .fresh ∨ At leaf slot path node := by
  induction decides generalizing path with
  | all | race | allFault | raceFault => cases at_
  | inOrder => exact settleInOrder_at at_
  | @inAll _ _ _ child _ _ ih =>
    rcases at_.all_replaced child with ⟨inner, rfl, inside⟩ | unchanged
    · exact (ih inside).imp_right .all
    · exact .inr unchanged
  | @inRace _ _ _ child _ _ ih =>
    rcases at_.race_replaced child with ⟨inner, rfl, inside⟩ | unchanged
    · exact (ih inside).imp_right .race
    · exact .inr unchanged
  | inCurrent _ ih =>
    cases at_ with
    | inOrder inside => exact (ih inside).imp_right .inOrder

end Node

end Curation.Evaluation
