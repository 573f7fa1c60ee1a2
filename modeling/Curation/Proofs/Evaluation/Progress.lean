import Curation.Proofs.Evaluation.Schedule

/-! No order of an evaluation gets stuck or goes on forever. A node that has not
ended either holds an open leaf somewhere or has children that it can decide by,
and a permit that is not free is held by a check that can still end. Each move
takes something from what there is left to do, which the rule bounds. -/
namespace Curation.Evaluation

variable {L P ε : Type}

namespace Node

/-! ## What children have come to -/

theorem mem_of_firstFault? {children : List (Node L ε)} {fault : EvaluationFault ε}
    (first : firstFault? children = some fault) : .ended (.error fault) ∈ children := by
  fun_induction firstFault? children with
  | case1 => cases first
  | case2 fault' rest => cases first; exact .head _
  | case3 node rest _ ih => exact .tail _ (ih first)

/-- The decisions are those of the children before the first that has none. -/
theorem decided_prefix (children : List (Node L ε)) :
    ∃ rest, children = (decided children).1.map (fun decision => .ended (.ok decision)) ++ rest ∧
      ((decided children).2 = true → rest = []) := by
  fun_induction decided children with
  | case1 => exact ⟨[], rfl, fun _ => rfl⟩
  | case2 decision rest decisions whole known ih =>
    obtain ⟨later, shape, end_⟩ := ih
    rw [known] at shape end_
    exact ⟨later, congrArg (_ :: ·) shape, end_⟩
  | case3 node rest _ => exact ⟨node :: rest, rfl, by simp⟩

/-- Children that have all ended leave nothing open. -/
private theorem decided_whole {children : List (Node L ε)}
    (ended : ∀ child ∈ children, child.outcome?.isSome) (faultless : firstFault? children = none) :
    (decided children).2 = true := by
  fun_induction decided children with
  | case1 => rfl
  | case2 decision rest decisions whole known ih =>
    rw [known] at ih
    exact ih (fun child member => ended child (.tail _ member)) (by simpa [firstFault?] using faultless)
  | case3 node rest other =>
    have here := ended node (.head _)
    cases node with
    | ended outcome =>
      cases outcome with
      | ok decision => exact absurd rfl (other decision)
      | error fault => simp [firstFault?] at faultless
    | open_ | all | race | inOrder => simp [outcome?] at here

theorem settleAll_ended (rule : Rule) {children : List (Node L ε)}
    (ended : ∀ child ∈ children, child.outcome?.isSome) :
    ∃ outcome, settleAll rule children = .ended outcome := by
  unfold settleAll
  cases faults : firstFault? children with
  | some fault => exact ⟨_, rfl⟩
  | none =>
    have whole := decided_whole ended faults
    rcases known : decided children with ⟨decisions, whole'⟩
    rw [known] at whole
    cases whole
    exact ⟨_, rfl⟩

theorem settleRace_ended (rule : Rule) {children : List (Node L ε)}
    (ended : ∀ child ∈ children, child.outcome?.isSome) :
    ∃ outcome, settleRace rule children = .ended outcome := by
  unfold settleRace
  cases faults : firstFault? children with
  | some fault => exact ⟨_, rfl⟩
  | none =>
    simp only [decided_whole ended faults, ↓reduceIte]
    split
    · exact ⟨_, rfl⟩
    · exact ⟨_, rfl⟩

/-! ## Something can always happen -/

/-- A node can go on if a leaf is open somewhere or some node can decide. -/
def CanGoOn (begin_ : Rule → Node L ε) (node : Node L ε) : Prop :=
  (∃ path leaf state, At leaf state path node) ∨ ∃ node', Decides begin_ node node'

mutual
theorem can_go_on (begin_ : Rule → Node L ε) :
    (node : Node L ε) → node.outcome? = none → CanGoOn begin_ node
  | .open_ leaf state, _ => .inl ⟨[], leaf, state, .here⟩
  | .all rule children, _ => by
    rcases all_ended_or_can_go_on begin_ children with ended | ⟨before, child, after, rfl, open_⟩
    · obtain ⟨outcome, settled⟩ := settleAll_ended rule ended
      exact .inr ⟨_, .all settled⟩
    · rcases open_ with ⟨path, leaf, state, inside⟩ | ⟨child', decides⟩
      · exact .inl ⟨_, leaf, state, .all inside⟩
      · exact .inr ⟨_, .inAll decides⟩
  | .race rule children, _ => by
    rcases all_ended_or_can_go_on begin_ children with ended | ⟨before, child, after, rfl, open_⟩
    · obtain ⟨outcome, settled⟩ := settleRace_ended rule ended
      exact .inr ⟨_, .race settled⟩
    · rcases open_ with ⟨path, leaf, state, inside⟩ | ⟨child', decides⟩
      · exact .inl ⟨_, leaf, state, .race inside⟩
      · exact .inr ⟨_, .inRace decides⟩
  | .inOrder rule failures current rest, _ => by
    cases known : current.outcome? with
    | some outcome =>
      cases current with
      | ended outcome => exact .inr ⟨_, .inOrder⟩
      | open_ | all | race | inOrder => simp [outcome?] at known
    | none =>
      rcases can_go_on begin_ current known with ⟨path, leaf, state, inside⟩ | ⟨node', decides⟩
      · exact .inl ⟨_, leaf, state, .inOrder inside⟩
      · exact .inr ⟨_, .inCurrent decides⟩
  | .ended outcome, unended => by simp [outcome?] at unended

theorem all_ended_or_can_go_on (begin_ : Rule → Node L ε) :
    (children : List (Node L ε)) → (∀ child ∈ children, child.outcome?.isSome) ∨
      ∃ before child after, children = before ++ child :: after ∧ CanGoOn begin_ child
  | [] => .inl (by simp)
  | child :: rest => by
    cases known : child.outcome? with
    | none => exact .inr ⟨[], child, rest, rfl, can_go_on begin_ child known⟩
    | some outcome =>
      rcases all_ended_or_can_go_on begin_ rest with ended | ⟨before, later, after, rfl, open_⟩
      · exact .inl (List.forall_mem_cons.mpr ⟨by simp [known], ended⟩)
      · exact .inr ⟨child :: before, later, after, rfl, open_⟩
end

end Node

/-! ## What there is left to do -/

/-- What a leaf has left: to line up, to be let in, and to end. -/
def Slot.left : Slot P → Nat
  | .fresh => 3
  | .inLine _ => 2
  | .atWork .. => 1

namespace Node

mutual
/-- What a rule that has not begun has left at most. -/
def leftOfRule : Rule → Nat
  | .condition _ => 3
  | .group _ _ _ children => leftOfRules children + 1

def leftOfRules : List Rule → Nat
  | [] => 0
  | rule :: rest => leftOfRule rule + leftOfRules rest + 1
end

mutual
/-- What a node has left: its leaves, a decision for each inner node, and the
children that have not begun. -/
def left : Node (Slot P) ε → Nat
  | .open_ _ slot => slot.left
  | .all _ children => leftOf children + 1
  | .race _ children => leftOf children + 1
  | .inOrder _ _ current rest => left current + leftOfRules rest + 1
  | .ended _ => 0

def leftOf : List (Node (Slot P) ε) → Nat
  | [] => 0
  | node :: rest => left node + leftOf rest
end

theorem leftOf_append (before after : List (Node (Slot P) ε)) :
    leftOf (before ++ after) = leftOf before + leftOf after := by
  induction before with
  | nil => simp [leftOf]
  | cons node before ih => simp only [List.cons_append, leftOf, ih]; omega

theorem left_put {leaf : Condition} {slot : Slot P} {path : Path} {node : Node (Slot P) ε}
    (at_ : At leaf slot path node) (new : Node (Slot P) ε) :
    left (put new path node) + slot.left = left node + left new := by
  induction at_ with
  | here => simp only [put, left]; omega
  | all _ ih | race _ ih => simp only [put, putAt_append, left, leftOf_append, leftOf]; omega
  | inOrder _ ih => simp only [put, left]; omega

variable {manner : Manner}

mutual
theorem left_start (manner : Manner) :
    (rule : Rule) → left (manner.start rule : Node (Slot P) ε) ≤ leftOfRule rule
  | .condition leaf => by
    unfold Manner.start start leftOfRule
    split <;> simp [left, Slot.left]
  | .group name args operation [] => by simp [Manner.start, start, left]
  | .group name args .all (first :: rest) => by
    have here : left (manner.start first : Node (Slot P) ε) ≤ _ := left_start manner first
    have later : leftOf (startAll manner.known .fresh manner.strategy rest : List (Node (Slot P) ε)) ≤ _ :=
      left_startAll manner rest
    simp only [Manner.start] at here
    simp only [Manner.start, start, left, leftOf, leftOfRule, leftOfRules]
    omega
  | .group name args .any (first :: rest) => by
    have here : left (manner.start first : Node (Slot P) ε) ≤ _ := left_start manner first
    have later : leftOf (startAll manner.known .fresh manner.strategy rest : List (Node (Slot P) ε)) ≤ _ :=
      left_startAll manner rest
    simp only [Manner.start] at here
    simp only [Manner.start, start]
    split <;> simp only [left, leftOf, leftOfRule, leftOfRules] <;> omega

theorem left_startAll (manner : Manner) : (rules : List Rule) →
    leftOf (startAll manner.known .fresh manner.strategy rules : List (Node (Slot P) ε)) ≤
      leftOfRules rules
  | [] => by simp [startAll, leftOf]
  | rule :: rest => by
    have here : left (manner.start rule : Node (Slot P) ε) ≤ _ := left_start manner rule
    have later : leftOf (startAll manner.known .fresh manner.strategy rest : List (Node (Slot P) ε)) ≤ _ :=
      left_startAll manner rest
    simp only [Manner.start] at here
    simp only [startAll, leftOf, leftOfRules]
    omega
end

private theorem left_settleInOrder (rule : Rule) (failures : List Decision)
    (current : Node (Slot P) ε) (rest : List Rule) :
    left (settleInOrder manner.start rule failures current rest) ≤ left current + leftOfRules rest + 1 ∧
      (current.outcome?.isSome → left (settleInOrder manner.start rule failures current rest) <
        left current + leftOfRules rest + 1) := by
  fun_induction settleInOrder manner.start rule failures current rest with
  | case1 => simp [left]
  | case2 => simp [left]
  | case3 => simp [left]
  | case4 failures decision _ _ next rest ih =>
    have begun : left (manner.start next : Node (Slot P) ε) ≤ _ := left_start manner next
    simp only [left, leftOfRules]
    omega
  | case5 failures rest current faultless undecided =>
    cases current with
    | ended outcome =>
      cases outcome with
      | ok decision => exact absurd rfl (undecided decision)
      | error fault => exact absurd rfl (faultless fault)
    | open_ | all | race | inOrder => simp [left, outcome?]

theorem Decides.left_lt {node node' : Node (Slot P) ε} (decides : Decides manner.start node node') :
    left node' < left node := by
  induction decides with
  | all | race | allFault | raceFault => simp [left]
  | inOrder => exact (left_settleInOrder _ _ _ _).2 rfl
  | inAll _ ih | inRace _ ih => simp only [left, leftOf_append, leftOf]; omega
  | inCurrent _ ih => simp only [left]; omega

end Node

/-! ## Every order comes to an end -/

open Node (At left leftOfRule)

variable {manner : Manner} {permits : Nat} {may : Says ε} {rule : Rule} {moves : Nat}
  {evaluation next : Evaluation P ε}

/-- A check that is new or in line waits for a permit, and whoever holds the
permits is a check at work, which can end. -/
theorem exists_move [Inhabited P] (permitted : 1 ≤ permits)
    (answers : ∀ path leaf, ∃ outcome, may path leaf outcome)
    (undecided : evaluation.tree.outcome? = none) :
    ∃ next, Move manner permits may evaluation next := by
  rcases Node.can_go_on manner.start evaluation.tree undecided with
    ⟨path, leaf, slot, at_⟩ | ⟨tree, decides⟩
  · by_cases free : evaluation.working.length < permits
    · cases slot with
      | fresh => exact ⟨_, .lineUp (mem_newcomers.mpr at_)⟩
      | inLine ticket =>
        have waiting : evaluation.line ≠ [] := List.ne_nil_of_mem (mem_line.mpr at_)
        obtain ⟨⟨path', ticket', leaf'⟩, lowest⟩ := exists_lowest waiting
        have next : evaluation.next? permits = some (path', ticket', leaf') := by
          simp only [next?, free, ↓reduceIte, lowest]
        exact ⟨_, .letIn default next⟩
      | atWork ticket call =>
        obtain ⟨outcome, said⟩ := answers path leaf
        have member : ⟨path, ticket, leaf, call⟩ ∈ evaluation.working := mem_working.mpr at_
        exact ⟨_, .finish member said⟩
    · obtain ⟨working, member⟩ := List.exists_mem_of_length_pos
        (show 0 < evaluation.working.length by omega)
      obtain ⟨outcome, said⟩ := answers working.path working.leaf
      exact ⟨_, .finish member said⟩
  · exact ⟨_, .decide decides⟩

theorem Move.left_lt (move : Move manner permits may evaluation next) :
    left next.tree < left evaluation.tree := by
  cases move with
  | @lineUp path leaf new =>
    have replaced :=
      Node.left_put (mem_newcomers.mp new) (.open_ leaf (.inLine evaluation.tickets))
    simp only [enroll, putSlot, left, Slot.left] at replaced ⊢
    omega
  | @letIn path ticket leaf call first =>
    have replaced := Node.left_put (next?_some first).1 (.open_ leaf (.atWork ticket call))
    simp only [putSlot, left, Slot.left] at replaced ⊢
    omega
  | @finish working outcome member _ =>
    have replaced := Node.left_put (mem_working.mp member) (.ended (conclusion working.leaf outcome))
    simp only [Evaluation.finish, left, Slot.left] at replaced ⊢
    omega
  | decide decides => exact decides.left_lt

theorem GoesOn.left_eq (goes : GoesOn evaluation next) : left next.tree = left evaluation.tree := by
  cases goes with
  | @at_work working call member =>
    have replaced :=
      Node.left_put (mem_working.mp member) (.open_ working.leaf (.atWork working.ticket call))
    simp only [putSlot, left, Slot.left] at replaced ⊢
    omega

/-- The moves so far and what is left never exceed what the rule began with. -/
theorem Run.moves_le (run : Run manner permits may rule moves evaluation) :
    moves + left evaluation.tree ≤ leftOfRule rule := by
  induction run with
  | start => simpa [begin_] using Node.left_start manner rule
  | move _ move ih =>
    have less := move.left_lt
    omega
  | goOn _ goes ih => rw [goes.left_eq]; exact ih

/-- What holds of every outcome that some order leads to is what every order ends
in, given a permit and checks that answer. -/
theorem alwaysEnds [Inhabited P] {right : Except (EvaluationFault ε) Decision → Prop}
    (permitted : 1 ≤ permits) (answers : ∀ path leaf, ∃ outcome, may path leaf outcome)
    (sound : ∀ moves (evaluation : Evaluation P ε) outcome,
      Run manner permits may rule moves evaluation → evaluation.tree.outcome? = some outcome →
      right outcome) :
    AlwaysEnds P manner permits may rule right where
  bounded := ⟨leftOfRule rule, fun _ _ run => Nat.le_of_add_right_le run.moves_le⟩
  never_stuck _ _ _ undecided := exists_move permitted answers undecided
  right := sound

end Curation.Evaluation
