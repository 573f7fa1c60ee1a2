import Curation.Proofs.Evaluation.Justification
import Mathlib.Data.List.Nodup

/-! Which checks an evaluation in order calls. A leaf is tried if at every node above it that
asks for any of its children, the children before it fail. Each leaf that is tried is accounted
for at every moment of an evaluation: it has been called, or it is still due; and the same with
the end of its check. A node that tries its children in order has none due before the current
one, so what comes to be called below a child finds all that was tried before it ended. -/
namespace Curation

section

open Evaluation
open Evaluation.Node (Path)

/-! ## The leaves that are tried -/

/-- A leaf of a rule such that no child of a node that asks for any passes before it. -/
inductive TriedAt (leaf : Condition) : (Path → Condition → Verdict) → Path → Rule → Prop where
  | here {verdicts : Path → Condition → Verdict} : TriedAt leaf verdicts [] (.condition leaf)
  | child {verdicts : Path → Condition → Verdict} {path : Path} {name : String} {args : Json.Members}
      {operation : Operation} {before after : List Rule} {child : Rule} :
    (operation = .any → ∀ decision ∈ Rule.values verdicts 0 before, decision.passed = false) →
    TriedAt leaf (ofChild before.length verdicts) path child →
    TriedAt leaf verdicts (before.length :: path) (.group name args operation (before ++ child :: after))

/-- A leaf below a child, seen from the node above. -/
def inChild (position : Nat) (entry : Path × Condition) : Path × Condition :=
  (position :: entry.1, entry.2)

/-- Whether the children after one with this decision are left out. -/
def Operation.stops : Operation → Decision → Bool
  | .all, _ => false
  | .any, decision => decision.passed

namespace Rule

mutual
/-- The leaves of a rule that are tried, from left to right. -/
def tried (verdicts : Path → Condition → Verdict) : Rule → List (Path × Condition)
  | .condition leaf => [([], leaf)]
  | .group _ _ operation children => triedFrom operation verdicts 0 children

def triedFrom (operation : Operation) (verdicts : Path → Condition → Verdict) (position : Nat) :
    List Rule → List (Path × Condition)
  | [] => []
  | rule :: rest =>
    (tried (ofChild position verdicts) rule).map (inChild position) ++
      if operation.stops (rule.value (ofChild position verdicts)) then []
      else triedFrom operation verdicts (position + 1) rest
end

variable {verdicts : Path → Condition → Verdict} {leaf : Condition} {path : Path}
  {operation : Operation}

private theorem values_cons (verdicts : Path → Condition → Verdict) (position : Nat) (rule : Rule)
    (rest : List Rule) : values verdicts position (rule :: rest) =
      rule.value (ofChild position verdicts) :: values verdicts (position + 1) rest := by
  rw [values]

theorem leavesOf_append (before after : List Rule) :
    leavesOf (before ++ after) = leavesOf before ++ leavesOf after := by
  induction before with
  | nil => rfl
  | cons rule before ih => simp [leavesOf, ih]

theorem length_values (verdicts : Path → Condition → Verdict) (position : Nat) (rules : List Rule) :
    (values verdicts position rules).length = rules.length := by
  induction rules generalizing position with
  | nil => simp [values]
  | cons rule rest ih => simp [values, ih]

/-- What is tried among some children is tried in one that nothing before it leaves out. -/
theorem mem_triedFrom {position : Nat} {rules : List Rule} :
    (path, leaf) ∈ triedFrom operation verdicts position rules ↔
      ∃ before child after inner, rules = before ++ child :: after ∧
        path = (position + before.length) :: inner ∧
        (inner, leaf) ∈ tried (ofChild (position + before.length) verdicts) child ∧
        ∀ decision ∈ values verdicts position before, operation.stops decision = false := by
  induction rules generalizing position with
  | nil => simp [triedFrom]
  | cons rule rest ih =>
    rw [triedFrom, List.mem_append, List.mem_map]
    constructor
    · rintro (⟨⟨inner, leaf'⟩, member, same⟩ | later)
      · cases same
        exact ⟨[], rule, rest, inner, rfl, rfl, member, by simp [values]⟩
      · split at later
        · cases later
        · rename_i goes_on
          obtain ⟨before, child, after, inner, rfl, rfl, member, none_before⟩ := ih.mp later
          refine ⟨rule :: before, child, after, inner, rfl, ?_, ?_, ?_⟩
          · rw [List.length_cons, Nat.add_right_comm, Nat.add_assoc]
          · rw [Nat.add_right_comm] at member
            exact member
          · rw [values_cons, List.forall_mem_cons]
            exact ⟨by simpa using goes_on, none_before⟩
    · rintro ⟨before, child, after, inner, whole, rfl, member, none_before⟩
      cases before with
      | nil =>
        obtain ⟨rfl, rfl⟩ := List.cons.inj whole
        exact .inl ⟨(inner, leaf), member, rfl⟩
      | cons first before =>
        obtain ⟨rfl, rfl⟩ := List.cons.inj whole
        rw [values_cons, List.forall_mem_cons] at none_before
        obtain ⟨goes_on, none_before⟩ := none_before
        refine .inr ?_
        rw [if_neg (by simp [goes_on])]
        refine ih.mpr ⟨before, child, after, inner, rfl, ?_, ?_, none_before⟩
        · rw [List.length_cons, Nat.add_right_comm, Nat.add_assoc]
        · rw [Nat.add_right_comm]
          exact member

theorem mem_tried : (rule : Rule) → ∀ {verdicts path},
    (path, leaf) ∈ rule.tried verdicts ↔ TriedAt leaf verdicts path rule
  | .condition other, verdicts, path => by
    rw [tried, List.mem_singleton, Prod.mk.injEq]
    constructor
    · rintro ⟨rfl, rfl⟩
      exact .here
    · intro tried
      cases tried
      exact ⟨rfl, rfl⟩
  | .group name args operation rules, verdicts, path => by
    rw [tried, mem_triedFrom]
    constructor
    · rintro ⟨before, child, after, inner, rfl, rfl, member, none_before⟩
      rw [Nat.zero_add] at member ⊢
      refine .child (fun any decision inside => ?_) ((mem_tried child).mp member)
      have stays := none_before decision inside
      rwa [any] at stays
    · intro tried
      cases tried with
      | @child _ inner _ _ _ before after child fails inside =>
        refine ⟨before, child, after, inner, rfl, by rw [Nat.zero_add], ?_, ?_⟩
        · rw [Nat.zero_add]
          exact (mem_tried child).mpr inside
        · intro decision member
          cases operation with
          | all => rfl
          | any => exact fails rfl decision member

theorem triedFrom_position {position : Nat} {rules : List Rule} {entry : Path × Condition}
    (member : entry ∈ triedFrom operation verdicts position rules) :
    ∃ later inner, entry.1 = later :: inner ∧ position ≤ later := by
  obtain ⟨before, _, _, inner, _, at_, _⟩ := mem_triedFrom.mp member
  exact ⟨position + before.length, inner, at_, by omega⟩

/-- What is tried below one child is tried below no other. -/
private theorem disjoint_children {here : List (Path × Condition)} {position : Nat}
    {later : List (Path × Condition)}
    (after : ∀ entry ∈ later, ∃ other inner, entry.1 = other :: inner ∧ position + 1 ≤ other) :
    ∀ entry ∈ here.map (inChild position), ∀ other ∈ later, entry ≠ other := by
  rintro entry member other member' rfl
  obtain ⟨inner, -, rfl⟩ := List.mem_map.mp member
  obtain ⟨there, _, same, further⟩ := after _ member'
  obtain ⟨rfl, -⟩ := List.cons.inj same
  omega

private theorem inChild_injective (position : Nat) : Function.Injective (inChild position) := by
  rintro ⟨path, leaf⟩ ⟨path', leaf'⟩ same
  obtain ⟨same, rfl⟩ := Prod.mk.inj same
  obtain ⟨-, rfl⟩ := List.cons.inj same
  rfl

mutual
theorem nodup_tried (verdicts : Path → Condition → Verdict) : (rule : Rule) → (rule.tried verdicts).Nodup
  | .condition leaf => by
    rw [tried]
    exact List.nodup_singleton _
  | .group name args operation rules => by
    rw [tried]
    exact nodup_triedFrom operation verdicts 0 rules

theorem nodup_triedFrom (operation : Operation) (verdicts : Path → Condition → Verdict) (position : Nat) :
    (rules : List Rule) → (triedFrom operation verdicts position rules).Nodup
  | [] => by
    rw [triedFrom]
    exact List.nodup_nil
  | rule :: rest => by
    have here := (nodup_tried (ofChild position verdicts) rule).map (inChild_injective position)
    rw [triedFrom]
    split
    · rwa [List.append_nil]
    · exact List.nodup_append.mpr ⟨here, nodup_triedFrom operation verdicts (position + 1) rest,
        disjoint_children fun entry member => triedFrom_position member⟩
end

end Rule

end

namespace Evaluation

open Node (Path At Has Decides)

variable {P ε : Type}

/-! ## What is still due -/

/-- The two things that happen to a leaf: its check is called, and its check ends. -/
inductive Stage where
  | called
  | ended
  deriving DecidableEq

/-- Whether this is still to come for a leaf. -/
def Slot.awaits : Stage → Slot P → Bool
  | .called, .atWork .. => false
  | _, _ => true

namespace Node

open Rule (tried triedFrom)

/-- Whether a child of a rule passes. -/
def passesAt (verdicts : Path → Condition → Verdict) (position : Nat) : Rule → Bool
  | .condition _ => false
  | .group _ _ _ rules =>
    (rules[position]?).any fun child => (child.value (ofChild position verdicts)).passed

mutual
/-- The leaves for which this is still to come, given what the leaves will say. -/
def due (stage : Stage) (verdicts : Path → Condition → Verdict) : Node (Slot P) ε → List (Path × Condition)
  | .open_ leaf slot => if slot.awaits stage then [([], leaf)] else []
  | .all _ children => dueFrom stage verdicts 0 children
  | .race _ children => dueFrom stage verdicts 0 children
  | .inOrder rule failures current rest =>
    (due stage (ofChild failures.length verdicts) current).map (inChild failures.length) ++
      if passesAt verdicts failures.length rule then []
      else triedFrom .any verdicts (failures.length + 1) rest
  | .ended _ => []

def dueFrom (stage : Stage) (verdicts : Path → Condition → Verdict) (position : Nat) :
    List (Node (Slot P) ε) → List (Path × Condition)
  | [] => []
  | node :: rest =>
    (due stage (ofChild position verdicts) node).map (inChild position) ++
      dueFrom stage verdicts (position + 1) rest
end

variable {stage : Stage} {verdicts : Path → Condition → Verdict} {leaf : Condition} {path : Path}
  {node : Node (Slot P) ε}

theorem dueFrom_append (position : Nat) (before after : List (Node (Slot P) ε)) :
    dueFrom stage verdicts position (before ++ after) =
      dueFrom stage verdicts position before ++ dueFrom stage verdicts (position + before.length) after := by
  induction before generalizing position with
  | nil => simp [dueFrom]
  | cons node before ih => simp [dueFrom, ih, Nat.add_assoc, Nat.add_comm 1]

private theorem dueFrom_position {position : Nat} {nodes : List (Node (Slot P) ε)} {entry : Path × Condition}
    (member : entry ∈ dueFrom stage verdicts position nodes) :
    ∃ later inner, entry.1 = later :: inner ∧ position ≤ later := by
  induction nodes generalizing position with
  | nil => cases member
  | cons node rest ih =>
    rw [dueFrom, List.mem_append, List.mem_map] at member
    rcases member with ⟨inner, -, rfl⟩ | later
    · exact ⟨position, inner.1, rfl, Nat.le_refl _⟩
    · obtain ⟨other, inner, same, further⟩ := ih later
      exact ⟨other, inner, same, by omega⟩

theorem dueFrom_ended (position : Nat) (decisions : List Decision) :
    dueFrom stage verdicts position
      (decisions.map (fun decision => (.ended (.ok decision) : Node (Slot P) ε))) = [] := by
  induction decisions generalizing position with
  | nil => rfl
  | cons decision rest ih => simp [dueFrom, due, ih]

/-- What is due below a child of a node is due in that child. -/
theorem mem_dueFrom {position : Nat} {before after : List (Node (Slot P) ε)} {child : Node (Slot P) ε}
    (member : ((position + before.length) :: path, leaf) ∈
      dueFrom stage verdicts position (before ++ child :: after)) :
    (path, leaf) ∈ due stage (ofChild (position + before.length) verdicts) child := by
  induction before generalizing position with
  | nil =>
    rw [List.nil_append, dueFrom, List.mem_append, List.mem_map] at member
    rcases member with ⟨entry, inside, same⟩ | later
    · cases same
      exact inside
    · obtain ⟨other, inner, same, further⟩ := dueFrom_position later
      obtain ⟨rfl, -⟩ := List.cons.inj same
      exact absurd further (Nat.not_succ_le_self _)
  | cons node before ih =>
    rw [List.cons_append, dueFrom, List.mem_append, List.mem_map] at member
    have shifted : position + (node :: before).length = position + 1 + before.length := by
      rw [List.length_cons]
      omega
    rw [shifted] at member ⊢
    rcases member with ⟨entry, inside, same⟩ | later
    · have elsewhere := (List.cons.inj (Prod.mk.inj same).1).1
      omega
    · exact ih later

/-- What is due in a node that tries its children in order is due in the current one or after it. -/
theorem mem_due_inOrder {position : Nat} {rule : Rule} {failures : List Decision} {rest : List Rule}
    (member : (position :: path, leaf) ∈ due stage verdicts (.inOrder rule failures node rest)) :
    (position = failures.length ∧ (path, leaf) ∈ due stage (ofChild failures.length verdicts) node) ∨
      failures.length < position := by
  rw [due, List.mem_append, List.mem_map] at member
  rcases member with ⟨entry, inside, same⟩ | later
  · cases same
    exact .inl ⟨rfl, inside⟩
  · split at later
    · cases later
    · obtain ⟨other, inner, same, further⟩ := Rule.triedFrom_position later
      obtain ⟨rfl, -⟩ := List.cons.inj same
      exact .inr further

/-- A leaf that is replaced may cease to be due or become so; the others stay as they are. -/
private theorem At.due_put {slot : Slot P} (at_ : At leaf slot path node) {new : Node (Slot P) ε} {awaits : Bool}
    (same : ∀ verdicts, due stage verdicts new = if awaits then [([], leaf)] else [])
    (verdicts : Path → Condition → Verdict) :
    ∃ before after,
      due stage verdicts node = before ++ (if slot.awaits stage then [(path, leaf)] else []) ++ after ∧
      due stage verdicts (put new path node) = before ++ (if awaits then [(path, leaf)] else []) ++ after := by
  have lifted (position : Nat) (path : Path) (holds : Bool) :
      (if holds then [(path, leaf)] else []).map (inChild position) =
        if holds then [(position :: path, leaf)] else [] := by
    cases holds <;> rfl
  induction at_ generalizing verdicts with
  | here => exact ⟨[], [], by simp [due], by simp [put, same]⟩
  | @all rule path front back child _ ih | @race rule path front back child _ ih =>
    obtain ⟨before, after, old, new_⟩ := ih (ofChild front.length verdicts)
    refine ⟨dueFrom stage verdicts 0 front ++ before.map (inChild front.length),
      after.map (inChild front.length) ++ dueFrom stage verdicts (front.length + 1) back, ?_, ?_⟩
    · simp [due, dueFrom_append, dueFrom, old, lifted]
    · simp [put, putAt_append, due, dueFrom_append, dueFrom, new_, lifted]
  | @inOrder rule path failures rest child _ ih =>
    obtain ⟨before, after, old, new_⟩ := ih (ofChild failures.length verdicts)
    refine ⟨before.map (inChild failures.length), after.map (inChild failures.length) ++
      if passesAt verdicts failures.length rule then []
      else triedFrom .any verdicts (failures.length + 1) rest, ?_, ?_⟩
    · simp [due, old, lifted]
    · simp [put, due, new_, lifted]

/-- A leaf that gives way to what is due alike changes nothing. -/
theorem At.due_same {slot : Slot P} (at_ : At leaf slot path node) {new : Node (Slot P) ε}
    (same : ∀ verdicts, due stage verdicts new = if slot.awaits stage then [([], leaf)] else []) :
    due stage verdicts (put new path node) = due stage verdicts node := by
  obtain ⟨before, after, old, replaced⟩ := at_.due_put same verdicts
  rw [old, replaced]

/-- A leaf that is due no more is all that changes. -/
theorem At.due_passed {slot : Slot P} (at_ : At leaf slot path node) {new : Node (Slot P) ε}
    (awaited : slot.awaits stage = true) (passed : ∀ verdicts, due stage verdicts new = []) :
    (due stage verdicts node).Perm ((path, leaf) :: due stage verdicts (put new path node)) := by
  have nothing : ∀ verdicts, due stage verdicts new = if false then [([], leaf)] else [] := by simpa using passed
  obtain ⟨before, after, old, replaced⟩ := at_.due_put nothing verdicts
  rw [old, replaced, if_pos awaited]
  simp

/-! ## What a decision leaves due -/

variable {known : String → Bool} {rule : Rule}

mutual
/-- Where a rule begins, all that is tried is due. -/
theorem due_start (known : String → Bool) (stage : Stage) (verdicts : Path → Condition → Verdict) :
    (rule : Rule) → (∀ leaf ∈ rule.leaves, known leaf.name = true) →
      due stage verdicts (Node.start known .fresh .shortCircuit rule : Node (Slot P) ε) = tried verdicts rule
  | .condition leaf, all_known => by
    have here := all_known leaf (.head _)
    cases stage <;> simp [Node.start, here, due, tried, Slot.awaits]
  | .group name args operation [], _ => by
    simp [Node.start, due, tried, triedFrom]
  | .group name args .all (first :: rest), all_known => by
    have here := due_start known stage (ofChild 0 verdicts) first
      fun leaf member => all_known leaf (List.mem_append_left _ member)
    have later := dueFrom_start known stage verdicts 1 rest
      fun leaf member => all_known leaf (List.mem_append_right _ member)
    simp only [Node.start, due, dueFrom, tried, triedFrom, Operation.stops, here, later]
    rfl
  | .group name args .any (first :: rest), all_known => by
    have here := due_start known stage (ofChild 0 verdicts) first
      fun leaf member => all_known leaf (List.mem_append_left _ member)
    simp only [Node.start, due, tried, triedFrom, List.length_nil, here]
    rfl

theorem dueFrom_start (known : String → Bool) (stage : Stage) (verdicts : Path → Condition → Verdict)
    (position : Nat) : (rules : List Rule) → (∀ leaf ∈ Rule.leavesOf rules, known leaf.name = true) →
      dueFrom stage verdicts position (Node.startAll known .fresh .shortCircuit rules : List (Node (Slot P) ε)) =
        triedFrom .all verdicts position rules
  | [], _ => by simp [Node.startAll, dueFrom, triedFrom]
  | rule :: rest, all_known => by
    have here := due_start known stage (ofChild position verdicts) rule
      fun leaf member => all_known leaf (List.mem_append_left _ member)
    have later := dueFrom_start known stage verdicts (position + 1) rest
      fun leaf member => all_known leaf (List.mem_append_right _ member)
    simp only [Node.startAll, dueFrom, triedFrom, Operation.stops, here, later]
    rfl
end

end Node

open Node (due dueFrom passesAt)
open Rule (tried triedFrom)

variable {known : String → Bool} {verdicts : Path → Condition → Verdict} {rule : Rule} {stage : Stage}

/-- A node stands for a rule in order, and no leaf of the rule fails. -/
structure Sound (known : String → Bool) (verdicts : Path → Condition → Verdict) (rule : Rule)
    (node : Node (Slot P) ε) : Prop where
  all_known : ∀ leaf ∈ rule.leaves, known leaf.name = true
  stands : StandsFor known .shortCircuit (fun path leaf => .ok (verdicts path leaf)) rule node

theorem Sound.ended {outcome : Except (EvaluationFault ε) Decision}
    (sound : Sound known verdicts rule (.ended outcome : Node (Slot P) ε)) :
    outcome = .ok (rule.value verdicts) := by
  cases sound.stands with
  | ended right =>
    cases outcome with
    | ok decision =>
      simp only [Right, Rule.sequential_eq_value verdicts rule sound.all_known] at right
      cases right
      rfl
    | error fault => exact absurd right.1 (not_raises sound.all_known)

theorem Sound.start (verdicts : Path → Condition → Verdict)
    (all_known : ∀ leaf ∈ rule.leaves, known leaf.name = true) :
    Sound known verdicts rule (Manner.start ⟨known, .shortCircuit⟩ rule : Node (Slot P) ε) where
  all_known := all_known
  stands := by
    let manner : Manner := ⟨known, .shortCircuit⟩
    have begun : StandsFor manner.known manner.strategy _ rule (manner.start rule : Node (Slot P) ε) :=
      start_standsFor (fun path leaf => .ok (verdicts path leaf)) rule
    exact begun

/-- Each child is sound with the rule at its position. -/
theorem Sound.child {group : Rule} {before after : List (Node (Slot P) ε)} {child : Node (Slot P) ε}
    (sound : Sound known verdicts rule (.all group (before ++ child :: after))) :
    ∃ sub, Sound known (ofChild before.length verdicts) sub child := by
  cases sound.stands with
  | all some_rule each =>
    obtain ⟨first, sub, last, rfl, level, stands⟩ := each.child
    rw [Nat.zero_add] at stands
    exact ⟨sub, fun leaf member => sound.all_known leaf (mem_leavesOf_append first sub last member), stands⟩

/-- The current child is sound with the rule that stands between those tried and those to come. -/
theorem Sound.current {group : Rule} {failures : List Decision} {current : Node (Slot P) ε}
    {rest : List Rule} (sound : Sound known verdicts rule (.inOrder group failures current rest)) :
    ∃ name args before sub, group = .group name args .any (before ++ sub :: rest) ∧
      before.length = failures.length ∧ (∀ leaf ∈ group.leaves, known leaf.name = true) ∧
      Sound known (ofChild failures.length verdicts) sub current := by
  cases sound.stands with
  | @inOrder _ name args _ before _ sub _ _ _ whole decided _ stands =>
    subst whole
    have level := congrArg List.length decided
    rw [Rule.length_sequentials, List.length_map] at level
    exact ⟨name, args, before, sub, rfl, level, sound.all_known,
      fun leaf member => sound.all_known leaf (mem_leavesOf_append before sub rest member), stands⟩

theorem Sound.faultless {group : Rule} {children : List (Node (Slot P) ε)} {fault : EvaluationFault ε}
    (sound : Sound known verdicts rule (.all group children)) : .ended (.error fault) ∉ children := by
  intro member
  obtain ⟨before, after, rfl⟩ := List.append_of_mem member
  obtain ⟨sub, inside⟩ := sound.child
  exact absurd inside.ended nofun

theorem Sound.not_race {group : Rule} {children : List (Node (Slot P) ε)} :
    ¬ Sound known verdicts rule (.race group children) := by
  intro sound
  cases sound.stands with
  | race at_once => cases at_once

/-- Children that are all asked for and have ended have passed on no fault. -/
private theorem Sound.settled {group : Rule} {children : List (Node (Slot P) ε)}
    {outcome : Except (EvaluationFault ε) Decision} (sound : Sound known verdicts rule (.all group children))
    (settled : Node.settleAll group children = .ended outcome) :
    ∃ decisions : List Decision, children = decisions.map fun decision => .ended (.ok decision) := by
  unfold Node.settleAll at settled
  cases faults : Node.firstFault? children with
  | some fault => exact (sound.faultless (Node.mem_of_firstFault? faults)).elim
  | none =>
    obtain ⟨rest, shape, whole⟩ := Node.decided_prefix children
    rcases decided : Node.decided children with ⟨decisions, all_ended⟩
    simp only [faults, decided] at settled
    rw [decided] at shape whole
    cases all_ended with
    | false => cases settled
    | true =>
      rw [whole rfl, List.append_nil] at shape
      exact ⟨decisions, shape⟩

private theorem passesAt_eq (name : String) (args : Json.Members) (before : List Rule) (sub : Rule)
    (rest : List Rule) : passesAt verdicts before.length (.group name args .any (before ++ sub :: rest)) =
      (sub.value (ofChild before.length verdicts)).passed := by
  simp [passesAt]

/-- Whether or not a node that tries its children in order goes on to the next one, the same is due. -/
private theorem due_settleInOrder {name : String} {args : Json.Members} {rules before rest : List Rule}
    {sub : Rule} {failures : List Decision} {current : Node (Slot P) ε}
    (all_known : ∀ leaf ∈ Rule.leavesOf rules, known leaf.name = true)
    (whole : rules = before ++ sub :: rest) (level : before.length = failures.length)
    (right : ∀ outcome, current = .ended outcome →
      outcome = .ok (sub.value (ofChild failures.length verdicts))) :
    due stage verdicts (Node.settleInOrder (Manner.start ⟨known, .shortCircuit⟩)
        (.group name args .any rules) failures current rest) =
      due stage verdicts (.inOrder (.group name args .any rules) failures current rest) := by
  have current_passes : passesAt verdicts failures.length (.group name args .any rules) =
      (sub.value (ofChild failures.length verdicts)).passed := by
    rw [whole, ← level]
    exact passesAt_eq name args before sub rest
  fun_induction Node.settleInOrder (Manner.start ⟨known, .shortCircuit⟩) (.group name args .any rules)
    failures current rest generalizing before sub with
  | case1 => cases right _ rfl
  | case2 failures rest decision passes =>
    cases right _ rfl
    simp [due, current_passes, passes]
  | case3 failures decision fails =>
    simp [due, triedFrom]
  | case4 failures decision fails more next rest =>
    rename_i ih
    cases right _ rfl
    have next_known : ∀ leaf ∈ next.leaves, known leaf.name = true := by
      intro leaf member
      refine all_known leaf ?_
      rw [whole, List.append_cons]
      exact mem_leavesOf_append _ next rest member
    have begun : due stage (ofChild (failures.length + 1) verdicts)
        (Manner.start ⟨known, .shortCircuit⟩ next : Node (Slot P) ε) =
          tried (ofChild (failures.length + 1) verdicts) next :=
      Node.due_start known stage _ next next_known
    have whole_too : rules = (before ++ [sub]) ++ next :: rest := by rw [whole, List.append_cons]
    have level_too : (before ++ [sub]).length = more.length := by simp [more, level]
    have next_passes : passesAt verdicts more.length (.group name args .any rules) =
        (next.value (ofChild more.length verdicts)).passed := by
      rw [whole_too, ← level_too]
      exact passesAt_eq name args _ next rest
    have next_right : ∀ outcome, (Manner.start ⟨known, .shortCircuit⟩ next : Node (Slot P) ε) = .ended outcome →
        outcome = .ok (next.value (ofChild more.length verdicts)) := by
      intro outcome at_once
      have sound := Sound.start (P := P) (ε := ε) (ofChild more.length verdicts) next_known
      rw [at_once] at sound
      exact sound.ended
    have longer : more.length = failures.length + 1 := by simp [more]
    rw [ih whole_too level_too next_right next_passes]
    rw [longer] at next_passes
    simp only [due, next_passes, longer, begun, current_passes, fails, triedFrom, Operation.stops]
    rfl
  | case5 => rfl

/-- A node that decides has the same leaves due as before. -/
theorem Node.Decides.due_eq {node node' : Node (Slot P) ε}
    (decides : Decides (Manner.start ⟨known, .shortCircuit⟩) node node')
    (sound : Sound known verdicts rule node) :
    due stage verdicts node' = due stage verdicts node := by
  induction decides generalizing verdicts rule with
  | all settled =>
    obtain ⟨decisions, rfl⟩ := sound.settled settled
    simp [due, Node.dueFrom_ended]
  | race | raceFault | inRace => exact sound.not_race.elim
  | allFault member => exact (sound.faultless member).elim
  | inOrder =>
    obtain ⟨name, args, before, sub, rfl, level, all_known, inside⟩ := sound.current
    refine due_settleInOrder all_known rfl level ?_
    rintro outcome same
    cases same
    exact inside.ended
  | inAll _ ih =>
    obtain ⟨sub, inside⟩ := sound.child
    simp only [due, Node.dueFrom_append, dueFrom, Nat.zero_add, ih inside]
  | inCurrent _ ih =>
    obtain ⟨_, _, _, sub, _, _, _, inside⟩ := sound.current
    simp only [due, ih inside]

/-- A node that decides keeps the leaves that are open. -/
theorem Node.Decides.keeps {node node' : Node (Slot P) ε} {leaf : Condition} {slot : Slot P} {path : Path}
    (decides : Decides (Manner.start ⟨known, .shortCircuit⟩) node node')
    (sound : Sound known verdicts rule node) (at_ : At leaf slot path node) : At leaf slot path node' := by
  induction decides generalizing verdicts rule path with
  | all settled =>
    obtain ⟨decisions, rfl⟩ := sound.settled settled
    obtain ⟨child, member, inner, inside⟩ := at_.of_all
    obtain ⟨decision, -, rfl⟩ := List.mem_map.mp member
    cases inside
  | race | raceFault | inRace => exact sound.not_race.elim
  | allFault member => exact (sound.faultless member).elim
  | inOrder =>
    cases at_ with
    | inOrder inside => cases inside
  | @inAll _ _ _ child child' _ ih =>
    obtain ⟨sub, inside⟩ := sound.child
    rcases at_.all_replaced child' with ⟨inner, rfl, there⟩ | unchanged
    · exact .all (ih inside there)
    · exact unchanged
  | inCurrent _ ih =>
    obtain ⟨_, _, _, sub, _, _, _, inside⟩ := sound.current
    cases at_ with
    | inOrder there => exact .inOrder (ih inside there)

end Evaluation

end Curation
