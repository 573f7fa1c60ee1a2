import Curation.Proofs.Evaluation.Schedule

/-! Evaluations that differ only in what their checks at work hold. Nothing that an
evaluation decides looks into a check at work, so replacing what they hold, by one
function everywhere, can be done before a step as well as after it. -/
namespace Curation.Evaluation

variable {L L' P P' ε : Type}

namespace Node

mutual
/-- The same node with other states at its leaves. -/
def map (f : L → L') : Node L ε → Node L' ε
  | .open_ leaf state => .open_ leaf (f state)
  | .all rule children => .all rule (mapEach f children)
  | .race rule children => .race rule (mapEach f children)
  | .inOrder rule failures current rest => .inOrder rule failures (map f current) rest
  | .ended outcome => .ended outcome

def mapEach (f : L → L') : List (Node L ε) → List (Node L' ε)
  | [] => []
  | node :: rest => map f node :: mapEach f rest
end

variable (f : L → L')

theorem outcome?_map (node : Node L ε) : (node.map f).outcome? = node.outcome? := by
  cases node with
  | open_ | all | race | inOrder | ended => rfl

mutual
theorem map_start (known : String → Bool) (fresh : L) (strategy : OrStrategy) :
    (rule : Rule) → (start known fresh strategy rule : Node L ε).map f = start known (f fresh) strategy rule
  | .condition leaf => by
    unfold start
    split <;> rfl
  | .group name args operation [] => by simp only [start, map]
  | .group name args .all (first :: rest) => by
    simp only [start, map, mapEach, map_start known fresh strategy first,
      mapEach_startAll known fresh strategy rest]
  | .group name args .any (first :: rest) => by
    have firsts := map_start known fresh strategy first
    have others := mapEach_startAll known fresh strategy rest
    cases strategy with
    | shortCircuit => simp only [start, map, firsts]
    | concurrent => simp only [start, map, mapEach, firsts, others]

theorem mapEach_startAll (known : String → Bool) (fresh : L) (strategy : OrStrategy) :
    (rules : List Rule) → mapEach f (startAll known fresh strategy rules : List (Node L ε)) =
      startAll known (f fresh) strategy rules
  | [] => rfl
  | rule :: rest => by
    simp only [startAll, mapEach, map_start known fresh strategy rule,
      mapEach_startAll known fresh strategy rest]
end

/-! ## Settling -/

theorem firstFault?_mapEach (children : List (Node L ε)) :
    firstFault? (mapEach f children) = firstFault? children := by
  induction children with
  | nil => rfl
  | cons node rest ih =>
    match node with
    | .ended (.error fault) => rfl
    | .ended (.ok _) | .open_ .. | .all .. | .race .. | .inOrder .. => exact ih

theorem decided_mapEach (children : List (Node L ε)) :
    decided (mapEach f children) = decided children := by
  induction children with
  | nil => rfl
  | cons node rest ih =>
    match node with
    | .ended (.ok decision) => simp only [mapEach, map, decided, ih]
    | .ended (.error _) | .open_ .. | .all .. | .race .. | .inOrder .. => rfl

theorem settleAll_mapEach (rule : Rule) (children : List (Node L ε)) :
    settleAll rule (mapEach f children) = (settleAll rule children).map f := by
  unfold settleAll
  rw [firstFault?_mapEach, decided_mapEach]
  split
  · rfl
  · split <;> rfl

theorem settleRace_mapEach (rule : Rule) (children : List (Node L ε)) :
    settleRace rule (mapEach f children) = (settleRace rule children).map f := by
  unfold settleRace
  rw [firstFault?_mapEach, decided_mapEach]
  split
  · rfl
  · simp only
    split
    · rfl
    · split <;> rfl

variable {begin_ : Rule → Node L ε} {begin' : Rule → Node L' ε}

theorem settleInOrder_map (same : ∀ rule, (begin_ rule).map f = begin' rule) (rule : Rule)
    (failures : List Decision) (current : Node L ε) (rest : List Rule) :
    settleInOrder begin' rule failures (current.map f) rest =
      (settleInOrder begin_ rule failures current rest).map f := by
  fun_induction settleInOrder begin_ rule failures current rest with
  | case1 => simp [map, settleInOrder]
  | case2 failures rest decision passes => simp [map, settleInOrder, passes]
  | case3 failures decision fails all_failed =>
    simp [map, settleInOrder, fails, all_failed]
  | case4 failures decision fails more next rest ih =>
    rw [← ih, same]
    simp [map, settleInOrder, fails, more]
  | case5 failures rest current faultless undecided =>
    cases current with
    | ended outcome =>
      cases outcome with
      | error fault => exact absurd rfl (faultless fault)
      | ok decision => exact absurd rfl (undecided decision)
    | open_ | all | race | inOrder => simp [map, settleInOrder]

mutual
theorem settle_map (same : ∀ rule, (begin_ rule).map f = begin' rule) :
    (node : Node L ε) → settle begin' (node.map f) = (settle begin_ node).map f
  | .open_ _ _ => rfl
  | .all rule children => by
    simp only [map, settle, settleEach_mapEach same children, settleAll_mapEach]
  | .race rule children => by
    simp only [map, settle, settleEach_mapEach same children, settleRace_mapEach]
  | .inOrder rule failures current rest => by
    simp only [map, settle, settle_map same current, settleInOrder_map f same]
  | .ended _ => rfl

theorem settleEach_mapEach (same : ∀ rule, (begin_ rule).map f = begin' rule) :
    (nodes : List (Node L ε)) → settleEach begin' (mapEach f nodes) = mapEach f (settleEach begin_ nodes)
  | [] => rfl
  | node :: rest => by
    simp only [mapEach, settleEach, settle_map same node, settleEach_mapEach same rest]
end

mutual
theorem isSettled_map : (node : Node L ε) → (node.map f).isSettled = node.isSettled
  | .open_ _ _ => rfl
  | .all rule children => by
    simp only [map, isSettled, isSettledEach_mapEach children, settleAll_mapEach, outcome?_map]
  | .race rule children => by
    simp only [map, isSettled, isSettledEach_mapEach children, settleRace_mapEach, outcome?_map]
  | .inOrder rule failures current rest => by
    simp only [map, isSettled, isSettled_map current, outcome?_map]
  | .ended _ => rfl

theorem isSettledEach_mapEach : (nodes : List (Node L ε)) →
    isSettledEach (mapEach f nodes) = isSettledEach nodes
  | [] => rfl
  | node :: rest => by
    simp only [mapEach, isSettledEach, isSettled_map node, isSettledEach_mapEach rest]
end

/-! ## Leaves -/

/-- The entry of a leaf with another state. -/
def mapEntry (entry : Path × Nat × Condition × L) : Path × Nat × Condition × L' :=
  (entry.1, entry.2.1, entry.2.2.1, f entry.2.2.2)

mutual
theorem leaves_map : (node : Node L ε) → (node.map f).leaves = node.leaves.map (mapEntry f)
  | .open_ _ _ => rfl
  | .all _ children => leavesOf_mapEach children 0
  | .race _ children => leavesOf_mapEach children 0
  | .inOrder _ failures current _ => by
    simp only [map, leaves, leaves_map current, List.map_map]
    rfl
  | .ended _ => rfl

theorem leavesOf_mapEach : (nodes : List (Node L ε)) → (position : Nat) →
    leavesOf position (mapEach f nodes) = (leavesOf position nodes).map (mapEntry f)
  | [], _ => rfl
  | node :: rest, position => by
    simp only [mapEach, leavesOf, leaves_map node, leavesOf_mapEach rest, List.map_append,
      List.map_map]
    rfl
end

mutual
theorem put_map (new : Node L ε) : (node : Node L ε) → (path : Path) →
    put (new.map f) path (node.map f) = (put new path node).map f
  | .open_ _ _, path => by cases path <;> rfl
  | .all rule children, [] => rfl
  | .all rule children, position :: path => by
    simp only [map, put, putAt_mapEach new children]
  | .race rule children, [] => rfl
  | .race rule children, position :: path => by
    simp only [map, put, putAt_mapEach new children]
  | .inOrder rule failures current rest, [] => rfl
  | .inOrder rule failures current rest, position :: path => by
    simp only [map, put, put_map new current]
  | .ended _, path => by cases path <;> rfl

theorem putAt_mapEach (new : Node L ε) : (nodes : List (Node L ε)) → (path : Path) →
    (position : Nat) →
    putAt (new.map f) path position (mapEach f nodes) = mapEach f (putAt new path position nodes)
  | [], _, position => by cases position <;> rfl
  | node :: rest, path, 0 => by simp only [mapEach, putAt, put_map new node]
  | node :: rest, path, position + 1 => by simp only [mapEach, putAt, putAt_mapEach new rest]
end

end Node

/-! ## Turns -/

def Slot.map (f : P → P') : Slot P → Slot P'
  | .fresh => .fresh
  | .inLine ticket => .inLine ticket
  | .atWork ticket call => .atWork ticket (f call)

def Working.map (f : P → P') (working : Working P) : Working P' :=
  ⟨working.path, working.ticket, working.leaf, f working.call⟩

/-- The same evaluation with its checks at work holding something else. -/
def map (f : P → P') (evaluation : Evaluation P ε) : Evaluation P' ε :=
  ⟨evaluation.tree.map (Slot.map f), evaluation.tickets⟩

variable (f : P → P') (evaluation : Evaluation P ε)

theorem map_begin (manner : Manner) (rule : Rule) :
    (begin_ manner rule : Evaluation P ε).map f = begin_ manner rule := by
  simp only [map, begin_, Manner.start, Node.map_start, Slot.map]

theorem settle_map (manner : Manner) : (evaluation.map f).settle manner = (evaluation.settle manner).map f := by
  have same (rule : Rule) : (manner.start rule : Node (Slot P) ε).map (Slot.map f) = manner.start rule :=
    Node.map_start (Slot.map f) manner.known .fresh manner.strategy rule
  simp only [settle, map, Node.settle_map (Slot.map f) same]

theorem newcomers_map : (evaluation.map f).newcomers = evaluation.newcomers := by
  simp only [newcomers, map, Node.leaves_map, List.filterMap_map]
  congr 3
  apply funext
  rintro ⟨path, depth, leaf, slot⟩
  cases slot with
  | fresh | inLine | atWork => rfl

theorem working_map : (evaluation.map f).working = evaluation.working.map (Working.map f) := by
  simp only [working, map, Node.leaves_map, List.filterMap_map, List.map_filterMap]
  congr 1
  apply funext
  rintro ⟨path, depth, leaf, slot⟩
  cases slot with
  | fresh | inLine | atWork => rfl

theorem line_map : (evaluation.map f).line = evaluation.line := by
  simp only [line, map, Node.leaves_map, List.filterMap_map]
  congr 1
  apply funext
  rintro ⟨path, depth, leaf, slot⟩
  cases slot with
  | fresh | inLine | atWork => rfl

theorem next?_map (permits : Nat) : (evaluation.map f).next? permits = evaluation.next? permits := by
  simp only [next?, working_map, line_map, List.length_map]

theorem putSlot_map (path : Node.Path) (leaf : Condition) (slot : Slot P) :
    (evaluation.map f).putSlot path leaf (slot.map f) = (evaluation.putSlot path leaf slot).map f := by
  simp only [putSlot, map, ← Node.put_map (Slot.map f), Node.map]

theorem finish_map (path : Node.Path) (outcome : Except (EvaluationFault ε) Decision) :
    (evaluation.map f).finish path outcome = (evaluation.finish path outcome).map f := by
  simp only [finish, map, ← Node.put_map (Slot.map f), Node.map]

theorem lineUp_map : (evaluation.map f).lineUp = evaluation.lineUp.map f := by
  unfold lineUp
  rw [newcomers_map]
  generalize evaluation.newcomers = entries
  induction entries generalizing evaluation with
  | nil => rfl
  | cons entry rest ih =>
    simp only [List.foldl_cons]
    rw [← ih]
    congr 1
    simp only [putSlot, map, ← Node.put_map (Slot.map f), Node.map, Slot.map]

end Curation.Evaluation
