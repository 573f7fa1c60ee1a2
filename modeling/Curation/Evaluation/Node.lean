import Curation.Evaluation.Decision

/-!
Evaluations under way. An evaluation is a tree of nodes: leaves hold the state of their check, inner
nodes wait for their children, and a node that needs no more of its children stops the rest.
Settling a tree changes nothing that is still open except by stopping it, and a node that waits for
children never holds a permit itself.
-/
namespace Curation.Evaluation

variable {L ε : Type}

/-- A node under way; `L` is the state of a check that has not ended. -/
inductive Node (L ε : Type) where
  | open_ (leaf : Condition) (state : L)
  | all (rule : Rule) (children : List (Node L ε))
  | race (rule : Rule) (children : List (Node L ε))
  | inOrder (rule : Rule) (failures : List Decision) (current : Node L ε) (rest : List Rule)
  | ended (outcome : Except (EvaluationFault ε) Decision)

namespace Node

mutual
/-- A rule as its evaluation begins; no check is at work yet. -/
def start (known : String → Bool) (fresh : L) (strategy : OrStrategy) : Rule → Node L ε
  | .condition leaf =>
    if known leaf.name then .open_ leaf fresh else .ended (.error (.unknownCheck leaf.name))
  | .group name args operation [] =>
    .ended (.ok (.noRules (.group name args operation [])))
  | .group name args .all (first :: rest) =>
    .all (.group name args .all (first :: rest))
      (start known fresh strategy first :: startAll known fresh strategy rest)
  | .group name args .any (first :: rest) =>
    match strategy with
    | .shortCircuit =>
      .inOrder (.group name args .any (first :: rest)) [] (start known fresh strategy first) rest
    | .concurrent =>
      .race (.group name args .any (first :: rest))
        (start known fresh strategy first :: startAll known fresh strategy rest)

def startAll (known : String → Bool) (fresh : L) (strategy : OrStrategy) :
    List Rule → List (Node L ε)
  | [] => []
  | rule :: rest => start known fresh strategy rule :: startAll known fresh strategy rest
end

/-- The outcome of a node that has ended. -/
def outcome? : Node L ε → Option (Except (EvaluationFault ε) Decision)
  | .ended outcome => some outcome
  | _ => none

/-- What is known of some children: the first fault, and the decisions up to the first child that
is still open. -/
def firstFault? : List (Node L ε) → Option (EvaluationFault ε)
  | [] => none
  | .ended (.error fault) :: _ => some fault
  | _ :: rest => firstFault? rest

/-- The decisions of the children before the first that has none, and whether that is all. -/
def decided : List (Node L ε) → List Decision × Bool
  | [] => ([], true)
  | .ended (.ok decision) :: rest =>
    let (decisions, whole) := decided rest
    (decision :: decisions, whole)
  | _ :: _ => ([], false)

/-- A node that asks for all its children, once it can be decided. -/
def settleAll (rule : Rule) (children : List (Node L ε)) : Node L ε :=
  match firstFault? children with
  | some fault => .ended (.error fault)
  | none =>
    match decided children with
    | (decisions, true) => .ended (.ok (.ofAll rule decisions))
    | (_, false) => .all rule children

/-- A node that asks for any of its children at once: decided by the first that passes as soon as
all before it have failed. -/
def settleRace (rule : Rule) (children : List (Node L ε)) : Node L ε :=
  match firstFault? children with
  | some fault => .ended (.error fault)
  | none =>
    let (decisions, whole) := decided children
    match decisions.find? (·.passed) with
    | some passed => .ended (.ok passed)
    | none => if whole then .ended (.ok (.ofNone rule decisions)) else .race rule children

/-- A node that tries its children one by one: the next one begins when the current one has
failed. -/
def settleInOrder (begin_ : Rule → Node L ε) (rule : Rule) (failures : List Decision)
    (current : Node L ε) (rest : List Rule) : Node L ε :=
  match current with
  | .ended (.error fault) => .ended (.error fault)
  | .ended (.ok decision) =>
    if decision.passed then .ended (.ok decision)
    else
      let failures := failures ++ [decision]
      match rest with
      | [] => .ended (.ok (.ofNone rule failures))
      | next :: rest => settleInOrder begin_ rule failures (begin_ next) rest
  | current => .inOrder rule failures current rest
  termination_by rest.length

mutual
/-- Decides every node that can be decided, from the leaves upwards. -/
def settle (begin_ : Rule → Node L ε) : Node L ε → Node L ε
  | .all rule children => settleAll rule (settleEach begin_ children)
  | .race rule children => settleRace rule (settleEach begin_ children)
  | .inOrder rule failures current rest =>
    settleInOrder begin_ rule failures (settle begin_ current) rest
  | node => node

def settleEach (begin_ : Rule → Node L ε) : List (Node L ε) → List (Node L ε)
  | [] => []
  | node :: rest => settle begin_ node :: settleEach begin_ rest
end

mutual
/-- Whether nothing is left to decide. A child that has just begun in the place of one that failed
may have something to decide at once. -/
def isSettled : Node L ε → Bool
  | .all rule children =>
    isSettledEach children && (settleAll rule children).outcome?.isNone
  | .race rule children =>
    isSettledEach children && (settleRace rule children).outcome?.isNone
  | .inOrder _ _ current _ => isSettled current && current.outcome?.isNone
  | _ => true

def isSettledEach : List (Node L ε) → Bool
  | [] => true
  | node :: rest => isSettled node && isSettledEach rest
end

/-- Where a leaf is: the position among the children at each inner node. -/
abbrev Path := List Nat

mutual
/-- The open leaves with their paths and with how many nodes above them run children at once. -/
def leaves : Node L ε → List (Path × Nat × Condition × L)
  | .open_ leaf state => [([], 0, leaf, state)]
  | .all _ children => leavesOf 0 children
  | .race _ children => leavesOf 0 children
  | .inOrder _ failures current _ =>
    (leaves current).map fun (path, depth, rest) => (failures.length :: path, depth, rest)
  | _ => []

def leavesOf (position : Nat) : List (Node L ε) → List (Path × Nat × Condition × L)
  | [] => []
  | node :: rest =>
    (leaves node).map (fun (path, depth, rest) => (position :: path, depth + 1, rest))
      ++ leavesOf (position + 1) rest
end

mutual
/-- Replaces the open leaf at a path. -/
def put (new : Node L ε) : Path → Node L ε → Node L ε
  | _, .open_ _ _ => new
  | position :: path, .all rule children => .all rule (putAt new path position children)
  | position :: path, .race rule children => .race rule (putAt new path position children)
  | _ :: path, .inOrder rule failures current rest =>
    .inOrder rule failures (put new path current) rest
  | _, node => node

def putAt (new : Node L ε) (path : Path) : Nat → List (Node L ε) → List (Node L ε)
  | _, [] => []
  | 0, node :: rest => put new path node :: rest
  | n + 1, node :: rest => node :: putAt new path n rest
end

end Node

end Curation.Evaluation
