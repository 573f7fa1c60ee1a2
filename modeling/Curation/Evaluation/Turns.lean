import Curation.Evaluation.Node

/-!
Turns of the checks of an evaluation. Only so many checks are at work at a time; the others stand in
line, and the one that is let in next is the one that has waited longest.
-/
namespace Curation

namespace Evaluation

/-- A leaf whose check has not ended: new, in line with a ticket, or at work. -/
inductive Slot (P : Type) where
  | fresh
  | inLine (ticket : Nat)
  | atWork (ticket : Nat) (call : P)

/-- A leaf at work. -/
structure Working (P : Type) where
  path : Node.Path
  ticket : Nat
  leaf : Condition
  call : P

end Evaluation

/-- An evaluation under way; `P` is the state of a check at work. -/
structure Evaluation (P ε : Type) where
  tree : Evaluation.Node (Evaluation.Slot P) ε
  /-- The next ticket. -/
  tickets : Nat := 0

namespace Evaluation

variable {P ε : Type}

/-- How rules begin: which checks are known, and how nodes that ask for any child run. -/
structure Manner where
  known : String → Bool
  strategy : OrStrategy

def Manner.start (manner : Manner) (rule : Rule) : Node (Slot P) ε :=
  Node.start manner.known .fresh manner.strategy rule

def begin_ (manner : Manner) (rule : Rule) : Evaluation P ε := { tree := manner.start rule }

/-- The leaves that are not in line yet, those less deep first, from left to right. -/
def newcomers (evaluation : Evaluation P ε) : List (Node.Path × Condition) :=
  let fresh := evaluation.tree.leaves.filterMap fun (path, depth, leaf, slot) =>
    match slot with
    | .fresh => some (depth, path, leaf)
    | _ => none
  (fresh.mergeSort fun a b => decide (a.1 ≤ b.1)).map fun (_, path, leaf) => (path, leaf)

def putSlot (path : Node.Path) (leaf : Condition) (slot : Slot P) (evaluation : Evaluation P ε) :
    Evaluation P ε :=
  { evaluation with tree := Node.put (.open_ leaf slot) path evaluation.tree }

/-- Gives every newcomer a ticket. -/
def lineUp (evaluation : Evaluation P ε) : Evaluation P ε :=
  evaluation.newcomers.foldl
    (fun evaluation (path, leaf) =>
      { evaluation.putSlot path leaf (.inLine evaluation.tickets) with
        tickets := evaluation.tickets + 1 })
    evaluation

/-- The leaves at work. -/
def working (evaluation : Evaluation P ε) : List (Working P) :=
  evaluation.tree.leaves.filterMap fun (path, _, leaf, slot) =>
    match slot with
    | .atWork ticket call => some ⟨path, ticket, leaf, call⟩
    | _ => none

/-- The leaves in line, with their tickets. -/
def line (evaluation : Evaluation P ε) : List (Node.Path × Nat × Condition) :=
  evaluation.tree.leaves.filterMap fun (path, _, leaf, slot) =>
    match slot with
    | .inLine ticket => some (path, ticket, leaf)
    | _ => none

/-- The entry with the lowest ticket. -/
def lowest? : List (Node.Path × Nat × Condition) → Option (Node.Path × Nat × Condition)
  | [] => none
  | entry :: rest =>
    match lowest? rest with
    | none => some entry
    | some other => if other.2.1 < entry.2.1 then some other else some entry

/-- The leaf that is let in next, if a permit is free. -/
def next? (permits : Nat) (evaluation : Evaluation P ε) : Option (Node.Path × Nat × Condition) :=
  if evaluation.working.length < permits then lowest? evaluation.line else none

/-- A check came to its end. -/
def finish (path : Node.Path) (outcome : Except (EvaluationFault ε) Decision)
    (evaluation : Evaluation P ε) : Evaluation P ε :=
  { evaluation with tree := Node.put (.ended outcome) path evaluation.tree }

/-- Decides what can be decided; what is not needed any more is gone afterwards. -/
def settle (manner : Manner) (evaluation : Evaluation P ε) : Evaluation P ε :=
  { evaluation with tree := evaluation.tree.settle manner.start }

end Evaluation

end Curation
