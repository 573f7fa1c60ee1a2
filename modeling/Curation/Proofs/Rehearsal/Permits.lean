import Curation.Proofs.Evaluation.WindingDown
import Curation.Proofs.Rehearsal.Orders

/-! Evaluations keep to their permits, never get stuck, and leave nothing behind,
down to each job and each permit: with jobs that spawn jobs at any depth, and jobs
that are asked to stop while they wait for a permit, work, or wind down. A rehearsal
is one of the orders that this holds of. -/
namespace Curation.Rehearsal

open Evaluation
open Evaluation.Node (Path)

variable {ε P : Type}

/-- No order of the jobs of a rule has more checks running than there are permits,
stops before the rule has ended, goes on forever, or leaves anything behind once it
has ended: no check runs, no permit is held, and nothing happens any more, whether
or not it is interrupted. -/
structure KeepsPermits (manner : Manner) (permits : Nat) (may : MayEnd ε) (rule : Rule) : Prop where
  within_permits : ∀ steps jobs, Jobs.Run manner permits may rule steps jobs →
    jobs.running.length ≤ permits
  never_stuck : ∀ steps jobs, Jobs.Run manner permits may rule steps jobs →
    jobs.root.hasEnded = false → ∃ next, Jobs.Step manner may jobs next
  bounded : ∃ bound, ∀ steps jobs, Jobs.Run manner permits may rule steps jobs → steps ≤ bound
  nothing_left : ∀ steps jobs, Jobs.Run manner permits may rule steps jobs →
    jobs.root.hasEnded = true → jobs.running = [] ∧ jobs.free = permits ∧ jobs.interrupt = jobs ∧
      ∀ next, ¬ Jobs.Step manner may jobs next

end Curation.Rehearsal
