import Curation.Proofs.Evaluation.Jobs
import Curation.Proofs.Evaluation.Progress

/-! Jobs in every order. Main statement: the permits are kept to, someone can always
go on, and what has ended has left nothing behind. -/
namespace Curation.Evaluation

open Node (Path)
open Job

variable {ε : Type}

/-! ## Someone can always go on -/

/-- A job can go on as things are. -/
def Able (manner : Manner) (may : MayEnd ε) (free : Nat) (job : Job ε) : Prop :=
  ∃ effect job', Goes manner job effect job' ∧ effect.Allowed may free

section

variable {manner : Manner} {may : MayEnd ε} {free : Nat}

private theorem able_quiet {job job' : Job ε} (goes : Goes manner job .quiet job') :
    Able manner may free job :=
  ⟨_, _, goes, trivial⟩

/-- A node is able if a child is, whichever kind of node it is. -/
private theorem Able.inside {position : Nat} {child : Job ε} (parent : Job ε → Job ε)
    (able : Able manner (ofChild position may) free child)
    (inside : ∀ effect child', Goes manner child effect child' →
      Goes manner (parent child) (effect.below position) (parent child')) :
    Able manner may free (parent child) := by
  obtain ⟨effect, child', goes, allowed⟩ := able
  exact ⟨_, _, inside effect child' goes, (Effect.allowed_below effect may position free).mpr allowed⟩

/-- Children that have ended, none of them stopped, have outcomes. -/
private theorem seen_ended {children : List (Job ε)} (ended : ∀ child ∈ children, child.hasEnded = true)
    (unstopped : .ended none ∉ children) : ∀ node ∈ children.map seen, node.outcome?.isSome := by
  intro node member
  obtain ⟨child, inside, rfl⟩ := List.mem_map.mp member
  obtain ⟨ending, rfl⟩ := eq_ended (ended child inside)
  cases ending with
  | none => exact absurd inside unstopped
  | some outcome => rfl

theorem mem_of_seen {children : List (Job ε)} {fault : EvaluationFault ε}
    (member : .ended (.error fault) ∈ children.map seen) : .ended (some (.error fault)) ∈ children := by
  obtain ⟨child, member, same⟩ := List.mem_map.mp member
  match child with
  | .ended (some outcome) => cases same; exact member
  | .ended none | .spawned .. | .inLine .. | .admitted .. | .atWork .. | .all .. | .race ..
  | .inOrder .. | .closing .. => cases same

theorem fault_of_settleAll {rule : Rule} {L : Type} {nodes : List (Node L ε)}
    {fault : EvaluationFault ε} (settled : Node.settleAll rule nodes = .ended (.error fault)) :
    .ended (.error fault) ∈ nodes := by
  unfold Node.settleAll at settled
  cases first : Node.firstFault? nodes with
  | some other =>
    simp only [first, Node.ended.injEq, Except.error.injEq] at settled
    exact settled ▸ Node.mem_of_firstFault? first
  | none =>
    simp only [first] at settled
    split at settled <;> cases settled

theorem fault_of_settleRace {rule : Rule} {L : Type} {nodes : List (Node L ε)}
    {fault : EvaluationFault ε} (settled : Node.settleRace rule nodes = .ended (.error fault)) :
    .ended (.error fault) ∈ nodes := by
  unfold Node.settleRace at settled
  cases first : Node.firstFault? nodes with
  | some other =>
    simp only [first, Node.ended.injEq, Except.error.injEq] at settled
    exact settled ▸ Node.mem_of_firstFault? first
  | none =>
    simp only [first] at settled
    split at settled
    · cases settled
    · split at settled <;> cases settled

private theorem able_all (rule : Rule) {children : List (Job ε)} (asked : Bool)
    (ended : ∀ child ∈ children, child.hasEnded = true) :
    Able manner may free (.all rule children asked) := by
  by_cases stopped : .ended none ∈ children
  · exact able_quiet (.allStopped (.inl stopped))
  obtain ⟨outcome, settled⟩ := Node.settleAll_ended rule (seen_ended ended stopped)
  cases outcome with
  | error fault => exact able_quiet (.allFault (mem_of_seen (fault_of_settleAll settled)))
  | ok decision =>
    cases asked with
    | false => exact able_quiet (.allDecided settled)
    | true =>
      have gathered : isGathered children = true :=
        Bool.or_eq_true_iff.mpr (.inr (List.all_eq_true.mpr ended))
      exact able_quiet (.allStopped (.inr ⟨rfl, gathered⟩))

private theorem able_race (rule : Rule) {children : List (Job ε)} (asked : Bool)
    (ended : ∀ child ∈ children, child.hasEnded = true) :
    Able manner may free (.race rule children asked) := by
  by_cases stopped : .ended none ∈ children ∨ asked = true
  · exact able_quiet (.raceStopped stopped)
  obtain ⟨unstopped, unasked⟩ := not_or.mp stopped
  obtain rfl : asked = false := Bool.eq_false_iff.mpr unasked
  obtain ⟨outcome, settled⟩ := Node.settleRace_ended rule (seen_ended ended unstopped)
  cases outcome with
  | error fault => exact able_quiet (.raceFault (mem_of_seen (fault_of_settleRace settled)))
  | ok decision => exact able_quiet (.raceDecided unstopped settled)

mutual
/-- A job that has not ended can go on, if a permit is free or it holds one itself:
who waits for children waits for no permit, and who waits for a permit holds none. -/
theorem able (manner : Manner) {may : MayEnd ε} (answers : ∀ path leaf, ∃ outcome?, may path leaf outcome?)
    (free : Nat) : (job : Job ε) → job.hasEnded = false → 0 < free + job.holds →
      Able manner may free job
  | .spawned rule false, _, _ => able_quiet .opens
  | .spawned rule true, _, _ => able_quiet .drops
  | .inLine leaf false, _, permitted => ⟨_, _, .admits, permitted⟩
  | .inLine leaf true, _, _ => able_quiet .leaves
  | .admitted leaf false, _, _ => ⟨_, _, .starts, trivial⟩
  | .admitted leaf true, _, _ => ⟨_, _, .turnsBack, trivial⟩
  | .atWork leaf asked, _, _ => by
    obtain ⟨outcome?, may_end⟩ := answers [] leaf
    exact ⟨_, _, .ends outcome?, may_end⟩
  | .all rule children asked, _, permitted => by
    rcases ended_or_able manner answers free children 0 with ended | held
    · exact able_all rule asked ended
    · obtain ⟨before, child, after, rfl, able⟩ := held permitted
      rw [Nat.zero_add] at able
      exact able.inside (fun child => .all rule (before ++ child :: after) asked)
        fun _ _ => .inAll
  | .race rule children asked, _, permitted => by
    rcases ended_or_able manner answers free children 0 with ended | held
    · exact able_race rule asked ended
    · obtain ⟨before, child, after, rfl, able⟩ := held permitted
      rw [Nat.zero_add] at able
      exact able.inside (fun child => .race rule (before ++ child :: after) asked)
        fun _ _ => .inRace
  | .closing ending children asked, _, permitted => by
    rcases ended_or_able manner answers free children 0 with ended | held
    · exact able_quiet (.closed ended)
    · obtain ⟨before, child, after, rfl, able⟩ := held permitted
      rw [Nat.zero_add] at able
      exact able.inside (fun child => .closing ending (before ++ child :: after) asked)
        fun _ _ => .inClosing
  | .inOrder rule failures current rest, _, permitted => by
    cases known : current.hasEnded with
    | true =>
      obtain ⟨ending, rfl⟩ := eq_ended known
      cases ending with
      | none => exact able_quiet .inOrderStopped
      | some outcome => exact able_quiet .advances
    | false =>
      have answers_below : ∀ path leaf, ∃ outcome?, ofChild failures.length may path leaf outcome? :=
        fun path leaf => answers (failures.length :: path) leaf
      exact (able manner answers_below free current known permitted).inside
        (fun current => .inOrder rule failures current rest) fun _ _ => .inCurrent
  | .ended ending, unended, _ => by cases unended

theorem ended_or_able (manner : Manner) {may : MayEnd ε}
    (answers : ∀ path leaf, ∃ outcome?, may path leaf outcome?) (free : Nat) :
    (children : List (Job ε)) → ∀ position, (∀ child ∈ children, child.hasEnded = true) ∨
      (0 < free + holdsOf children → ∃ before child after, children = before ++ child :: after ∧
        Able manner (ofChild (position + before.length) may) free child)
  | [], _ => .inl (by simp)
  | child :: rest, position => by
    have answers_below : ∀ path leaf, ∃ outcome?, ofChild position may path leaf outcome? :=
      fun path leaf => answers (position :: path) leaf
    have here : child.hasEnded = false → 0 < free + child.holds →
        ∃ before child' after, child :: rest = before ++ child' :: after ∧
          Able manner (ofChild (position + before.length) may) free child' :=
      fun unended permitted => ⟨[], child, rest, rfl, able manner answers_below free child unended permitted⟩
    rcases ended_or_able manner answers free rest (position + 1) with ended | later
    · cases known : child.hasEnded with
      | true => exact .inl (List.forall_mem_cons.mpr ⟨known, ended⟩)
      | false =>
        refine .inr fun permitted => here known ?_
        simpa [holdsOf, (ended_hold ended 0).2] using permitted
    · refine .inr fun permitted => ?_
      simp only [holdsOf] at permitted
      by_cases held : 0 < free + holdsOf rest
      · obtain ⟨before, child', after, rfl, able⟩ := later held
        refine ⟨child :: before, child', after, rfl, ?_⟩
        have shifted : position + 1 + before.length = position + (before.length + 1) := by omega
        rwa [shifted] at able
      · cases known : child.hasEnded with
        | true =>
          obtain ⟨ending, rfl⟩ := eq_ended known
          simp only [holds] at permitted
          omega
        | false => exact here known (by omega)
end

end

/-! ## Every order -/

namespace Jobs

variable {manner : Manner} {may : MayEnd ε} {permits steps : Nat} {rule : Rule} {jobs next : Jobs ε}

theorem Run.goes {effect : Effect ε} {root : Job ε} (run : Run manner permits may rule steps jobs)
    (goes : Goes manner jobs.root effect root) (allowed : effect.Allowed may jobs.free) :
    Run manner permits may rule (steps + 1)
      ⟨root, effect.permits jobs.free, effect.checks jobs.running⟩ :=
  run.step (.goes goes allowed)

/-- The books agree with the jobs. -/
structure Balanced (permits : Nat) (jobs : Jobs ε) : Prop where
  permits : jobs.free + jobs.root.holds = permits
  checks : jobs.running.Perm jobs.root.working

theorem Step.balanced (step : Step manner may jobs next) (balanced : Balanced permits jobs) :
    Balanced permits next := by
  cases step with
  | @goes effect root goes allowed =>
    refine ⟨(goes.balance allowed).trans balanced.permits, ?_⟩
    have changes := goes.working
    have checks := balanced.checks
    cases effect with
    | quiet | admits | turnsBack => exact checks.trans changes.symm
    | starts path => exact (checks.cons path).trans changes.symm
    | ends path | aborts path =>
      simpa [Effect.checks] using (checks.trans changes).erase path

/-- Whatever the order so far, the books agree with the jobs. -/
theorem Run.balanced (run : Run manner permits may rule steps jobs) : Balanced permits jobs := by
  induction run with
  | start => exact ⟨rfl, .refl _⟩
  | step _ step ih => exact step.balanced ih
  | @interrupt _ jobs _ ih =>
    obtain ⟨works, holds_, _⟩ := ask_holds jobs.root
    exact ⟨holds_ ▸ ih.permits, works ▸ ih.checks⟩

theorem Step.left_lt (step : Step manner may jobs next) : next.root.left < jobs.root.left := by
  cases step with
  | goes goes _ => exact goes.left_lt

theorem Run.steps_le (run : Run manner permits may rule steps jobs) :
    steps + jobs.root.left ≤ stepsOfRule rule := by
  induction run with
  | start => simp [left]
  | step _ step ih =>
    have less := step.left_lt
    omega
  | @interrupt _ jobs _ ih =>
    exact Nat.le_trans (Nat.add_le_add_left (ask_holds jobs.root).2.2 _) ih

/-- At most so many checks run as there are permits. -/
theorem Run.running_le (run : Run manner permits may rule steps jobs) :
    jobs.running.length ≤ permits := by
  have balanced := run.balanced
  have working := working_le_holds jobs.root
  rw [balanced.checks.length_eq]
  have permits := balanced.permits
  omega

/-- As long as the evaluation has not ended, some job can go on. -/
theorem Run.able (run : Run manner permits may rule steps jobs) (permitted : 1 ≤ permits)
    (answers : ∀ path leaf, ∃ outcome?, may path leaf outcome?) (unended : jobs.root.hasEnded = false) :
    ∃ next, Step manner may jobs next := by
  have balanced := run.balanced.permits
  obtain ⟨effect, root, goes, allowed⟩ :=
    Evaluation.able manner answers jobs.free jobs.root unended (by omega)
  exact ⟨_, .goes goes allowed⟩

/-- An evaluation that has ended leaves no check running and every permit free, and
nothing happens in it any more. -/
theorem Run.nothing_left (run : Run manner permits may rule steps jobs)
    (ended : jobs.root.hasEnded = true) :
    jobs.running = [] ∧ jobs.free = permits ∧ jobs.interrupt = jobs ∧
      ∀ next, ¬ Step manner may jobs next := by
  have balanced := run.balanced
  obtain ⟨root, free, running⟩ := jobs
  obtain ⟨ending, rfl⟩ := eq_ended ended
  refine ⟨balanced.checks.eq_nil, balanced.permits, rfl, fun next step => ?_⟩
  cases step with
  | goes goes _ => cases goes

end Jobs

end Curation.Evaluation
