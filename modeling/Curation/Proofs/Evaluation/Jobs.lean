import Curation.Proofs.Evaluation.Value

/-! Evaluations in full detail. What is not needed any more does not vanish: it is
asked to stop, and whoever asked waits until it has wound down. A check that was
asked to stop may end with a verdict all the same, or take its time; a job may be
asked before it has begun, while it waits for a permit, or after it was given one
that it has not used yet; and it may be asked again while it winds down. Permits
are counted apart from the jobs, as are the checks that run. Main statement: a step
changes what is counted and what the jobs hold by the same, and leaves less to do. -/
namespace Curation.Evaluation

open Node (Path)

/-- How a job ends: with an outcome, or stopped. -/
abbrev Ending (ε : Type) := Option (Except (EvaluationFault ε) Decision)

/-- A job under way: each holds whether it was asked to stop and has not taken note
of it. A node that is closing knows how it will end and waits for its children. -/
inductive Job (ε : Type) where
  | spawned (rule : Rule) (asked : Bool)
  | inLine (leaf : Condition) (asked : Bool)
  | admitted (leaf : Condition) (asked : Bool)
  | atWork (leaf : Condition) (asked : Bool)
  | all (rule : Rule) (children : List (Job ε)) (asked : Bool)
  | race (rule : Rule) (children : List (Job ε)) (asked : Bool)
  | inOrder (rule : Rule) (failures : List Decision) (current : Job ε) (rest : List Rule)
  | closing (ending : Ending ε) (children : List (Job ε)) (asked : Bool)
  | ended (ending : Ending ε)

variable {ε : Type}

namespace Job

def ending? : Job ε → Option (Ending ε)
  | .ended ending => some ending
  | _ => none

/-- What a parent makes of a child: its outcome, if it has one. -/
def seen : Job ε → Node Unit ε
  | .ended (some outcome) => .ended outcome
  | _ => .all .empty []

def hasEnded (job : Job ε) : Bool := job.ending?.isSome

/-- Whether a child has ended in a fault or stopped. -/
def hasFailed : Job ε → Bool
  | .ended none | .ended (some (.error _)) => true
  | _ => false

/-- Whether waiting for all of some children is over. -/
def isGathered (children : List (Job ε)) : Bool :=
  children.any hasFailed || children.all hasEnded

mutual
/-- Asks a job to stop. Whoever waits for all children passes the request on to
them as long as the waiting is not over; a race takes note of it first. -/
def ask : Job ε → Job ε
  | .spawned rule _ => .spawned rule true
  | .inLine leaf _ => .inLine leaf true
  | .admitted leaf _ => .admitted leaf true
  | .atWork leaf _ => .atWork leaf true
  | .all rule children _ =>
    .all rule (if isGathered children then children else askEach children) true
  | .race rule children _ => .race rule children true
  | .inOrder rule failures current rest =>
    if current.hasEnded then .ended none else .inOrder rule failures (ask current) rest
  | .closing ending children _ => .closing ending (askEach children) true
  | .ended ending => .ended ending

def askEach : List (Job ε) → List (Job ε)
  | [] => []
  | job :: rest => ask job :: askEach rest
end

/-- A rule as it begins; its children have not begun yet. -/
def opened (manner : Manner) : Rule → Job ε
  | .condition leaf =>
    if manner.known leaf.name then .inLine leaf false
    else .ended (some (.error (.unknownCheck leaf.name)))
  | .group name args operation [] => .ended (some (.ok (.noRules (.group name args operation []))))
  | .group name args .all (first :: rest) =>
    .all (.group name args .all (first :: rest)) ((first :: rest).map (.spawned · false)) false
  | .group name args .any (first :: rest) =>
    match manner.strategy with
    | .shortCircuit =>
      .inOrder (.group name args .any (first :: rest)) [] (.spawned first false) rest
    | .concurrent =>
      .race (.group name args .any (first :: rest)) ((first :: rest).map (.spawned · false)) false

/-- A node that tries its children in order after one of them has an outcome. -/
def advanced (rule : Rule) (failures : List Decision) (rest : List Rule) :
    Except (EvaluationFault ε) Decision → Job ε
  | .error fault => .ended (some (.error fault))
  | .ok decision =>
    if decision.passed then .ended (some (.ok decision))
    else
      match rest with
      | [] => .ended (some (.ok (.ofNone rule (failures ++ [decision]))))
      | next :: rest => .inOrder rule (failures ++ [decision]) (.spawned next false) rest

end Job

/-! ## What jobs do -/

/-- What checks may end in by themselves, each by its place and its leaf. Without an
outcome a check has stopped, asked or not. -/
abbrev MayEnd (ε : Type) := Path → Condition → Option (Except ε Verdict) → Prop

/-- What a job does to the permits and to the checks that run. -/
inductive Effect (ε : Type) where
  | quiet
  | admits
  | starts (path : Path)
  | turnsBack
  | ends (path : Path) (leaf : Condition) (outcome? : Option (Except ε Verdict))
  | aborts (path : Path)

namespace Effect

/-- The same below a node, in the child at a position. -/
def below (position : Nat) : Effect ε → Effect ε
  | .starts path => .starts (position :: path)
  | .ends path leaf outcome? => .ends (position :: path) leaf outcome?
  | .aborts path => .aborts (position :: path)
  | effect => effect

/-- A permit has to be free to be taken, and a check ends in what it may end in. -/
def Allowed (may : MayEnd ε) (free : Nat) : Effect ε → Prop
  | .admits => 0 < free
  | .ends path leaf outcome? => may path leaf outcome?
  | _ => True

/-- The permits that are free afterwards. -/
def permits (free : Nat) : Effect ε → Nat
  | .admits => free - 1
  | .turnsBack | .ends .. | .aborts _ => free + 1
  | .quiet | .starts _ => free

/-- The checks that run afterwards. -/
def checks (running : List Path) : Effect ε → List Path
  | .starts path => path :: running
  | .ends path .. | .aborts path => running.erase path
  | _ => running

end Effect

open Job

/-- One job goes on. Only a leaf deals in permits: it is admitted if one is free, and
gives it back as its check ends or if it turns back before. -/
inductive Goes (manner : Manner) : Job ε → Effect ε → Job ε → Prop where
  | opens {rule : Rule} : Goes manner (.spawned rule false) .quiet (opened manner rule)
  | drops {rule : Rule} : Goes manner (.spawned rule true) .quiet (.ended none)
  | admits {leaf : Condition} : Goes manner (.inLine leaf false) .admits (.admitted leaf false)
  | leaves {leaf : Condition} : Goes manner (.inLine leaf true) .quiet (.ended none)
  | starts {leaf : Condition} :
    Goes manner (.admitted leaf false) (.starts []) (.atWork leaf false)
  | turnsBack {leaf : Condition} : Goes manner (.admitted leaf true) .turnsBack (.ended none)
  | ends {leaf : Condition} {asked : Bool} (outcome? : Option (Except ε Verdict)) :
    Goes manner (.atWork leaf asked) (.ends [] leaf outcome?) (.ended (outcome?.map (conclusion leaf)))
  | aborts {leaf : Condition} : Goes manner (.atWork leaf true) (.aborts []) (.ended none)
  | allStopped {rule : Rule} {children : List (Job ε)} {asked : Bool} :
    .ended none ∈ children ∨ (asked = true ∧ isGathered children = true) →
    Goes manner (.all rule children asked) .quiet (.closing none (askEach children) false)
  | allFault {rule : Rule} {children : List (Job ε)} {asked : Bool} {fault : EvaluationFault ε} :
    .ended (some (.error fault)) ∈ children →
    Goes manner (.all rule children asked) .quiet
      (.closing (some (.error fault)) (askEach children) false)
  | allDecided {rule : Rule} {children : List (Job ε)} {decision : Decision} :
    Node.settleAll rule (children.map seen) = .ended (.ok decision) →
    Goes manner (.all rule children false) .quiet
      (.closing (some (.ok decision)) (askEach children) false)
  | raceStopped {rule : Rule} {children : List (Job ε)} {asked : Bool} :
    .ended none ∈ children ∨ asked = true →
    Goes manner (.race rule children asked) .quiet (.closing none (askEach children) false)
  | raceFault {rule : Rule} {children : List (Job ε)} {fault : EvaluationFault ε} :
    .ended (some (.error fault)) ∈ children →
    Goes manner (.race rule children false) .quiet
      (.closing (some (.error fault)) (askEach children) false)
  | raceDecided {rule : Rule} {children : List (Job ε)} {decision : Decision} :
    .ended none ∉ children → Node.settleRace rule (children.map seen) = .ended (.ok decision) →
    Goes manner (.race rule children false) .quiet
      (.closing (some (.ok decision)) (askEach children) false)
  | closed {ending : Ending ε} {children : List (Job ε)} {asked : Bool} :
    (∀ child ∈ children, child.hasEnded = true) →
    Goes manner (.closing ending children asked) .quiet (.ended (if asked then none else ending))
  | inOrderStopped {rule : Rule} {failures : List Decision} {rest : List Rule} :
    Goes manner (.inOrder rule failures (.ended none) rest) .quiet (.ended none)
  | advances {rule : Rule} {failures : List Decision} {rest : List Rule}
      {outcome : Except (EvaluationFault ε) Decision} :
    Goes manner (.inOrder rule failures (.ended (some outcome)) rest) .quiet
      (advanced rule failures rest outcome)
  | inAll {rule : Rule} {before after : List (Job ε)} {child child' : Job ε} {asked : Bool}
      {effect : Effect ε} :
    Goes manner child effect child' →
    Goes manner (.all rule (before ++ child :: after) asked) (effect.below before.length)
      (.all rule (before ++ child' :: after) asked)
  | inRace {rule : Rule} {before after : List (Job ε)} {child child' : Job ε} {asked : Bool}
      {effect : Effect ε} :
    Goes manner child effect child' →
    Goes manner (.race rule (before ++ child :: after) asked) (effect.below before.length)
      (.race rule (before ++ child' :: after) asked)
  | inClosing {ending : Ending ε} {before after : List (Job ε)} {child child' : Job ε} {asked : Bool}
      {effect : Effect ε} :
    Goes manner child effect child' →
    Goes manner (.closing ending (before ++ child :: after) asked) (effect.below before.length)
      (.closing ending (before ++ child' :: after) asked)
  | inCurrent {rule : Rule} {failures : List Decision} {current current' : Job ε} {rest : List Rule}
      {effect : Effect ε} :
    Goes manner current effect current' →
    Goes manner (.inOrder rule failures current rest) (effect.below failures.length)
      (.inOrder rule failures current' rest)

/-- All jobs of an evaluation, with the permits that are free and the checks that
have started and not ended, as they were counted on the way. -/
structure Jobs (ε : Type) where
  root : Job ε
  free : Nat
  running : List Path := []

namespace Jobs

inductive Step (manner : Manner) (may : MayEnd ε) : Jobs ε → Jobs ε → Prop where
  | goes {jobs : Jobs ε} {effect : Effect ε} {root : Job ε} :
    Goes manner jobs.root effect root → effect.Allowed may jobs.free →
    Step manner may jobs ⟨root, effect.permits jobs.free, effect.checks jobs.running⟩

/-- The whole evaluation is asked to stop. -/
def interrupt (jobs : Jobs ε) : Jobs ε := { jobs with root := jobs.root.ask }

/-- The states that an evaluation can come to, with the number of steps on the way.
Being interrupted, at any time and however often, does not count. -/
inductive Run (manner : Manner) (permits : Nat) (may : MayEnd ε) (rule : Rule) :
    Nat → Jobs ε → Prop where
  | start : Run manner permits may rule 0 { root := .spawned rule false, free := permits }
  | step {steps : Nat} {jobs next : Jobs ε} :
    Run manner permits may rule steps jobs → Step manner may jobs next →
    Run manner permits may rule (steps + 1) next
  | interrupt {steps : Nat} {jobs : Jobs ε} :
    Run manner permits may rule steps jobs → Run manner permits may rule steps jobs.interrupt

end Jobs

/-! ## What jobs hold -/

namespace Job

mutual
/-- The places of the checks at work. -/
def working : Job ε → List Path
  | .atWork _ _ => [[]]
  | .all _ children _ => workingOf 0 children
  | .race _ children _ => workingOf 0 children
  | .closing _ children _ => workingOf 0 children
  | .inOrder _ failures current _ => (working current).map (failures.length :: ·)
  | _ => []

def workingOf (position : Nat) : List (Job ε) → List Path
  | [] => []
  | job :: rest => (working job).map (position :: ·) ++ workingOf (position + 1) rest
end

mutual
/-- How many permits a job holds. Inner nodes hold none themselves. -/
def holds : Job ε → Nat
  | .admitted _ _ | .atWork _ _ => 1
  | .all _ children _ => holdsOf children
  | .race _ children _ => holdsOf children
  | .closing _ children _ => holdsOf children
  | .inOrder _ _ current _ => holds current
  | _ => 0

def holdsOf : List (Job ε) → Nat
  | [] => 0
  | job :: rest => holds job + holdsOf rest
end

mutual
/-- The steps that a rule which has not begun takes at most. -/
def stepsOfRule : Rule → Nat
  | .condition _ => 4
  | .group _ _ _ children => stepsOfRules children + 3

def stepsOfRules : List Rule → Nat
  | [] => 0
  | rule :: rest => stepsOfRule rule + stepsOfRules rest + 1
end

mutual
/-- The steps that a job has left at most. -/
def left : Job ε → Nat
  | .spawned rule _ => stepsOfRule rule
  | .inLine _ _ => 3
  | .admitted _ _ => 2
  | .atWork _ _ => 1
  | .all _ children _ => leftOf children + 2
  | .race _ children _ => leftOf children + 2
  | .inOrder _ _ current rest => left current + stepsOfRules rest + 1
  | .closing _ children _ => leftOf children + 1
  | .ended _ => 0

def leftOf : List (Job ε) → Nat
  | [] => 0
  | job :: rest => left job + leftOf rest
end

theorem workingOf_append (position : Nat) (before after : List (Job ε)) :
    workingOf position (before ++ after) =
      workingOf position before ++ workingOf (position + before.length) after := by
  induction before generalizing position with
  | nil => simp [workingOf]
  | cons job before ih => simp [workingOf, ih, Nat.add_assoc, Nat.add_comm 1]

theorem holdsOf_append (before after : List (Job ε)) :
    holdsOf (before ++ after) = holdsOf before + holdsOf after := by
  induction before with
  | nil => simp [holdsOf]
  | cons job before ih => simp only [List.cons_append, holdsOf, ih]; omega

theorem leftOf_append (before after : List (Job ε)) :
    leftOf (before ++ after) = leftOf before + leftOf after := by
  induction before with
  | nil => simp [leftOf]
  | cons job before ih => simp only [List.cons_append, leftOf, ih]; omega

private theorem spawned_holds (rules : List Rule) (position : Nat) :
    workingOf position (rules.map (.spawned · false) : List (Job ε)) = [] ∧
      holdsOf (rules.map (.spawned · false) : List (Job ε)) = 0 ∧
      leftOf (rules.map (.spawned · false) : List (Job ε)) ≤ stepsOfRules rules := by
  induction rules generalizing position with
  | nil => simp [workingOf, holdsOf, leftOf]
  | cons rule rest ih =>
    obtain ⟨works, holds_, left_⟩ := ih (position + 1)
    refine ⟨by simp [workingOf, working, works], by simp [holdsOf, holds, holds_], ?_⟩
    simp only [List.map_cons, leftOf, left, stepsOfRules]
    omega

/-- What a rule holds as it begins. -/
theorem opened_holds (manner : Manner) (rule : Rule) :
    (opened manner rule : Job ε).working = [] ∧ (opened manner rule : Job ε).holds = 0 ∧
      (opened manner rule : Job ε).left < stepsOfRule rule := by
  cases rule with
  | condition leaf =>
    simp only [opened]
    split <;> simp [working, holds, left, stepsOfRule]
  | group name args operation children =>
    cases children with
    | nil => simp [opened, working, holds, left, stepsOfRule]
    | cons first rest =>
      obtain ⟨works, holds_, left_⟩ := spawned_holds (ε := ε) (first :: rest) 0
      cases operation with
      | all =>
        refine ⟨works, holds_, ?_⟩
        simp only [opened, left, stepsOfRule]
        omega
      | any =>
        simp only [opened]
        split
        · simp only [working, holds, left, stepsOfRule, stepsOfRules, List.map_nil, true_and]
          omega
        · refine ⟨works, holds_, ?_⟩
          simp only [left, stepsOfRule]
          omega

theorem advanced_holds (rule : Rule) (failures : List Decision) (rest : List Rule)
    (outcome : Except (EvaluationFault ε) Decision) :
    (advanced rule failures rest outcome).working = [] ∧
      (advanced rule failures rest outcome).holds = 0 ∧
      (advanced rule failures rest outcome).left < stepsOfRules rest + 1 := by
  unfold advanced
  split
  · simp [working, holds, left]
  · split
    · simp [working, holds, left]
    · split
      · simp [working, holds, left]
      · simp only [working, holds, left, stepsOfRules, List.map_nil, true_and]
        omega

mutual
/-- Being asked to stop leaves a job what it holds. -/
theorem ask_holds : (job : Job ε) → job.ask.working = job.working ∧ job.ask.holds = job.holds ∧
    job.ask.left ≤ job.left
  | .spawned _ _ | .inLine _ _ | .admitted _ _ | .atWork _ _ | .ended _ | .race _ _ _ =>
    ⟨rfl, rfl, Nat.le_refl _⟩
  | .all rule children asked => by
    obtain ⟨works, holds_, left_⟩ := askEach_holds children 0
    simp only [ask, working, holds, left]
    split
    · exact ⟨rfl, rfl, Nat.le_refl _⟩
    · exact ⟨works, holds_, by omega⟩
  | .closing ending children asked => by
    obtain ⟨works, holds_, left_⟩ := askEach_holds children 0
    simp only [ask, working, holds, left]
    exact ⟨works, holds_, by omega⟩
  | .inOrder rule failures current rest => by
    obtain ⟨works, holds_, left_⟩ := ask_holds current
    simp only [ask]
    split
    · rename_i ended
      cases current with
      | ended ending => simp [working, holds, left]
      | spawned | inLine | admitted | atWork | all | race | inOrder | closing => cases ended
    · simp only [working, holds, left, works, holds_, true_and]
      omega

theorem askEach_holds : (children : List (Job ε)) → ∀ position,
    workingOf position (askEach children) = workingOf position children ∧
      holdsOf (askEach children) = holdsOf children ∧ leftOf (askEach children) ≤ leftOf children
  | [], _ => ⟨rfl, rfl, Nat.le_refl _⟩
  | job :: rest, position => by
    obtain ⟨works, holds_, left_⟩ := ask_holds job
    obtain ⟨others_work, others_hold, others_left⟩ := askEach_holds rest (position + 1)
    simp only [askEach, workingOf, holdsOf, leftOf, works, holds_, others_work, others_hold, true_and]
    omega
end

theorem eq_ended {job : Job ε} (ended : job.hasEnded = true) : ∃ ending, job = .ended ending := by
  cases job with
  | ended ending => exact ⟨ending, rfl⟩
  | spawned | inLine | admitted | atWork | all | race | inOrder | closing => cases ended

/-- Jobs that have ended hold nothing. -/
theorem ended_hold {children : List (Job ε)} (ended : ∀ child ∈ children, child.hasEnded = true)
    (position : Nat) : workingOf position children = [] ∧ holdsOf children = 0 := by
  induction children generalizing position with
  | nil => exact ⟨rfl, rfl⟩
  | cons job rest ih =>
    obtain ⟨ending, rfl⟩ := eq_ended (ended job (.head _))
    obtain ⟨works, holds_⟩ := ih (fun child member => ended child (.tail _ member)) (position + 1)
    simp [workingOf, working, works, holdsOf, holds, holds_]

mutual
/-- No check works without a permit. -/
theorem working_le_holds : (job : Job ε) → job.working.length ≤ job.holds
  | .atWork _ _ => Nat.le_refl _
  | .spawned _ _ | .inLine _ _ | .admitted _ _ | .ended _ => Nat.zero_le _
  | .all _ children _ | .race _ children _ | .closing _ children _ => workingOf_le_holds children 0
  | .inOrder _ failures current _ => by
    have here := working_le_holds current
    simpa [working, holds] using here

theorem workingOf_le_holds : (children : List (Job ε)) → ∀ position,
    (workingOf position children).length ≤ holdsOf children
  | [], _ => Nat.le_refl _
  | job :: rest, position => by
    have here := working_le_holds job
    have later := workingOf_le_holds rest (position + 1)
    simp only [workingOf, holdsOf, List.length_append, List.length_map]
    omega
end

end Job

/-! ## What a step does to it -/

namespace Effect

/-- The checks at work before and after. -/
def Changes (before after : List Path) : Effect ε → Prop
  | .starts path => after.Perm (path :: before)
  | .ends path .. | .aborts path => before.Perm (path :: after)
  | _ => after.Perm before

private theorem Changes.inside {effect : Effect ε} {before after : List Path} (position : Nat)
    (left right : List Path) (changes : effect.Changes before after) :
    (effect.below position).Changes (left ++ (before.map (position :: ·) ++ right))
      (left ++ (after.map (position :: ·) ++ right)) := by
  have lift {some other : List Path} (perm : some.Perm other) :
      (left ++ (some.map (position :: ·) ++ right)).Perm
        (left ++ (other.map (position :: ·) ++ right)) :=
    ((perm.map _).append_right _).append_left _
  cases effect with
  | quiet | admits | turnsBack => exact lift changes
  | starts path => exact (lift changes).trans List.perm_middle
  | ends path | aborts path => exact (lift changes).trans List.perm_middle

private theorem Changes.current {effect : Effect ε} {before after : List Path} (position : Nat)
    (changes : effect.Changes before after) :
    (effect.below position).Changes (before.map (position :: ·)) (after.map (position :: ·)) := by
  simpa using Changes.inside position [] [] changes

@[simp] theorem permits_below (effect : Effect ε) (position free : Nat) :
    (effect.below position).permits free = effect.permits free := by
  cases effect <;> rfl

theorem allowed_below (effect : Effect ε) (may : MayEnd ε) (position free : Nat) :
    (effect.below position).Allowed may free ↔ effect.Allowed (ofChild position may) free := by
  cases effect <;> exact Iff.rfl

end Effect

namespace Goes

variable {manner : Manner} {job job' : Job ε} {effect : Effect ε}

theorem working (goes : Goes manner job effect job') : effect.Changes job.working job'.working := by
  induction goes with
  | opens => rw [(opened_holds manner _).1]; exact .refl _
  | drops | admits | leaves | turnsBack | inOrderStopped => exact .refl _
  | starts | ends | aborts => exact .refl _
  | allStopped | allFault | allDecided | raceStopped | raceFault | raceDecided =>
    exact .of_eq (askEach_holds _ 0).1
  | closed ended => exact .of_eq (ended_hold ended 0).1.symm
  | advances => rw [(advanced_holds _ _ _ _).1]; exact .refl _
  | @inAll _ before after _ _ _ _ _ ih | @inRace _ before after _ _ _ _ _ ih
  | @inClosing _ before after _ _ _ _ _ ih =>
    simp only [Job.working, workingOf_append, workingOf, Nat.zero_add]
    exact ih.inside _ _ _
  | inCurrent _ ih => exact ih.current _

/-- A permit is free or some job holds it. -/
theorem balance (goes : Goes manner job effect job') {may : MayEnd ε} {free : Nat}
    (allowed : effect.Allowed may free) : effect.permits free + job'.holds = free + job.holds := by
  induction goes generalizing may with
  | opens => rw [(opened_holds manner _).2.1]; rfl
  | admits => exact Nat.sub_add_cancel allowed
  | drops | leaves | inOrderStopped | starts | turnsBack | ends | aborts => rfl
  | allStopped | allFault | allDecided | raceStopped | raceFault | raceDecided =>
    exact congrArg (free + ·) (askEach_holds _ 0).2.1
  | closed ended => exact congrArg (free + ·) (ended_hold ended 0).2.symm
  | advances => rw [(advanced_holds _ _ _ _).2.1]; rfl
  | inAll _ ih | inRace _ ih | inClosing _ ih =>
    have inside := ih ((Effect.allowed_below _ may _ free).mp allowed)
    simp only [Effect.permits_below, holds, holdsOf_append, holdsOf]
    omega
  | inCurrent _ ih =>
    rw [Effect.permits_below]
    exact ih ((Effect.allowed_below _ may _ free).mp allowed)

theorem left_lt (goes : Goes manner job effect job') : job'.left < job.left := by
  induction goes with
  | opens => exact (opened_holds manner _).2.2
  | @drops rule => cases rule <;> simp [left, stepsOfRule]
  | admits | leaves | starts | turnsBack | ends | aborts | inOrderStopped | closed => simp [left]
  | @allStopped _ children | @allFault _ children | @allDecided _ children
  | @raceStopped _ children | @raceFault _ children | @raceDecided _ children =>
    have asked := (askEach_holds children 0).2.2
    simp only [left]
    omega
  | @advances rule failures rest outcome =>
    simpa [left] using (advanced_holds rule failures rest outcome).2.2
  | inAll _ ih | inRace _ ih | inClosing _ ih =>
    simp only [left, leftOf_append, leftOf]
    omega
  | inCurrent _ ih =>
    simp only [left]
    omega

end Goes

end Curation.Evaluation
