import Curation.Proofs.Evaluation.JobRuns
import Mathlib.Logic.Relation

/-! Evaluations that drop what they no longer need are evaluations in full detail in
which winding down takes no time. Whatever is asked to stop can wind down without
another permit and without another check, so each move of an evaluation is a number
of steps of its jobs. -/
namespace Curation.Evaluation

open Node (Path At Decides)
open Relation (ReflTransGen)
open Job

variable {L P ε : Type} {manner : Manner}

/-! ## Steps that need nothing -/

/-- A job goes on with something that is allowed at any time. -/
def Slips (manner : Manner) (job job' : Job ε) : Prop :=
  ∃ effect, Goes manner job effect job' ∧ ∀ may free, effect.Allowed may free

theorem Slips.quiet {job job' : Job ε} (goes : Goes manner job .quiet job') : Slips manner job job' :=
  ⟨_, goes, fun _ _ => trivial⟩

private theorem Slips.inside {position : Nat} {child child' parent parent' : Job ε}
    (slips : Slips manner child child')
    (inside : ∀ effect, Goes manner child effect child' →
      Goes manner parent (effect.below position) parent') : Slips manner parent parent' := by
  obtain ⟨effect, goes, allowed⟩ := slips
  exact ⟨_, inside effect goes, fun may free =>
    (Effect.allowed_below effect may position free).mpr (allowed _ _)⟩

/-- A node whose children go on by themselves. -/
def Contains (manner : Manner) (parent : List (Job ε) → Job ε) : Prop :=
  ∀ before child child' after, Slips manner child child' →
    Slips manner (parent (before ++ child :: after)) (parent (before ++ child' :: after))

private theorem Contains.steps {parent : List (Job ε) → Job ε} (contains : Contains manner parent)
    (before after : List (Job ε)) {child child' : Job ε}
    (steps : ReflTransGen (Slips manner) child child') :
    ReflTransGen (Slips manner) (parent (before ++ child :: after))
      (parent (before ++ child' :: after)) :=
  steps.lift (fun child => parent (before ++ child :: after)) fun _ _ => contains before _ _ after

private theorem contains_all (rule : Rule) (asked : Bool) :
    Contains (ε := ε) manner fun children => .all rule children asked :=
  fun _ _ _ _ slips => slips.inside fun _ => .inAll

private theorem contains_race (rule : Rule) (asked : Bool) :
    Contains (ε := ε) manner fun children => .race rule children asked :=
  fun _ _ _ _ slips => slips.inside fun _ => .inRace

private theorem contains_closing (ending : Ending ε) (asked : Bool) :
    Contains manner fun children => .closing ending children asked :=
  fun _ _ _ _ slips => slips.inside fun _ => .inClosing

private theorem slips_current (rule : Rule) (failures : List Decision) (rest : List Rule)
    {current current' : Job ε} (steps : ReflTransGen (Slips manner) current current') :
    ReflTransGen (Slips manner) (.inOrder rule failures current rest)
      (.inOrder rule failures current' rest) :=
  steps.lift (fun current => Job.inOrder rule failures current rest)
    fun _ _ slips => slips.inside fun _ => .inCurrent

/-! ## Winding down -/

theorem askEach_ended {children : List (Job ε)} (ended : ∀ child ∈ children, child.hasEnded = true) :
    askEach children = children := by
  induction children with
  | nil => rfl
  | cons job rest ih =>
    obtain ⟨ending, rfl⟩ := eq_ended (ended job (.head _))
    simp only [askEach, ask, ih fun child member => ended child (.tail _ member)]

private theorem closed_steps (ending : Ending ε) {children : List (Job ε)} (asked : Bool)
    (ended : ∀ child ∈ children, child.hasEnded = true) :
    ReflTransGen (Slips manner) (.closing ending children asked)
      (.ended (if asked then none else ending)) :=
  .single (.quiet (.closed ended))

mutual
/-- A job that was asked to stop can stop, needing nothing. -/
theorem winds_down (manner : Manner) : (job : Job ε) → job.hasEnded = false →
    ReflTransGen (Slips manner) job.ask (.ended none)
  | .spawned _ _, _ => .single (.quiet .drops)
  | .inLine _ _, _ => .single (.quiet .leaves)
  | .admitted _ _, _ => .single ⟨_, .turnsBack, fun _ _ => trivial⟩
  | .atWork _ _, _ => .single ⟨_, .aborts, fun _ _ => trivial⟩
  | .all rule children asked, _ => by
    simp only [ask]
    split
    · rename_i gathered
      have stopped : Slips manner (.all rule children true) _ :=
        .quiet (.allStopped (.inr ⟨rfl, gathered⟩))
      exact .head stopped (closing_winds_down manner none children false)
    · obtain ⟨children', ended, steps⟩ :=
        all_wind_down manner (contains_all rule true) children []
      have gathered : isGathered children' = true :=
        Bool.or_eq_true_iff.mpr (.inr (List.all_eq_true.mpr ended))
      have stopped : Slips manner (.all rule children' true) _ :=
        .quiet (.allStopped (.inr ⟨rfl, gathered⟩))
      rw [askEach_ended ended] at stopped
      exact (steps.tail stopped).trans (closed_steps none false ended)
  | .race rule children asked, _ => by
    have stopped : Slips manner (.race rule children true) _ := .quiet (.raceStopped (.inr rfl))
    exact .head stopped (closing_winds_down manner none children false)
  | .closing ending children asked, _ => closing_winds_down manner ending children true
  | .inOrder rule failures current rest, _ => by
    simp only [ask]
    split
    · exact .refl
    · rename_i under_way
      have steps := winds_down manner current (Bool.eq_false_iff.mpr under_way)
      exact (slips_current rule failures rest steps).tail (.quiet .inOrderStopped)

/-- A node that closes can wait until its children have wound down. -/
theorem closing_winds_down (manner : Manner) (ending : Ending ε) (children : List (Job ε))
    (asked : Bool) : ReflTransGen (Slips manner) (.closing ending (askEach children) asked)
      (.ended (if asked then none else ending)) := by
  obtain ⟨children', ended, steps⟩ :=
    all_wind_down manner (contains_closing ending asked) children []
  exact steps.trans (closed_steps ending asked ended)

theorem all_wind_down (manner : Manner) {parent : List (Job ε) → Job ε}
    (contains : Contains manner parent) : (children before : List (Job ε)) →
    ∃ children', (∀ child ∈ children', child.hasEnded = true) ∧
      ReflTransGen (Slips manner) (parent (before ++ askEach children)) (parent (before ++ children'))
  | [], before => ⟨[], by simp, .refl⟩
  | job :: rest, before => by
    obtain ⟨ending, here⟩ : ∃ ending, ReflTransGen (Slips manner) job.ask (.ended ending) := by
      cases known : job.hasEnded with
      | true =>
        obtain ⟨ending, rfl⟩ := eq_ended known
        exact ⟨ending, .refl⟩
      | false => exact ⟨none, winds_down manner job known⟩
    obtain ⟨rest', ended, later⟩ := all_wind_down manner contains rest (before ++ [.ended ending])
    simp only [List.append_assoc, List.singleton_append] at later
    exact ⟨.ended ending :: rest', List.forall_mem_cons.mpr ⟨rfl, ended⟩,
      (contains.steps before (askEach rest) here).trans later⟩
end

/-! ## Nodes as jobs -/

namespace Job

mutual
/-- A node under way in full detail: nobody is asked to stop, and who is not at
work waits for a permit. -/
def ofNode : Node (Slot P) ε → Job ε
  | .open_ leaf (.atWork ..) => .atWork leaf false
  | .open_ leaf _ => .inLine leaf false
  | .all rule children => .all rule (ofNodes children) false
  | .race rule children => .race rule (ofNodes children) false
  | .inOrder rule failures current rest => .inOrder rule failures (ofNode current) rest
  | .ended outcome => .ended (some outcome)

def ofNodes : List (Node (Slot P) ε) → List (Job ε)
  | [] => []
  | node :: rest => ofNode node :: ofNodes rest
end

theorem ofNodes_eq_map (children : List (Node (Slot P) ε)) : ofNodes children = children.map ofNode := by
  induction children with
  | nil => rfl
  | cons node rest ih => simp only [ofNodes, ih, List.map_cons]

/-- A parent sees the outcome of a node, and nothing else of it. -/
theorem seen_ofNode (node : Node (Slot P) ε) : (ofNode node).seen.outcome? = node.outcome? := by
  cases node with
  | open_ leaf slot => cases slot <;> rfl
  | all | race | inOrder | ended => rfl

theorem ended_mem_ofNodes {children : List (Node (Slot P) ε)}
    {outcome : Except (EvaluationFault ε) Decision} (member : .ended outcome ∈ children) :
    .ended (some outcome) ∈ ofNodes children :=
  ofNodes_eq_map children ▸ List.mem_map.mpr ⟨_, member, rfl⟩

theorem stopped_not_mem_ofNodes (children : List (Node (Slot P) ε)) : .ended none ∉ ofNodes children := by
  rw [ofNodes_eq_map]
  intro member
  obtain ⟨node, _, same⟩ := List.mem_map.mp member
  match node with
  | .open_ _ (.atWork ..) | .open_ _ (.inLine _) | .open_ _ .fresh | .all .. | .race ..
  | .inOrder .. | .ended _ => cases same

private def atWork? : Path × Nat × Condition × Slot P → Option Path
  | (path, _, _, .atWork ..) => some path
  | _ => none

mutual
private theorem working_ofNode : (node : Node (Slot P) ε) →
    (ofNode node).working = node.leaves.filterMap atWork? ∧
      (ofNode node).holds = (ofNode node).working.length
  | .open_ leaf slot => by cases slot <;> exact ⟨rfl, rfl⟩
  | .all _ children => workingOf_ofNodes children 0
  | .race _ children => workingOf_ofNodes children 0
  | .inOrder _ failures current _ => by
    obtain ⟨works, holds_⟩ := working_ofNode current
    refine ⟨?_, by simp [ofNode, holds, working, holds_]⟩
    simp only [ofNode, working, works, Node.leaves, List.filterMap_map, List.map_filterMap]
    congr 1
    funext ⟨path, depth, leaf, slot⟩
    cases slot <;> rfl
  | .ended _ => ⟨rfl, rfl⟩

private theorem workingOf_ofNodes : (children : List (Node (Slot P) ε)) → ∀ position,
    workingOf position (ofNodes children) = (Node.leavesOf position children).filterMap atWork? ∧
      holdsOf (ofNodes children) = (workingOf position (ofNodes children)).length
  | [], _ => ⟨rfl, rfl⟩
  | node :: rest, position => by
    obtain ⟨works, holds_⟩ := working_ofNode node
    obtain ⟨others_work, others_hold⟩ := workingOf_ofNodes rest (position + 1)
    refine ⟨?_, by simp [ofNodes, holdsOf, workingOf, holds_, others_hold]⟩
    simp only [ofNodes, workingOf, works, others_work, Node.leavesOf, List.filterMap_append,
      List.filterMap_map, List.map_filterMap]
    congr 2
    funext ⟨path, depth, leaf, slot⟩
    cases slot <;> rfl
end

/-- The checks at work are the same. -/
theorem working_eq (evaluation : Evaluation P ε) :
    (ofNode evaluation.tree).working = evaluation.working.map (·.path) := by
  rw [(working_ofNode evaluation.tree).1, Evaluation.working, List.map_filterMap]
  congr 1
  funext ⟨path, depth, leaf, slot⟩
  cases slot <;> rfl

theorem holds_eq (evaluation : Evaluation P ε) :
    (ofNode evaluation.tree).holds = evaluation.working.length := by
  rw [(working_ofNode evaluation.tree).2, working_eq, List.length_map]

end Job

/-! ## Deciding looks at outcomes alone -/

private theorem firstFault?_congr {L' : Type} {children : List (Node L ε)}
    {children' : List (Node L' ε)} (same : children.map (·.outcome?) = children'.map (·.outcome?)) :
    Node.firstFault? children = Node.firstFault? children' := by
  have by_outcomes {L : Type} (children : List (Node L ε)) : Node.firstFault? children =
      (children.map (·.outcome?)).findSome? (·.bind (Except.casesOn · some fun _ => none)) := by
    fun_induction Node.firstFault? children with
    | case1 => rfl
    | case2 fault rest => rfl
    | case3 node rest other ih =>
      cases node with
      | ended outcome =>
        cases outcome with
        | error fault => exact absurd rfl (other fault)
        | ok decision => exact ih
      | open_ | all | race | inOrder => exact ih
  rw [by_outcomes, by_outcomes, same]

private theorem decided_congr {L' : Type} {children : List (Node L ε)}
    {children' : List (Node L' ε)} (same : children.map (·.outcome?) = children'.map (·.outcome?)) :
    Node.decided children = Node.decided children' := by
  have by_outcomes {L : Type} (children : List (Node L ε)) : Node.decided children =
      let decisions := (children.map (·.outcome?)).map (·.bind Except.toOption)
      ((decisions.takeWhile Option.isSome).filterMap id, decisions.all Option.isSome) := by
    fun_induction Node.decided children with
    | case1 => rfl
    | case2 decision rest decisions whole known ih =>
      rw [known] at ih
      obtain ⟨rfl, rfl⟩ := Prod.mk.inj ih
      rfl
    | case3 node rest other =>
      cases node with
      | ended outcome =>
        cases outcome with
        | error fault => rfl
        | ok decision => exact absurd rfl (other decision)
      | open_ | all | race | inOrder => rfl
  rw [by_outcomes, by_outcomes, same]

private theorem settleAll_congr {L' : Type} {rule : Rule} {children : List (Node L ε)}
    {children' : List (Node L' ε)} (same : children.map (·.outcome?) = children'.map (·.outcome?))
    {outcome : Except (EvaluationFault ε) Decision}
    (settled : Node.settleAll rule children = .ended outcome) :
    Node.settleAll rule children' = .ended outcome := by
  unfold Node.settleAll at settled ⊢
  rw [← firstFault?_congr same, ← decided_congr same]
  split at settled
  · cases settled
    rfl
  · split at settled
    · cases settled
      rfl
    · cases settled

private theorem settleRace_congr {L' : Type} {rule : Rule} {children : List (Node L ε)}
    {children' : List (Node L' ε)} (same : children.map (·.outcome?) = children'.map (·.outcome?))
    {outcome : Except (EvaluationFault ε) Decision}
    (settled : Node.settleRace rule children = .ended outcome) :
    Node.settleRace rule children' = .ended outcome := by
  unfold Node.settleRace at settled ⊢
  rw [← firstFault?_congr same, ← decided_congr same]
  split at settled
  · cases settled
    rfl
  · simp only at settled ⊢
    split at settled
    · cases settled
      rfl
    · split at settled
      · rename_i whole
        cases settled
        rw [if_pos whole]
      · cases settled

/-! ## Each move is a number of steps -/

private theorem seen_ofNodes (children : List (Node (Slot P) ε)) :
    children.map (·.outcome?) = ((ofNodes children).map seen).map (·.outcome?) := by
  simp [ofNodes_eq_map, Function.comp_def, seen_ofNode]

mutual
/-- A rule opens as it begins. -/
theorem spawned_steps (P : Type) (manner : Manner) : (rule : Rule) →
    ReflTransGen (Slips manner) (.spawned rule false) (ofNode (manner.start rule : Node (Slot P) ε))
  | .condition leaf => by
    have opened : Slips manner _ (opened manner (.condition leaf) : Job ε) := .quiet .opens
    refine .single ?_
    simp only [Job.opened] at opened
    simp only [Manner.start, Node.start]
    split at opened <;> simp_all [ofNode]
  | .group name args operation [] => .single (.quiet .opens)
  | .group name args .all (first :: rest) => by
    have steps := spawned_each P manner (contains_all (.group name args .all (first :: rest)) false)
      (first :: rest) []
    exact .head (.quiet .opens) steps
  | .group name args .any (first :: rest) => by
    have opened : Slips manner _ (opened manner (.group name args .any (first :: rest)) : Job ε) :=
      .quiet .opens
    have firsts := spawned_steps P manner first
    have each := spawned_each P manner
      (contains_race (.group name args .any (first :: rest)) false) (first :: rest) []
    simp only [Job.opened] at opened
    simp only [Manner.start, Node.start] at firsts ⊢
    cases known : manner.strategy with
    | shortCircuit =>
      simp only [known] at opened firsts ⊢
      exact .head opened (slips_current _ _ _ firsts)
    | concurrent =>
      simp only [known, Node.startAll] at opened each ⊢
      exact .head opened each

theorem spawned_each (P : Type) (manner : Manner) {parent : List (Job ε) → Job ε}
    (contains : Contains manner parent) : (rules : List Rule) → ∀ before,
      ReflTransGen (Slips manner) (parent (before ++ rules.map (.spawned · false)))
        (parent (before ++ ofNodes (Node.startAll manner.known .fresh manner.strategy rules :
          List (Node (Slot P) ε))))
  | [], before => .refl
  | rule :: rest, before => by
    have here := contains.steps before (rest.map (.spawned · false)) (spawned_steps P manner rule)
    have later := spawned_each P manner contains rest
      (before ++ [ofNode (manner.start rule : Node (Slot P) ε)])
    simp only [List.append_assoc, List.singleton_append] at later
    exact here.trans later
end

/-- A node that knows its outcome ends once its children have wound down. -/
private theorem closing_steps (outcome : Except (EvaluationFault ε) Decision) {job : Job ε}
    {children : List (Job ε)}
    (goes : Goes manner job .quiet (.closing (some outcome) (askEach children) false)) :
    ReflTransGen (Slips manner) job (.ended (some outcome)) :=
  .head (.quiet goes) (closing_winds_down manner (some outcome) children false)

private theorem all_steps {rule : Rule} {children : List (Node (Slot P) ε)}
    {outcome : Except (EvaluationFault ε) Decision}
    (settled : Node.settleAll rule children = .ended outcome) :
    ReflTransGen (Slips manner) (.all rule (ofNodes children) false) (.ended (some outcome)) := by
  have seen := settleAll_congr (seen_ofNodes children) settled
  cases outcome with
  | error fault => exact closing_steps _ (.allFault (mem_of_seen (fault_of_settleAll seen)))
  | ok decision => exact closing_steps _ (.allDecided seen)

private theorem race_steps {rule : Rule} {children : List (Node (Slot P) ε)}
    {outcome : Except (EvaluationFault ε) Decision}
    (settled : Node.settleRace rule children = .ended outcome) :
    ReflTransGen (Slips manner) (.race rule (ofNodes children) false) (.ended (some outcome)) := by
  have seen := settleRace_congr (seen_ofNodes children) settled
  cases outcome with
  | error fault => exact closing_steps _ (.raceFault (mem_of_seen (fault_of_settleRace seen)))
  | ok decision =>
    exact closing_steps _ (.raceDecided (stopped_not_mem_ofNodes children) seen)

private theorem inOrder_steps (rule : Rule) (failures : List Decision)
    (current : Node (Slot P) ε) (rest : List Rule) :
    ReflTransGen (Slips manner) (.inOrder rule failures (ofNode current) rest)
      (ofNode (Node.settleInOrder manner.start rule failures current rest)) := by
  have advances (failures : List Decision) (rest : List Rule)
      (outcome : Except (EvaluationFault ε) Decision) :
      Slips manner (.inOrder rule failures (.ended (some outcome)) rest)
        (advanced rule failures rest outcome) := .quiet .advances
  fun_induction Node.settleInOrder manner.start rule failures current rest with
  | case1 failures rest fault => exact .single (advances failures rest (.error fault))
  | case2 failures rest decision passes =>
    have step := advances failures rest (.ok decision)
    simp only [advanced, passes, ↓reduceIte] at step
    exact .single step
  | case3 failures decision fails more =>
    have step := advances failures [] (.ok decision)
    simp only [advanced, fails] at step
    exact .single step
  | case4 failures decision fails more next rest ih =>
    have step := advances failures (next :: rest) (.ok decision)
    simp only [advanced, fails] at step
    have opened := slips_current rule more rest (spawned_steps (ε := ε) P manner next)
    exact .head step (opened.trans ih)
  | case5 failures rest current faultless undecided => exact .refl

/-- A decision is a number of steps: the node that decides closes, and what it does
not need any more winds down. -/
theorem decides_steps {node node' : Node (Slot P) ε} (decides : Decides manner.start node node') :
    ReflTransGen (Slips manner) (ofNode node) (ofNode node') := by
  induction decides with
  | all settled => exact all_steps settled
  | race settled => exact race_steps settled
  | allFault member => exact closing_steps _ (.allFault (ended_mem_ofNodes member))
  | raceFault member => exact closing_steps _ (.raceFault (ended_mem_ofNodes member))
  | inOrder => exact inOrder_steps _ _ _ _
  | @inAll rule before after child child' _ ih =>
    simp only [ofNode, ofNodes_eq_map, List.map_append, List.map_cons]
    exact (contains_all rule false).steps _ _ ih
  | @inRace rule before after child child' _ ih =>
    simp only [ofNode, ofNodes_eq_map, List.map_append, List.map_cons]
    exact (contains_race rule false).steps _ _ ih
  | inCurrent _ ih => exact slips_current _ _ _ ih

/-! ## Leaves -/

/-- The same effect at a place. -/
def Effect.at_ (effect : Effect ε) (path : Path) : Effect ε := path.foldr Effect.below effect

private theorem admits_at (path : Path) : (Effect.admits : Effect ε).at_ path = .admits := by
  induction path with
  | nil => rfl
  | cons position path ih => exact congrArg (Effect.below position) ih

private theorem starts_at (path : Path) : (Effect.starts [] : Effect ε).at_ path = .starts path := by
  induction path with
  | nil => rfl
  | cons position path ih => exact congrArg (Effect.below position) ih

private theorem ends_at (path : Path) (leaf : Condition) (outcome? : Option (Except ε Verdict)) :
    (Effect.ends [] leaf outcome?).at_ path = .ends path leaf outcome? := by
  induction path with
  | nil => rfl
  | cons position path ih => exact congrArg (Effect.below position) ih

/-- What surrounds a leaf goes along with whatever takes its place. -/
theorem Node.At.surrounded {leaf : Condition} {slot : Slot P} {path : Path} {node : Node (Slot P) ε}
    (at_ : At leaf slot path node) (manner : Manner) : ∃ within : Job ε → Job ε,
      within (ofNode (.open_ leaf slot : Node (Slot P) ε)) = ofNode node ∧
      (∀ new : Node (Slot P) ε, within (ofNode new) = ofNode (Node.put new path node)) ∧
      ∀ job effect job', Goes manner job effect job' →
        Goes manner (within job) (effect.at_ path) (within job') := by
  induction at_ with
  | here => exact ⟨id, rfl, fun _ => by simp [Node.put], fun _ _ _ goes => goes⟩
  | @all rule path before after child _ ih =>
    obtain ⟨within, same, put, inside⟩ := ih
    refine ⟨fun job => .all rule (before.map ofNode ++ within job :: after.map ofNode) false, ?_, ?_, ?_⟩
    · simp [ofNode, ofNodes_eq_map, same]
    · intro new
      simp [Node.put, Node.putAt_append, ofNode, ofNodes_eq_map, put]
    · intro job effect job' goes
      have goes : Goes manner (.all rule (before.map ofNode ++ within job :: after.map ofNode) false) _ _ :=
        .inAll (inside job effect job' goes)
      rwa [List.length_map] at goes
  | @race rule path before after child _ ih =>
    obtain ⟨within, same, put, inside⟩ := ih
    refine ⟨fun job => .race rule (before.map ofNode ++ within job :: after.map ofNode) false, ?_, ?_, ?_⟩
    · simp [ofNode, ofNodes_eq_map, same]
    · intro new
      simp [Node.put, Node.putAt_append, ofNode, ofNodes_eq_map, put]
    · intro job effect job' goes
      have goes : Goes manner (.race rule (before.map ofNode ++ within job :: after.map ofNode) false) _ _ :=
        .inRace (inside job effect job' goes)
      rwa [List.length_map] at goes
  | @inOrder rule path failures rest child _ ih =>
    obtain ⟨within, same, put, inside⟩ := ih
    exact ⟨fun job => .inOrder rule failures (within job) rest, by simp [ofNode, same],
      fun new => by simp [Node.put, ofNode, put], fun _ _ _ goes => .inCurrent (inside _ _ _ goes)⟩

/-! ## Every order -/

namespace Jobs

variable {permits steps : Nat} {may : MayEnd ε} {rule : Rule} {jobs : Jobs ε}

theorem Run.slip {root : Job ε} (run : Run manner permits may rule steps jobs)
    (more : ReflTransGen (Slips manner) jobs.root root) :
    ∃ steps jobs', Run manner permits may rule steps jobs' ∧ jobs'.root = root := by
  induction more with
  | refl => exact ⟨steps, jobs, run, rfl⟩
  | tail _ slips ih =>
    obtain ⟨steps, jobs, run, rfl⟩ := ih
    obtain ⟨effect, goes, allowed⟩ := slips
    exact ⟨_, _, run.goes goes (allowed _ _), rfl⟩

/-- Whatever the order so far, all can be asked to stop and will have. -/
theorem Run.stop (run : Run manner permits may rule steps jobs) :
    ∃ steps jobs' ending, Run manner permits may rule steps jobs' ∧ jobs'.root = .ended ending := by
  cases known : jobs.root.hasEnded with
  | true =>
    obtain ⟨ending, same⟩ := eq_ended known
    exact ⟨steps, jobs, ending, run, same⟩
  | false =>
    obtain ⟨steps, jobs', run, same⟩ := run.interrupt.slip (winds_down manner jobs.root known)
    exact ⟨steps, jobs', none, run, same⟩

end Jobs

/-- Each order of an evaluation is one of its jobs. -/
theorem Run.in_detail {permits moves : Nat} {spoken : Says ε} {may : MayEnd ε} {rule : Rule}
    {evaluation : Evaluation P ε}
    (may_say : ∀ path leaf outcome, spoken path leaf outcome → may path leaf (some outcome))
    (run : Run manner permits spoken rule moves evaluation) :
    ∃ steps jobs, Jobs.Run manner permits may rule steps jobs ∧ jobs.root = ofNode evaluation.tree := by
  induction run with
  | start => exact Jobs.Run.start.slip (spawned_steps P manner rule)
  | @move _ evaluation _ _ move ih =>
    obtain ⟨steps, jobs, run, same⟩ := ih
    cases move with
    | @lineUp path leaf new =>
      obtain ⟨within, old, put, -⟩ := (mem_newcomers.mp new).surrounded (ε := ε) manner
      refine ⟨steps, jobs, run, ?_⟩
      rw [same, ← old]
      exact put (.open_ leaf (.inLine evaluation.tickets))
    | @letIn path ticket leaf call next =>
      obtain ⟨at_, free⟩ := next?_some next
      obtain ⟨within, old, put, inside⟩ := at_.surrounded (ε := ε) manner
      have permit : 0 < jobs.free := by
        have balanced := run.balanced.permits
        rw [same, holds_eq] at balanced
        omega
      have admitted := inside (.inLine leaf false) _ _ .admits
      have old : within (.inLine leaf false) = ofNode evaluation.tree := old
      rw [old, ← same, admits_at] at admitted
      have started := inside (.admitted leaf false) _ _ .starts
      rw [starts_at] at started
      refine ⟨_, _, (run.goes admitted permit).goes started trivial, ?_⟩
      exact put (.open_ leaf (.atWork ticket call))
    | @finish working outcome member said =>
      obtain ⟨within, old, put, inside⟩ := (mem_working.mp member).surrounded (ε := ε) manner
      have ended := inside (.atWork working.leaf false) _ _ (.ends (some outcome))
      have old : within (.atWork working.leaf false) = ofNode evaluation.tree := old
      rw [old, ← same, ends_at] at ended
      exact ⟨_, _, run.goes ended (may_say _ _ _ said), put (.ended (conclusion working.leaf outcome))⟩
    | decide decides =>
      have steps := decides_steps decides
      rw [← same] at steps
      exact run.slip steps
  | @goOn _ evaluation _ _ goes ih =>
    obtain ⟨steps, jobs, run, same⟩ := ih
    cases goes with
    | @at_work working call member =>
      obtain ⟨within, old, put, -⟩ := (mem_working.mp member).surrounded (ε := ε) manner
      refine ⟨steps, jobs, run, ?_⟩
      rw [same, ← old]
      exact put (.open_ working.leaf (.atWork working.ticket call))

end Curation.Evaluation
