import Curation.Proofs.Evaluation.Soundness
import Curation.Proofs.Program.Runs
import Curation.Rehearsal.Evaluating
import Mathlib.Logic.Relation

/-! A rehearsal takes one of the orders that an evaluation can take. Its clock
chooses who goes on and when the tree is settled, and each of its rounds is made
of moves, so what holds of every order holds of it unless the time runs out. -/
namespace Curation.Evaluation

open Node (Path At Decides)
open Relation (ReflTransGen)

variable {L P ε : Type} {evaluation : Evaluation P ε}

namespace Node

variable {begin_ : Rule → Node L ε}

/-! ## Settling is deciding, node by node -/

private theorem settleAll_steps (rule : Rule) (children : List (Node L ε)) :
    ReflTransGen (Decides begin_) (.all rule children) (settleAll rule children) := by
  cases settled : settleAll rule children with
  | ended outcome => exact .single (.all settled)
  | all rule' children' =>
    unfold settleAll at settled
    split at settled
    · cases settled
    · split at settled <;> cases settled
      exact .refl
  | open_ | race | inOrder =>
    unfold settleAll at settled
    split at settled
    · cases settled
    · split at settled <;> cases settled

private theorem settleRace_steps (rule : Rule) (children : List (Node L ε)) :
    ReflTransGen (Decides begin_) (.race rule children) (settleRace rule children) := by
  have cases_ : settleRace rule children = .race rule children ∨
      ∃ outcome, settleRace rule children = .ended outcome := by
    unfold settleRace
    split
    · exact .inr ⟨_, rfl⟩
    · simp only
      split
      · exact .inr ⟨_, rfl⟩
      · split
        · exact .inr ⟨_, rfl⟩
        · exact .inl rfl
  rcases cases_ with same | ⟨outcome, settled⟩
  · rw [same]
  · rw [settled]
    exact .single (.race settled)

private theorem settleInOrder_steps (rule : Rule) (failures : List Decision) (current : Node L ε)
    (rest : List Rule) :
    ReflTransGen (Decides begin_) (.inOrder rule failures current rest)
      (settleInOrder begin_ rule failures current rest) := by
  cases current with
  | ended outcome => exact .single .inOrder
  | open_ | all | race | inOrder => rw [settleInOrder] <;> simp

mutual
/-- Settling a tree is a number of decisions in it. -/
theorem settle_steps (begin_ : Rule → Node L ε) :
    (node : Node L ε) → ReflTransGen (Decides begin_) node (settle begin_ node)
  | .all rule children =>
    (settleEach_steps begin_ (.all rule) (fun _ _ _ _ => .inAll) children []).trans
      (settleAll_steps rule _)
  | .race rule children =>
    (settleEach_steps begin_ (.race rule) (fun _ _ _ _ => .inRace) children []).trans
      (settleRace_steps rule _)
  | .inOrder rule failures current rest => by
    have inside := (settle_steps begin_ current).lift
      (fun current => Node.inOrder rule failures current rest) fun _ _ => Decides.inCurrent
    exact inside.trans (settleInOrder_steps rule failures _ rest)
  | .open_ _ _ => .refl
  | .ended _ => .refl

theorem settleEach_steps (begin_ : Rule → Node L ε) (parent : List (Node L ε) → Node L ε)
    (inside : ∀ before child child' after, Decides begin_ child child' →
      Decides begin_ (parent (before ++ child :: after)) (parent (before ++ child' :: after))) :
    (children before : List (Node L ε)) →
      ReflTransGen (Decides begin_) (parent (before ++ children))
        (parent (before ++ settleEach begin_ children))
  | [], before => .refl
  | child :: rest, before => by
    have here := (settle_steps begin_ child).lift (fun child => parent (before ++ child :: rest))
      fun _ _ => inside before _ _ rest
    have later := settleEach_steps begin_ parent inside rest (before ++ [settle begin_ child])
    simp only [List.append_assoc, List.singleton_append] at later
    exact here.trans later
end

end Node

/-! ## Lining up, one newcomer after another -/

private theorem filterMap_sublist {α β γ : Type} {choose : α → Option β} {left : β → γ}
    {right : α → γ} (same : ∀ a b, choose a = some b → left b = right a) (items : List α) :
    ((items.filterMap choose).map left).Sublist (items.map right) := by
  induction items with
  | nil => simp
  | cons item rest ih =>
    cases chosen : choose item with
    | none => simpa [chosen] using ih.cons (right item)
    | some b => simpa [chosen, same item b chosen] using ih.cons_cons (right item)

theorem nodup_newcomers (evaluation : Evaluation P ε) :
    (evaluation.newcomers.map (·.1)).Nodup := by
  unfold newcomers
  simp only [List.map_map]
  refine ((List.mergeSort_perm _ _).map _).nodup_iff.mpr ?_
  refine (filterMap_sublist ?_ _).nodup (Node.nodup_leaves evaluation.tree)
  rintro ⟨path, depth, leaf, slot⟩ ⟨depth', path', leaf'⟩ chosen
  cases slot with
  | fresh => cases chosen; rfl
  | inLine | atWork => cases chosen

/-- One newcomer lines up. -/
inductive LinesUp : Evaluation P ε → Evaluation P ε → Prop where
  | enroll {evaluation : Evaluation P ε} {path : Path} {leaf : Condition} :
    At leaf .fresh path evaluation.tree → LinesUp evaluation (evaluation.enroll path leaf)

private theorem enroll_steps {entries : List (Path × Condition)}
    (new : ∀ entry ∈ entries, At entry.2 .fresh entry.1 evaluation.tree)
    (distinct : (entries.map (·.1)).Nodup) :
    ReflTransGen LinesUp evaluation
      (entries.foldl (fun evaluation entry => evaluation.enroll entry.1 entry.2) evaluation) := by
  induction entries generalizing evaluation with
  | nil => exact .refl
  | cons entry rest ih =>
    have first : At entry.2 .fresh entry.1 evaluation.tree := new entry (.head _)
    obtain ⟨apart, distinct⟩ := List.nodup_cons.mp distinct
    refine .head (.enroll first) (ih (fun other member => ?_) distinct)
    refine (new other (.tail _ member)).put_other first fun same => apart ?_
    exact List.mem_map.mpr ⟨other, member, same⟩

/-- That all line up is that one does after the other. -/
theorem lineUp_steps (evaluation : Evaluation P ε) :
    ReflTransGen LinesUp evaluation evaluation.lineUp :=
  enroll_steps (fun _ member => mem_newcomers.mp member) (nodup_newcomers evaluation)

/-! ## What holds of each check at work -/

/-- Each check at work is in a state of this kind. -/
def EachCall (holds : Path → Condition → P → Prop) (evaluation : Evaluation P ε) : Prop :=
  ∀ path leaf ticket call, At leaf (.atWork ticket call) path evaluation.tree → holds path leaf call

namespace EachCall

variable {holds : Path → Condition → P → Prop} {manner : Manner} {leaf : Condition} {path : Path}

theorem start (rule : Rule) : EachCall holds (begin_ manner rule : Evaluation P ε) := by
  intro path leaf ticket call at_
  cases Node.start_fresh rule path at_

theorem decide (each : EachCall holds evaluation) {tree : Node (Slot P) ε}
    (decides : Decides manner.start evaluation.tree tree) :
    EachCall holds { evaluation with tree } := by
  intro path leaf ticket call at_
  rcases decides.at_of at_ with new | old
  · cases new
  · exact each path leaf ticket call old

theorem decideAll (each : EachCall holds evaluation) {tree : Node (Slot P) ε}
    (steps : ReflTransGen (Decides manner.start) evaluation.tree tree) :
    EachCall holds { evaluation with tree } := by
  induction steps with
  | refl => exact each
  | tail _ decides ih => exact ih.decide decides

theorem settle (each : EachCall holds evaluation) : EachCall holds (evaluation.settle manner) :=
  each.decideAll (Node.settle_steps manner.start evaluation.tree)

/-- A leaf is replaced by a node whose checks at work are of this kind. -/
theorem put (each : EachCall holds evaluation) {slot : Slot P} (at_ : At leaf slot path evaluation.tree)
    {new : Node (Slot P) ε} (keeps : ∀ inner leaf ticket call,
      At leaf (.atWork ticket call) inner new → holds (path ++ inner) leaf call) :
    EachCall holds { evaluation with tree := Node.put new path evaluation.tree } := by
  intro path' leaf ticket call found
  rcases found.of_put at_ with ⟨inner, rfl, inside⟩ | old
  · exact keeps inner leaf ticket call inside
  · exact each path' leaf ticket call old

theorem putSlot (each : EachCall holds evaluation) {slot : Slot P}
    (at_ : At leaf slot path evaluation.tree) {ticket : Nat} {call : P} (keeps : holds path leaf call) :
    EachCall holds (evaluation.putSlot path leaf (.atWork ticket call)) := by
  refine each.put at_ fun inner leaf ticket call inside => ?_
  cases inside
  simpa using keeps

theorem finish (each : EachCall holds evaluation) {slot : Slot P}
    (at_ : At leaf slot path evaluation.tree) (outcome : Except (EvaluationFault ε) Decision) :
    EachCall holds (evaluation.finish path outcome) := by
  refine each.put at_ fun inner leaf ticket call inside => ?_
  cases inside

theorem enroll (each : EachCall holds evaluation) (new : At leaf .fresh path evaluation.tree) :
    EachCall holds (evaluation.enroll path leaf) := by
  refine each.put new fun inner leaf ticket call inside => ?_
  cases inside

theorem enrollAll (each : EachCall holds evaluation) {next : Evaluation P ε}
    (steps : ReflTransGen LinesUp evaluation next) : EachCall holds next := by
  induction steps with
  | refl => exact each
  | tail _ step ih =>
    cases step with
    | enroll new => exact ih.enroll new

theorem lineUp (each : EachCall holds evaluation) : EachCall holds evaluation.lineUp :=
  each.enrollAll (lineUp_steps evaluation)

end EachCall

end Curation.Evaluation

namespace Curation.Rehearsal

open Evaluation
open Evaluation.Node (Path At Decides)
open Relation (ReflTransGen)

variable {ε α : Type}

/-! ## A check keeps to its results however far it is -/

/-- What a check under way comes to in the end is of this kind. -/
inductive Progress.Ensures (post : Except ε α → Prop) : Progress ε α → Prop where
  | ended {outcome : Except ε α} : post outcome → Ensures post (.ended outcome)
  | waits {due : Number} {rest : Task ε α} : rest.Ensures post → Ensures post (.waits due rest)
  | gathers {branches : List Branch} {rest : Except Failure (List Int) → Task ε α} :
    (∀ outcome, (rest outcome).Ensures post) → Ensures post (.gathers branches rest)

theorem advance_ensures {post : Except ε α → Prop} {task : Task ε α} (budget : Budget)
    (ensures : task.Ensures post) (around : Surroundings) :
    (advance budget task around).1.Ensures post := by
  induction ensures generalizing around with
  | done holds | failed holds => exact .ended holds
  | @ask question next each ih =>
    cases question with
    | remote question =>
      cases question with
      | isHeldBack service | report service success => simp only [advance]; exact ih _ _
      | send request =>
        simp only [advance]
        split
        · exact .waits (each _)
        · exact ih _ _
    | together calls =>
      simp only [advance]
      split
      · exact ih _ _
      · exact .gathers each
    | cached key | keep key value ttl | timeLeft wanted | clearLogs channel fid =>
      simp only [advance]
      exact ih _ _
    | pause seconds =>
      simp only [advance]
      split
      · exact .waits (each _)
      · exact ih _ _

theorem Progress.resume_ensures {post : Except ε α → Prop} {progress : Progress ε α}
    (budget : Budget) (ensures : progress.Ensures post) (around : Surroundings) :
    (progress.resume budget around).1.Ensures post := by
  cases ensures with
  | ended holds => exact .ended holds
  | waits rest => exact advance_ensures budget rest around
  | gathers rest =>
    simp only [Progress.resume]
    split
    · exact advance_ensures budget (rest _) _
    · exact .gathers rest

/-! ## A rehearsal keeps to the orders -/

variable {manner : Manner} {permits : Nat} {may : Says ε} {rule : Rule}
  {evaluation next : Evaluation (Call ε) ε}

/-- An evaluation that some order leads to and whose checks at work will say what
they may. -/
structure OnCourse (manner : Manner) (permits : Nat) (may : Says ε) (rule : Rule)
    (evaluation : Evaluation (Call ε) ε) : Prop where
  run : ∃ moves, Run manner permits may rule moves evaluation
  calls : EachCall (fun path leaf (call : Call ε) => call.progress.Ensures (may path leaf)) evaluation

namespace OnCourse

theorem start : OnCourse manner permits may rule (.begin_ manner rule) where
  run := ⟨0, .start⟩
  calls := .start rule

theorem decide (course : OnCourse manner permits may rule evaluation)
    {tree : Node (Slot (Call ε)) ε} (decides : Decides manner.start evaluation.tree tree) :
    OnCourse manner permits may rule { evaluation with tree } where
  run := by
    obtain ⟨moves, run⟩ := course.run
    exact ⟨moves + 1, run.move (.decide decides)⟩
  calls := course.calls.decide decides

theorem decideAll (course : OnCourse manner permits may rule evaluation)
    {tree : Node (Slot (Call ε)) ε} (steps : ReflTransGen (Decides manner.start) evaluation.tree tree) :
    OnCourse manner permits may rule { evaluation with tree } := by
  induction steps with
  | refl => exact course
  | tail _ decides ih => exact ih.decide decides

theorem settle (course : OnCourse manner permits may rule evaluation) :
    OnCourse manner permits may rule (evaluation.settle manner) :=
  course.decideAll (Node.settle_steps manner.start evaluation.tree)

theorem enroll (course : OnCourse manner permits may rule evaluation) {path : Path}
    {leaf : Condition} (new : At leaf .fresh path evaluation.tree) :
    OnCourse manner permits may rule (evaluation.enroll path leaf) where
  run := by
    obtain ⟨moves, run⟩ := course.run
    exact ⟨moves + 1, run.move (.lineUp (mem_newcomers.mpr new))⟩
  calls := course.calls.enroll new

theorem enrollAll (course : OnCourse manner permits may rule evaluation)
    (steps : ReflTransGen LinesUp evaluation next) : OnCourse manner permits may rule next := by
  induction steps with
  | refl => exact course
  | tail _ step ih =>
    cases step with
    | enroll new => exact ih.enroll new

theorem lineUp (course : OnCourse manner permits may rule evaluation) :
    OnCourse manner permits may rule evaluation.lineUp :=
  course.enrollAll (lineUp_steps evaluation)

/-- A check at work ends with what it may say. -/
theorem finish (course : OnCourse manner permits may rule evaluation)
    {working : Working (Call ε)} (member : working ∈ evaluation.working)
    {outcome : Except ε Verdict} (said : may working.path working.leaf outcome) :
    OnCourse manner permits may rule
      (evaluation.finish working.path (conclusion working.leaf outcome)) where
  run := by
    obtain ⟨moves, run⟩ := course.run
    exact ⟨moves + 1, run.move (.finish member said)⟩
  calls := course.calls.finish (mem_working.mp member) _

theorem letIn (course : OnCourse manner permits may rule evaluation) {path : Path} {ticket : Nat}
    {leaf : Condition} (next : evaluation.next? permits = some (path, ticket, leaf))
    {call : Call ε} (ensures : call.progress.Ensures (may path leaf)) :
    OnCourse manner permits may rule (evaluation.putSlot path leaf (.atWork ticket call)) where
  run := by
    obtain ⟨moves, run⟩ := course.run
    exact ⟨moves + 1, run.move (.letIn call next)⟩
  calls := course.calls.putSlot (next?_some next).1 ensures

theorem goOn (course : OnCourse manner permits may rule evaluation) {working : Working (Call ε)}
    (member : working ∈ evaluation.working) {call : Call ε}
    (ensures : call.progress.Ensures (may working.path working.leaf)) :
    OnCourse manner permits may rule
      (evaluation.putSlot working.path working.leaf (.atWork working.ticket call)) where
  run := by
    obtain ⟨moves, run⟩ := course.run
    exact ⟨moves, run.goOn (.at_work call member)⟩
  calls := course.calls.putSlot (mem_working.mp member) ensures

/-- Taking in how far a check got is putting it to work and, if it has ended,
finishing it there. -/
theorem take {state : State ε} {path : Path} {ticket : Nat} {leaf : Condition} {slot : Slot (Call ε)}
    (at_ : At leaf slot path state.evaluation.tree) (start : Number) (progress : Progress ε Verdict)
    (around : Surroundings)
    (course : OnCourse manner permits may rule
      (state.evaluation.putSlot path leaf (.atWork ticket ⟨start, around.granted, progress⟩))) :
    OnCourse manner permits may rule
      (state.take path ticket leaf start progress around).evaluation := by
  have placed : At leaf (.atWork ticket (⟨start, around.granted, progress⟩ : Call ε)) path
      (state.evaluation.putSlot path leaf (.atWork ticket ⟨start, around.granted, progress⟩)).tree :=
    at_.put_same
  cases progress with
  | waits | gathers => exact course
  | ended outcome =>
    have ended := course.calls path leaf ticket _ placed
    cases ended with
    | ended said =>
      have member : ⟨path, ticket, leaf, _⟩ ∈ (state.evaluation.putSlot path leaf _).working :=
        mem_working.mpr placed
      have finished := course.finish member said
      simp only [Evaluation.finish, putSlot, at_.put_put] at finished
      cases outcome with
      | ok verdict | error fault => exact finished

end OnCourse

/-- A rehearsal follows some order, to its outcome or until its time runs out. -/
theorem Plan.carryOn_run (plan : Plan ε) (keeps : ∀ path leaf, (plan.task leaf).Ensures (may path leaf))
    (budget : Budget) (deadline : Number) (rounds : Nat) (state : State ε)
    (course : OnCourse plan.manner plan.permits may rule state.evaluation)
    {outcome : Except (EvaluationFault ε) Decision}
    (ended : (plan.carryOn budget deadline rounds state).1 = outcome) :
    ∃ moves evaluation, Run (P := Call ε) plan.manner plan.permits may rule moves evaluation ∧
      (outcome = .error .overran ∨ evaluation.tree.outcome? = some outcome) := by
  have overran {evaluation : Evaluation (Call ε) ε}
      (course : OnCourse plan.manner plan.permits may rule evaluation)
      (late : .error .overran = outcome) :
      ∃ moves evaluation, Run (P := Call ε) plan.manner plan.permits may rule moves evaluation ∧
        (outcome = .error .overran ∨ evaluation.tree.outcome? = some outcome) := by
    obtain ⟨moves, run⟩ := course.run
    exact ⟨moves, evaluation, run, .inl late.symm⟩
  induction rounds generalizing state with
  | zero => exact overran course ended
  | succ rounds ih =>
    have linedUp := course.lineUp
    unfold carryOn at ended
    simp only at ended
    split at ended
    · rename_i result decided
      obtain ⟨moves, run⟩ := linedUp.run
      exact ⟨moves, _, run, .inr (by rw [decided, ← ended])⟩
    split at ended
    · rename_i path ticket leaf next
      have ensures := advance_ensures budget (keeps path leaf) { world := state.world }
      exact ih _ (.take (next?_some next).1 _ _ _ (linedUp.letIn next ensures)) ended
    split at ended
    · rename_i working due
      have member : working ∈ state.evaluation.lineUp.working := List.mem_of_find?_eq_some due
      have at_ := mem_working.mp member
      have ensures := Progress.resume_ensures budget (linedUp.calls _ _ _ _ at_)
        { world := state.world, granted := working.call.granted }
      exact ih _ (.take at_ _ _ _ (linedUp.goOn member ensures)) ended
    split at ended
    · exact ih _ linedUp.settle ended
    split at ended
    · exact overran course ended
    split at ended
    · exact ih _ linedUp ended
    · exact overran course ended

theorem Plan.evaluate_follows (plan : Plan ε) (may : Says ε)
    (keeps : ∀ path leaf, (plan.task leaf).Ensures (may path leaf)) (rule : Rule) (world : World)
    {outcome : Except (EvaluationFault ε) Decision} (ended : (plan.evaluate rule world).1 = outcome) :
    ∃ moves evaluation, Run (P := Call ε) plan.manner plan.permits may rule moves evaluation ∧
      (outcome = .error .overran ∨ evaluation.tree.outcome? = some outcome) := by
  unfold evaluate at ended
  split at ended
  · exact ⟨0, _, .start, .inl ended.symm⟩
  · exact plan.carryOn_run keeps _ _ rounds _ .start ended

/-- A rehearsal that does not run out of time ends as some order does. -/
theorem Plan.evaluate_run (plan : Plan ε) (may : Says ε)
    (keeps : ∀ path leaf, (plan.task leaf).Ensures (may path leaf)) (rule : Rule) (world : World) {outcome : Except (EvaluationFault ε) Decision}
    (ended : (plan.evaluate rule world).1 = outcome) :
    outcome = .error .overran ∨ ∃ moves evaluation,
      Run (P := Call ε) plan.manner plan.permits may rule moves evaluation ∧
        evaluation.tree.outcome? = some outcome := by
  obtain ⟨moves, evaluation, run, overran | decided⟩ := plan.evaluate_follows may keeps rule world ended
  · exact .inl overran
  · exact .inr ⟨moves, evaluation, run, decided⟩

end Curation.Rehearsal
