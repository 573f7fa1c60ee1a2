import Curation.Proofs.Evaluation.Laziness

/-! The calls of an evaluation in order, with the history of their beginnings and ends beside
it. At every moment each leaf that is tried has been called or is still due, and the same with
its end; so nothing is called twice, and nothing else is called. A node that tries its children
in order has recorded the failures of those before the current one, and nothing is due in them. -/
namespace Curation.Evaluation

open Node (Path At Has Decides due dueFrom)
open Rule (tried triedFrom)

variable {P ε : Type}

/-- The check of a leaf is called or ends. -/
structure Event where
  stage : Stage
  path : Path
  leaf : Condition

/-- The leaves that one of the two has happened to. -/
def past (stage : Stage) (events : List Event) : List (Path × Condition) :=
  (events.filter fun event => event.stage == stage).map fun event => (event.path, event.leaf)

theorem past_append (stage : Stage) (before after : List Event) :
    past stage (before ++ after) = past stage before ++ past stage after := by
  simp [past]

/-- The evaluations that a rule can lead to, with the calls and their ends on the way. -/
inductive History (manner : Manner) (permits : Nat) (may : Says ε) (rule : Rule) :
    List Event → Evaluation P ε → Prop where
  | start : History manner permits may rule [] (begin_ manner rule)
  | lineUp {events : List Event} {evaluation : Evaluation P ε} {path : Path} {leaf : Condition} :
    History manner permits may rule events evaluation → (path, leaf) ∈ evaluation.newcomers →
    History manner permits may rule events (evaluation.enroll path leaf)
  | letIn {events : List Event} {evaluation : Evaluation P ε} {path : Path} {ticket : Nat}
      {leaf : Condition} (call : P) :
    History manner permits may rule events evaluation →
    evaluation.next? permits = some (path, ticket, leaf) →
    History manner permits may rule (events ++ [⟨.called, path, leaf⟩])
      (evaluation.putSlot path leaf (.atWork ticket call))
  | finish {events : List Event} {evaluation : Evaluation P ε} {working : Working P}
      {outcome : Except ε Verdict} :
    History manner permits may rule events evaluation → working ∈ evaluation.working →
    may working.path working.leaf outcome →
    History manner permits may rule (events ++ [⟨.ended, working.path, working.leaf⟩])
      (evaluation.finish working.path (conclusion working.leaf outcome))
  | decide {events : List Event} {evaluation : Evaluation P ε} {tree : Node (Slot P) ε} :
    History manner permits may rule events evaluation → Decides manner.start evaluation.tree tree →
    History manner permits may rule events { evaluation with tree }
  | goOn {events : List Event} {evaluation next : Evaluation P ε} :
    History manner permits may rule events evaluation → GoesOn evaluation next →
    History manner permits may rule events next

variable {manner : Manner} {permits moves : Nat} {may : Says ε} {rule : Rule} {events : List Event}
  {evaluation : Evaluation P ε}

theorem History.run (history : History manner permits may rule events evaluation) :
    ∃ moves, Run manner permits may rule moves evaluation := by
  induction history with
  | start => exact ⟨0, .start⟩
  | lineUp _ new ih =>
    obtain ⟨moves, run⟩ := ih
    exact ⟨moves + 1, run.move (.lineUp new)⟩
  | letIn call _ first ih =>
    obtain ⟨moves, run⟩ := ih
    exact ⟨moves + 1, run.move (.letIn call first)⟩
  | finish _ member said ih =>
    obtain ⟨moves, run⟩ := ih
    exact ⟨moves + 1, run.move (.finish member said)⟩
  | decide _ decides ih =>
    obtain ⟨moves, run⟩ := ih
    exact ⟨moves + 1, run.move (.decide decides)⟩
  | goOn _ goes ih =>
    obtain ⟨moves, run⟩ := ih
    exact ⟨moves, run.goOn goes⟩

/-- Every order has a history. -/
theorem Run.history (run : Run manner permits may rule moves evaluation) :
    ∃ events, History manner permits may rule events evaluation := by
  induction run with
  | start => exact ⟨[], .start⟩
  | move _ move ih =>
    obtain ⟨events, history⟩ := ih
    cases move with
    | lineUp new => exact ⟨events, history.lineUp new⟩
    | letIn call first => exact ⟨_, history.letIn call first⟩
    | finish member said => exact ⟨_, history.finish member said⟩
    | decide decides => exact ⟨events, history.decide decides⟩
  | goOn _ goes ih =>
    obtain ⟨events, history⟩ := ih
    exact ⟨events, history.goOn goes⟩

/-- What stands in a list with one more at its end is that one, or stands in the list. -/
private theorem split_last {α : Type} {before after whole : List α} {one last : α}
    (same : before ++ one :: after = whole ++ [last]) :
    (before = whole ∧ one = last) ∨ ∃ after', before ++ one :: after' = whole := by
  rcases List.eq_nil_or_concat after with rfl | ⟨after', other, rfl⟩
  · obtain ⟨rfl, ends⟩ := List.append_inj' same rfl
    exact .inl ⟨rfl, List.singleton_inj.mp ends⟩
  · rw [List.concat_eq_append, ← List.cons_append, ← List.append_assoc] at same
    exact .inr ⟨after', (List.append_inj' same rfl).1⟩

/-- Where a check is called, its leaf was first in line. -/
theorem History.at_call {before after : List Event} {path : Path} {leaf : Condition}
    (history : History manner permits may rule (before ++ ⟨.called, path, leaf⟩ :: after) evaluation) :
    ∃ earlier : Evaluation P ε, ∃ ticket, History manner permits may rule before earlier ∧
      At leaf (.inLine ticket) path earlier.tree := by
  generalize whole : before ++ ⟨.called, path, leaf⟩ :: after = events at history
  induction history generalizing after with
  | start => simp at whole
  | lineUp _ _ ih | decide _ _ ih | goOn _ _ ih => exact ih whole
  | letIn call history first ih =>
    rcases split_last whole with ⟨rfl, same⟩ | ⟨after', inside⟩
    · cases same
      exact ⟨_, _, history, (next?_some first).1⟩
    · exact ih inside
  | finish history member said ih =>
    rcases split_last whole with ⟨-, same⟩ | ⟨after', inside⟩
    · cases same
    · exact ih inside

/-! ## Accounts -/

variable {known : String → Bool} {verdicts : Path → Condition → Verdict}

theorem History.sound (all_known : ∀ leaf ∈ rule.leaves, known leaf.name = true)
    (history : History ⟨known, .shortCircuit⟩ permits (.verdicts ε verdicts) rule events evaluation) :
    Sound known verdicts rule evaluation.tree := by
  obtain ⟨moves, run⟩ := history.run
  exact ⟨all_known, run.standsFor⟩

/-- Each leaf that is tried has passed the stage or is still due for it. -/
theorem History.account (all_known : ∀ leaf ∈ rule.leaves, known leaf.name = true)
    (history : History ⟨known, .shortCircuit⟩ permits (.verdicts ε verdicts) rule events evaluation)
    (stage : Stage) : (past stage events ++ due stage verdicts evaluation.tree).Perm (tried verdicts rule) := by
  induction history with
  | start =>
    have begun : due stage verdicts (begin_ ⟨known, .shortCircuit⟩ rule : Evaluation P ε).tree =
        tried verdicts rule := Node.due_start known stage verdicts rule all_known
    rw [begun]
    exact .refl _
  | @lineUp _ evaluation path leaf _ new ih =>
    have same : due stage verdicts (evaluation.enroll path leaf).tree = due stage verdicts evaluation.tree := by
      refine (mem_newcomers.mp new).due_same fun _ => ?_
      cases stage <;> rfl
    rwa [same]
  | @letIn _ evaluation path ticket leaf call _ first ih =>
    have at_ := (next?_some first).1
    cases stage with
    | called =>
      have passes : (due .called verdicts evaluation.tree).Perm ((path, leaf) ::
          due .called verdicts (evaluation.putSlot path leaf (.atWork ticket call)).tree) :=
        at_.due_passed rfl fun _ => rfl
      rw [past_append, List.append_assoc]
      exact (passes.symm.append_left _).trans ih
    | ended =>
      have same : due .ended verdicts (evaluation.putSlot path leaf (.atWork ticket call)).tree =
          due .ended verdicts evaluation.tree := at_.due_same fun _ => rfl
      rw [past_append, same]
      simpa [past] using ih
  | @finish _ evaluation working outcome _ member said ih =>
    have at_ := mem_working.mp member
    cases stage with
    | called =>
      have same : due .called verdicts
          (evaluation.finish working.path (conclusion working.leaf outcome)).tree =
          due .called verdicts evaluation.tree := at_.due_same fun _ => rfl
      rw [past_append, same]
      simpa [past] using ih
    | ended =>
      have passes : (due .ended verdicts evaluation.tree).Perm ((working.path, working.leaf) ::
          due .ended verdicts (evaluation.finish working.path (conclusion working.leaf outcome)).tree) :=
        at_.due_passed rfl fun _ => rfl
      rw [past_append, List.append_assoc]
      exact (passes.symm.append_left _).trans ih
  | decide history decides ih =>
    rw [decides.due_eq (history.sound all_known)]
    exact ih
  | @goOn _ evaluation _ _ goes ih =>
    cases goes with
    | @at_work working call member =>
      have same : due stage verdicts
          (evaluation.putSlot working.path working.leaf (.atWork working.ticket call)).tree =
          due stage verdicts evaluation.tree := by
        refine (mem_working.mp member).due_same fun _ => ?_
        cases stage <;> rfl
      rwa [same]

/-- In the end all that is tried has passed both stages. -/
theorem History.account_ended (all_known : ∀ leaf ∈ rule.leaves, known leaf.name = true)
    (history : History ⟨known, .shortCircuit⟩ permits (.verdicts ε verdicts) rule events evaluation)
    (ended : evaluation.tree.outcome?.isSome = true) (stage : Stage) :
    (past stage events).Perm (tried verdicts rule) := by
  have account := history.account all_known stage
  have nothing : due stage verdicts evaluation.tree = [] := by
    generalize evaluation.tree = tree at ended
    cases tree with
    | ended => rfl
    | open_ | all | race | inOrder => cases ended
  rwa [nothing, List.append_nil] at account

/-! ## Where nodes try their children in order -/

/-- A node along a path has the nodes of the path on the way. -/
theorem Node.Has.split {place path : Path} {sub node : Node (Slot P) ε} (has : Has sub (place ++ path) node) :
    ∃ mid, Has mid place node ∧ Has sub path mid := by
  induction place generalizing node with
  | nil => exact ⟨node, .here, has⟩
  | cons position place ih =>
    generalize whole : position :: place ++ path = target at has
    cases has with
    | here => cases whole
    | all inside =>
      obtain ⟨rfl, rfl⟩ := List.cons.inj whole
      obtain ⟨mid, above, below⟩ := ih inside
      exact ⟨mid, .all above, below⟩
    | race inside =>
      obtain ⟨rfl, rfl⟩ := List.cons.inj whole
      obtain ⟨mid, above, below⟩ := ih inside
      exact ⟨mid, .race above, below⟩
    | inOrder inside =>
      obtain ⟨rfl, rfl⟩ := List.cons.inj whole
      obtain ⟨mid, above, below⟩ := ih inside
      exact ⟨mid, .inOrder above, below⟩

/-- A node that asks for any of its children has one of them begun only if those before it have
ended, and it has recorded their failures. -/
theorem Sound.begun {sub root : Node (Slot P) ε} {place path : Path} {later : Nat} {name : String}
    {args : Json.Members} {rules : List Rule} (sound : Sound known verdicts rule root)
    (there : RuleAt (.group name args .any rules) place rule) (has : Has sub (place ++ later :: path) root) :
    ∃ current rest, Has (.inOrder (.group name args .any rules)
        (Rule.values (Rule.ofPlace place verdicts) 0 (rules.take later)) current rest) place root ∧
      (∀ decision ∈ Rule.values (Rule.ofPlace place verdicts) 0 (rules.take later), decision.passed = false) ∧
      (Rule.values (Rule.ofPlace place verdicts) 0 (rules.take later)).length = later := by
  obtain ⟨mid, above, below⟩ := has.split
  obtain ⟨rule', there', stands⟩ := sound.stands.at_place above
  obtain rfl := there.unique there'
  cases stands with
  | ended => cases below
  | race at_once => cases at_once
  | @inOrder _ _ _ _ before rest sub failures current _ whole decided failed inside =>
    cases below with
    | inOrder below =>
      subst whole
      have inside_known : ∀ leaf ∈ Rule.leavesOf before, known leaf.name = true := by
        intro leaf member
        refine sound.all_known leaf (Rule.leaves_ruleAt there leaf ?_)
        rw [Rule.leaves, Rule.leavesOf_append]
        exact List.mem_append_left _ member
      -- What was recorded of the children before is what they come to.
      have recorded : failures = Rule.values (Rule.ofPlace place verdicts) 0 before := by
        have same := Rule.sequentials_eq_values (ε := ε) (Rule.ofPlace place verdicts) 0 before inside_known
        exact (List.map_inj_right fun _ _ => Option.some.inj).mp (decided.symm.trans same)
      have tried : (before ++ sub :: rest).take failures.length = before := by
        rw [recorded, Rule.length_values, List.take_left]
      rw [tried, ← recorded]
      exact ⟨current, rest, above, failed, rfl⟩

/-- What is due in a node at a place is what is due there. -/
theorem Node.Has.due_below {stage : Stage} {place below : Path} {leaf : Condition}
    {mid node : Node (Slot P) ε} (has : Has mid place node)
    (member : (place ++ below, leaf) ∈ due stage verdicts node) :
    (below, leaf) ∈ due stage (Rule.ofPlace place verdicts) mid := by
  induction has generalizing verdicts with
  | here => exact member
  | @all _ path before after child _ ih | @race _ path before after child _ ih =>
    have shifted : ((0 + before.length) :: (path ++ below), leaf) ∈
        dueFrom stage verdicts 0 (before ++ child :: after) := by
      rw [Nat.zero_add]
      exact member
    have inside := mem_dueFrom shifted
    rw [Nat.zero_add] at inside
    exact ih inside
  | inOrder _ ih =>
    rcases mem_due_inOrder member with ⟨-, inside⟩ | later
    · exact ih inside
    · exact absurd later (Nat.lt_irrefl _)

/-- Before a check is called below a child of a node that asks for any, all that is tried below the
children before it has ended. -/
theorem History.ended_before (all_known : ∀ leaf ∈ rule.leaves, known leaf.name = true)
    {before after : List Event} {place path path' : Path} {earlier later : Nat} {leaf leaf' : Condition}
    {name : String} {args : Json.Members} {rules : List Rule}
    (history : History ⟨known, .shortCircuit⟩ permits (.verdicts ε verdicts) rule
      (before ++ ⟨.called, place ++ later :: path, leaf⟩ :: after) evaluation)
    (there : RuleAt (.group name args .any rules) place rule) (order : earlier < later)
    (tried : TriedAt leaf' verdicts (place ++ earlier :: path') rule) :
    (place ++ earlier :: path', leaf') ∈ past .ended before := by
  obtain ⟨state, ticket, history, at_⟩ := history.at_call
  have sound := history.sound all_known
  obtain ⟨current, rest, above, -, level⟩ := sound.begun there at_.has
  have accounted := (history.account all_known .ended).mem_iff.mpr (Rule.mem_tried rule |>.mpr tried)
  rcases List.mem_append.mp accounted with ended | due
  · exact ended
  · -- Nothing is due any more before the child that the call is made in.
    rcases Node.mem_due_inOrder (above.due_below due) with ⟨here, -⟩ | further
    · omega
    · omega

/-- An evaluation in order calls what is tried, each once, and one child after the other. -/
structure Lazy (verdicts : Path → Condition → Verdict) (rule : Rule) (events : List Event)
    (evaluation : Evaluation P ε) : Prop where
  /-- No check is called twice. -/
  once : (past .called events).Nodup
  only_tried : ∀ path leaf, (path, leaf) ∈ past .called events → TriedAt leaf verdicts path rule
  all_tried : evaluation.tree.outcome?.isSome = true → ∀ path leaf, TriedAt leaf verdicts path rule →
    (path, leaf) ∈ past .called events
  /-- Where something is under way in a child, those before it have ended, all in failures. -/
  one_by_one : ∀ place name args rules, RuleAt (.group name args .any rules) place rule →
    ∀ later path sub, Has sub (place ++ later :: path) evaluation.tree → ∃ failures current rest,
      Has (.inOrder (.group name args .any rules) failures current rest) place evaluation.tree ∧
      failures = Rule.values (Rule.ofPlace place verdicts) 0 (rules.take later) ∧
      failures.length = later ∧ ∀ failure ∈ failures, failure.passed = false
  /-- Where a check is called below a child, all that is tried below those before it has ended. -/
  ended_before : ∀ place name args rules, RuleAt (.group name args .any rules) place rule →
    ∀ before after later path leaf, events = before ++ ⟨.called, place ++ later :: path, leaf⟩ :: after →
      ∀ earlier < later, ∀ path' leaf', TriedAt leaf' verdicts (place ++ earlier :: path') rule →
        (place ++ earlier :: path', leaf') ∈ past .ended before

/-- At every moment of every order, what has been called is as the declaration order has it. -/
theorem History.lazy (all_known : ∀ leaf ∈ rule.leaves, known leaf.name = true)
    (history : History ⟨known, .shortCircuit⟩ permits (.verdicts ε verdicts) rule events evaluation) :
    Lazy verdicts rule events evaluation where
  once := by
    have distinct := (history.account all_known .called).nodup_iff.mpr (Rule.nodup_tried verdicts rule)
    exact (List.nodup_append.mp distinct).1
  only_tried := by
    intro path leaf member
    refine (Rule.mem_tried rule).mp ((history.account all_known .called).mem_iff.mp ?_)
    exact List.mem_append_left _ member
  all_tried := by
    intro ended path leaf at_
    exact (history.account_ended all_known ended .called).mem_iff.mpr ((Rule.mem_tried rule).mpr at_)
  one_by_one := by
    intro place name args rules there later path sub has
    obtain ⟨current, rest, above, failed, level⟩ := (history.sound all_known).begun there has
    exact ⟨_, current, rest, above, rfl, level, failed⟩
  ended_before := by
    rintro place name args rules there before after later path leaf rfl earlier order path' leaf' at_
    exact history.ended_before all_known there order at_

end Curation.Evaluation
