import Curation.Proofs.Evaluation.Histories
import Curation.Proofs.Rehearsal.Orders

/-! An evaluation in order spares the checks that cannot matter. Whatever the order in which
checks end, those called are the ones that the declaration order comes to, each once; and so it
is in a rehearsal, whose records are those of the checks that were called. -/
namespace Curation.Rehearsal

open Evaluation
open Evaluation.Node (Path At Has Decides)
open Relation (ReflTransGen)

variable {ε P : Type} {known : String → Bool} {permits : Nat} {verdicts : Path → Condition → Verdict}
  {rule : Rule}

/-! ## Records -/

/-- An evaluation under way, and a record of each check that has ended. -/
structure Recorded (known : String → Bool) (permits : Nat) (verdicts : Path → Condition → Verdict)
    (rule : Rule) (evaluation : Evaluation (Call ε) ε) (records : List (CallRecord ε)) : Prop where
  history : ∃ events, History ⟨known, .shortCircuit⟩ permits (.verdicts ε verdicts) rule events evaluation ∧
    (past .ended events).map (·.2.name) = (records.map (·.check)).reverse
  done : ∀ record ∈ records, record.outcome = .done
  calls : EachCall (fun path leaf (call : Call ε) =>
    call.progress.Ensures (· = .ok (verdicts path leaf))) evaluation

namespace Recorded

variable {evaluation next : Evaluation (Call ε) ε} {records : List (CallRecord ε)}

theorem start :
    Recorded known permits verdicts rule (.begin_ ⟨known, .shortCircuit⟩ rule) ([] : List (CallRecord ε)) where
  history := ⟨[], .start, by simp [past]⟩
  done := fun _ member => absurd member List.not_mem_nil
  calls := .start rule

theorem sound (all_known : ∀ leaf ∈ rule.leaves, known leaf.name = true)
    (recorded : Recorded known permits verdicts rule evaluation records) :
    Sound known verdicts rule evaluation.tree := by
  obtain ⟨events, history, -⟩ := recorded.history
  exact history.sound all_known

theorem lineUp (recorded : Recorded known permits verdicts rule evaluation records) :
    Recorded known permits verdicts rule evaluation.lineUp records := by
  have steps := lineUp_steps evaluation
  generalize evaluation.lineUp = next at steps
  induction steps with
  | refl => exact recorded
  | tail _ step ih =>
    cases step with
    | enroll new =>
      obtain ⟨events, history, same⟩ := ih.history
      exact ⟨⟨events, history.lineUp (mem_newcomers.mpr new), same⟩, ih.done, ih.calls.enroll new⟩

/-- Decisions keep the records, and the leaves that are open. -/
theorem decideAll (all_known : ∀ leaf ∈ rule.leaves, known leaf.name = true)
    (recorded : Recorded known permits verdicts rule evaluation records)
    {tree : Node (Slot (Call ε)) ε}
    (steps : ReflTransGen (Decides (Manner.start ⟨known, .shortCircuit⟩)) evaluation.tree tree) :
    Recorded known permits verdicts rule { evaluation with tree } records ∧
      ∀ leaf slot path, At leaf slot path evaluation.tree → At leaf slot path tree := by
  induction steps with
  | refl => exact ⟨recorded, fun _ _ _ at_ => at_⟩
  | tail _ decides ih =>
    obtain ⟨decided, keeps⟩ := ih
    obtain ⟨events, history, same⟩ := decided.history
    refine ⟨⟨⟨events, history.decide decides, same⟩, decided.done, decided.calls.decide decides⟩, ?_⟩
    intro leaf slot path at_
    exact decides.keeps (decided.sound all_known) (keeps leaf slot path at_)

/-- Settling the tree stops no check. -/
theorem settle (all_known : ∀ leaf ∈ rule.leaves, known leaf.name = true) {state : State ε}
    (recorded : Recorded known permits verdicts rule state.evaluation state.records) :
    Recorded known permits verdicts rule (state.settle ⟨known, .shortCircuit⟩).evaluation
      (state.settle ⟨known, .shortCircuit⟩).records := by
  have steps := Node.settle_steps (Manner.start ⟨known, .shortCircuit⟩) state.evaluation.tree
  obtain ⟨settled, keeps⟩ := recorded.decideAll all_known steps
  have nobody : (state.evaluation.working.filter fun working =>
      !((state.evaluation.settle ⟨known, .shortCircuit⟩).working.map (·.ticket)).contains working.ticket) = [] := by
    refine List.filter_eq_nil_iff.mpr fun working member => ?_
    have still : working ∈ (state.evaluation.settle ⟨known, .shortCircuit⟩).working :=
      mem_working.mpr (keeps _ _ _ (mem_working.mp member))
    simpa using ⟨working, still, rfl⟩
  have same : (state.settle ⟨known, .shortCircuit⟩).records = state.records := by
    simp only [State.settle, State.stop, nobody]
    rfl
  rw [same]
  exact settled

/-- The next in line is let in. -/
theorem letIn (recorded : Recorded known permits verdicts rule evaluation records) {path : Path}
    {ticket : Nat} {leaf : Condition} (first : evaluation.next? permits = some (path, ticket, leaf))
    {call : Call ε} (ensures : call.progress.Ensures (· = .ok (verdicts path leaf))) :
    Recorded known permits verdicts rule (evaluation.putSlot path leaf (.atWork ticket call)) records where
  history := by
    obtain ⟨events, history, same⟩ := recorded.history
    refine ⟨_, history.letIn call first, ?_⟩
    rw [past_append, List.map_append, same]
    simp [past]
  done := recorded.done
  calls := recorded.calls.putSlot (next?_some first).1 ensures

theorem goOn (recorded : Recorded known permits verdicts rule evaluation records)
    {working : Working (Call ε)} (member : working ∈ evaluation.working) {call : Call ε}
    (ensures : call.progress.Ensures (· = .ok (verdicts working.path working.leaf))) :
    Recorded known permits verdicts rule
      (evaluation.putSlot working.path working.leaf (.atWork working.ticket call)) records where
  history := by
    obtain ⟨events, history, same⟩ := recorded.history
    exact ⟨events, history.goOn (.at_work call member), same⟩
  done := recorded.done
  calls := recorded.calls.putSlot (mem_working.mp member) ensures

/-- Taking in how far a check got records its end, if it has ended. -/
theorem take {state : State ε} {path : Path} {ticket : Nat} {leaf : Condition} {slot : Slot (Call ε)}
    (at_ : At leaf slot path state.evaluation.tree) (start : Number) (progress : Progress ε Verdict)
    (around : Surroundings)
    (recorded : Recorded known permits verdicts rule
      (state.evaluation.putSlot path leaf (.atWork ticket ⟨start, around.granted, progress⟩)) state.records) :
    Recorded known permits verdicts rule (state.take path ticket leaf start progress around).evaluation
      (state.take path ticket leaf start progress around).records := by
  have placed : At leaf (.atWork ticket (⟨start, around.granted, progress⟩ : Call ε)) path
      (state.evaluation.putSlot path leaf (.atWork ticket ⟨start, around.granted, progress⟩)).tree :=
    at_.put_same
  cases progress with
  | waits | gathers => exact recorded
  | ended outcome =>
    cases recorded.calls path leaf ticket _ placed with
    | ended said =>
      subst said
      obtain ⟨events, history, same⟩ := recorded.history
      have member : ⟨path, ticket, leaf, _⟩ ∈ (state.evaluation.putSlot path leaf _).working :=
        mem_working.mpr placed
      have finished := history.finish member rfl
      have calls := recorded.calls.finish placed (conclusion leaf (.ok (verdicts path leaf)))
      simp only [Evaluation.finish, putSlot, at_.put_put] at finished calls
      refine ⟨⟨_, finished, ?_⟩, ?_, calls⟩
      · rw [past_append, List.map_append, same]
        simp [past, State.take]
      · intro record member
        rcases List.mem_cons.mp member with rfl | earlier
        · rfl
        · exact recorded.done record earlier

end Recorded

/-- A rehearsal in order records the checks that have ended, and stops none before its end. -/
theorem Plan.carryOn_recorded (plan : Plan ε) (manner : plan.manner = ⟨known, .shortCircuit⟩)
    (all_known : ∀ leaf ∈ rule.leaves, known leaf.name = true)
    (keeps : ∀ path leaf, (plan.task leaf).Ensures (· = .ok (verdicts path leaf)))
    (budget : Budget) (deadline : Number) (rounds : Nat) (state : State ε)
    (recorded : Recorded known plan.permits verdicts rule state.evaluation state.records) :
    (plan.carryOn budget deadline rounds state).1 = .error .overran ∨
      (Recorded known plan.permits verdicts rule (plan.carryOn budget deadline rounds state).2.evaluation
          (plan.carryOn budget deadline rounds state).2.records ∧
        (plan.carryOn budget deadline rounds state).2.evaluation.tree.outcome? =
          some (plan.carryOn budget deadline rounds state).1) := by
  induction rounds generalizing state with
  | zero => exact .inl rfl
  | succ rounds ih =>
    have linedUp := recorded.lineUp
    unfold carryOn
    simp only
    split
    · rename_i outcome decided
      exact .inr ⟨linedUp, decided⟩
    split
    · rename_i path ticket leaf next
      have ensures := advance_ensures budget (keeps path leaf) { world := state.world }
      exact ih _ (.take (next?_some next).1 _ _ _ (linedUp.letIn next ensures))
    split
    · rename_i working due
      have member : working ∈ state.evaluation.lineUp.working := List.mem_of_find?_eq_some due
      have at_ := mem_working.mp member
      have ensures := Progress.resume_ensures budget (linedUp.calls _ _ _ _ at_)
        { world := state.world, granted := working.call.granted }
      exact ih _ (.take at_ _ _ _ (linedUp.goOn member ensures))
    split
    · rw [manner]
      exact ih _ (.settle all_known linedUp)
    split
    · exact .inl rfl
    split
    · exact ih _ linedUp
    · exact .inl rfl

/-- What a rehearsal in order records, if its time and its rounds suffice: the end of each check that is
tried, once. -/
theorem Plan.evaluate_records (plan : Plan ε) (manner : plan.manner = ⟨known, .shortCircuit⟩)
    (all_known : ∀ leaf ∈ rule.leaves, known leaf.name = true)
    (keeps : ∀ path leaf, (plan.task leaf).Ensures (· = .ok (verdicts path leaf))) (world : World) :
    (plan.evaluate rule world).1 = .error .overran ∨
      ((∀ record ∈ (plan.evaluate rule world).2.1, record.outcome = .done) ∧
        ((plan.evaluate rule world).2.1.map (·.check)).Perm ((rule.tried verdicts).map (·.2.name))) := by
  unfold evaluate
  split
  · exact .inl rfl
  · have begun :
        Recorded known plan.permits verdicts rule (.begin_ plan.manner rule) ([] : List (CallRecord ε)) :=
      manner ▸ .start
    refine (plan.carryOn_recorded manner all_known keeps _ _ rounds
      { evaluation := .begin_ plan.manner rule, world } begun).imp_right ?_
    rintro ⟨recorded, ended⟩
    obtain ⟨events, history, same⟩ := recorded.history
    refine ⟨recorded.done, ?_⟩
    have accounted := (history.account_ended all_known (Option.isSome_of_mem ended) .ended).map (·.2.name)
    rw [same] at accounted
    exact (List.reverse_perm _).symm.trans accounted

/-- Where nodes that ask for any child try them in order and no check fails, the checks called are at every
moment of every order among those of the leaves such that at each node above that asks for any, the
children before fail; none is called twice; each of them has been called in the end, which comes
always. Something is under way in a child of such a node only when those before it have ended, and
all their checks with them. A rehearsal records each of these checks once, unless its time runs out. -/
theorem in_order_spares_the_rest [Inhabited P] (known : String → Bool)
    (verdicts : Path → Condition → Verdict) (rule : Rule)
    (all_known : ∀ leaf ∈ rule.leaves, known leaf.name = true) :
    (∀ permits, 1 ≤ permits → AlwaysEnds P ⟨known, .shortCircuit⟩ permits (.verdicts ε verdicts) rule
      (· = .ok (rule.value verdicts))) ∧
    (∀ permits moves (evaluation : Evaluation P ε),
      Run ⟨known, .shortCircuit⟩ permits (.verdicts ε verdicts) rule moves evaluation →
      ∃ events, History ⟨known, .shortCircuit⟩ permits (.verdicts ε verdicts) rule events evaluation) ∧
    (∀ permits events (evaluation : Evaluation P ε),
      History ⟨known, .shortCircuit⟩ permits (.verdicts ε verdicts) rule events evaluation →
      Lazy verdicts rule events evaluation) ∧
    ∃ calls : List (Path × Condition), calls.Nodup ∧
      (∀ path leaf, (path, leaf) ∈ calls ↔ TriedAt leaf verdicts path rule) ∧
      ∀ (plan : Plan ε) world, plan.manner = ⟨known, .shortCircuit⟩ →
        (∀ path leaf, (plan.task leaf).Ensures (· = .ok (verdicts path leaf))) →
        (plan.evaluate rule world).1 = .error .overran ∨
          ((∀ record ∈ (plan.evaluate rule world).2.1, record.outcome = .done) ∧
            ((plan.evaluate rule world).2.1.map (·.check)).Perm (calls.map (·.2.name))) := by
  refine ⟨?_, fun _ _ _ run => run.history, fun _ _ _ history => history.lazy all_known,
    rule.tried verdicts, rule.nodup_tried verdicts, fun _ _ => Rule.mem_tried rule, ?_⟩
  · exact fun permits permitted => comesTo_value all_known .shortCircuit permits permitted
  · exact fun plan world manner keeps => plan.evaluate_records manner all_known keeps world

/-- Of two leaves the first passes, so the second is never called. -/
theorem second_leaf_is_spared :
    let second : Condition := ⟨"second", []⟩
    let rule : Rule := .group "or" [] .any [.condition ⟨"first", []⟩, .condition second]
    let verdicts (_ : Path) (leaf : Condition) : Verdict := ⟨leaf.name == "first", leaf.name⟩
    (∀ leaf ∈ rule.leaves, (leaf.name == "first" || leaf.name == "second") = true) ∧
      ∀ events (evaluation : Evaluation Unit String),
        History ⟨fun name => name == "first" || name == "second", .shortCircuit⟩ 1 (.verdicts String verdicts)
          rule events evaluation → ∀ path, (path, second) ∉ past .called events := by
  intro second rule verdicts
  have all_known : ∀ leaf ∈ rule.leaves, (leaf.name == "first" || leaf.name == "second") = true := by
    simp [rule, second, Rule.leaves, Rule.leavesOf]
  refine ⟨all_known, fun events evaluation history path called => ?_⟩
  obtain ⟨-, -, lazy, -⟩ := in_order_spares_the_rest (P := Unit) (ε := String)
    (fun name => name == "first" || name == "second") verdicts rule all_known
  have tried := (Rule.mem_tried rule).mpr ((lazy 1 events evaluation history).only_tried path second called)
  have only : rule.tried verdicts = [([0], ⟨"first", []⟩)] := by
    simp [rule, verdicts, Rule.tried, Rule.triedFrom, Rule.value, Operation.stops, ofChild, inChild]
  rw [only, List.mem_singleton] at tried
  obtain ⟨-, same⟩ := Prod.mk.inj tried
  exact absurd (Condition.mk.inj same).1 (by decide)

end Curation.Rehearsal
