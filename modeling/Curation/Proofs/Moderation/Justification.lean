import Curation.Proofs.Evaluation.Justification
import Curation.Proofs.Moderation.Gates
import Curation.Proofs.Rehearsal.Orders

/-! What the audit log quotes. An entry that names a rule names that of a decision in favour
of acting, with its explanation for the reason, and a decision names a node that comes to it
by itself. So who reads the entry can check the quoted node alone. -/
namespace Curation.Moderation

open Evaluation
open Evaluation.Node (Path)
open Program (Runs)
open Rehearsal (Plan)

/-- An entry that quotes the node behind a decision that a rule of the channel passes. -/
structure Quotes (case : Case) (transcript : Transcript) (log : Log) (rule : Rule) (decision : Decision) :
    Prop where
  asked : ⟨.evaluate case rule (strategyFor case), .ok decision⟩ ∈ transcript
  own : rule = case.channel.exclusion.rule ∨ rule = case.channel.inclusion.rule
  passed : decision.passed = true
  quoted : log.rule = Rule.auditText (some decision.rule)
  reason : log.reason = decision.explanation

variable {deployment : Deployment} {case : Case}

/-- Only a decision that passes gives grounds with a rule. -/
private theorem Stops.grounds_rule {gate : Gate} {grounds : Grounds} {seen : Transcript}
    (stops : Stops deployment case gate grounds seen) :
    grounds.rule = none ∨ ∃ rule decision, ⟨.evaluate case rule (strategyFor case), .ok decision⟩ ∈ seen ∧
      (rule = case.channel.exclusion.rule ∨ rule = case.channel.inclusion.rule) ∧
      decision.passed = true ∧ grounds = ⟨decision.explanation, some decision.rule⟩ := by
  cases stops with
  | exempt | suspended | noRules | rejected => exact .inl rfl
  | @excluded _ _ decision _ _ _ _ passed =>
    refine .inr ⟨_, decision, ?_, .inl rfl, passed, rfl⟩
    exact List.mem_append_right _ (List.mem_append_right _ (.head _))
  | @included _ _ _ decision _ _ _ _ passed =>
    refine .inr ⟨_, decision, ?_, .inr rfl, passed, rfl⟩
    exact List.mem_append_right _ (List.mem_append_right _ (List.mem_append_right _ (.head _)))

private theorem entered {grounds : Grounds} {actions : List Action} {logs : List Log}
    (each : List.Forall₂ (Enters case grounds) actions logs) {log : Log} (member : log ∈ logs) :
    ∃ action, Enters case grounds action log := by
  induction each with
  | nil => cases member
  | @cons action _ _ _ enters _ ih =>
    rcases List.mem_cons.mp member with rfl | later
    · exact ⟨action, enters⟩
    · exact ih later

/-- Every entry of a run either names no rule or quotes a decision of the run. -/
private theorem logs_quote {transcript : Transcript} {logs : List Log}
    (returned : Runs (moderate deployment case) transcript (.ok logs)) {log : Log} (member : log ∈ logs) :
    log.rule = Rule.auditText none ∨
      ∃ rule decision, Quotes case transcript log rule decision := by
  obtain ⟨gate, grounds, seen, done_, rfl, judged, acted⟩ := runs_moderate_ok.mp returned
  obtain ⟨action, id, time, rfl⟩ := entered (enact_enters acted) member
  rcases (judge_stops judged).grounds_rule with none_ | ⟨rule, decision, asked, own, passed, rfl⟩
  · exact .inl (congrArg Rule.auditText none_)
  · exact .inr ⟨rule, decision, List.mem_append_left _ asked, own, passed, rfl, rfl⟩

/-- A rehearsal in which no check fails comes to the value of the rule. -/
private theorem evaluate_value {ε : Type} (plan : Plan ε) {rule : Rule}
    {verdicts : Path → Condition → Verdict}
    (all_known : ∀ leaf ∈ rule.leaves, plan.manner.known leaf.name = true)
    (keeps : ∀ path leaf, (plan.task leaf).Ensures (· = .ok (verdicts path leaf))) (world : Rehearsal.World) :
    (plan.evaluate rule world).1 = .error .overran ∨
      (plan.evaluate rule world).1 = .ok (rule.value verdicts) := by
  rcases plan.evaluate_run (.verdicts ε verdicts) keeps rule world rfl with
    overran | ⟨moves, evaluation, run, ended⟩
  · exact .inl overran
  · exact .inr (run_value all_known run ended)

/-- Whatever the order, the strategy and the permits, an evaluation in which no check fails comes to a
decision that the node it names justifies: the root where the rule fails; where it passes, a
condition or a node that asks for all its children, below nodes that ask for any only, which comes
to this decision by itself. So do rehearsals, of the rule and of that node alone, unless their time
runs out. And every entry that moderation returns names no rule, or quotes the node behind a passing
decision about a rule of the channel, which justifies it if no check failed. -/
theorem named_node_justifies_decision {P ε : Type} [Inhabited P] (known : String → Bool)
    (verdicts : Path → Condition → Verdict) (rule : Rule)
    (all_known : ∀ leaf ∈ rule.leaves, known leaf.name = true) :
    ComesTo P ε known verdicts rule (rule.value verdicts) ∧
      Justified P ε known verdicts rule (rule.value verdicts) ∧
      (∀ plan : Plan ε, plan.manner.known = known →
        (∀ path leaf, (plan.task leaf).Ensures (· = .ok (verdicts path leaf))) → ∀ world,
          ((plan.evaluate rule world).1 = .error .overran ∨
            (plan.evaluate rule world).1 = .ok (rule.value verdicts)) ∧
          ((rule.value verdicts).passed = true →
            (plan.evaluate (rule.value verdicts).rule world).1 = .error .overran ∨
              (plan.evaluate (rule.value verdicts).rule world).1 = .ok (rule.value verdicts))) ∧
      ∀ deployment case transcript logs, Runs (moderate deployment case) transcript (.ok logs) →
        ∀ log ∈ logs, log.rule = Rule.auditText none ∨
          ∃ rule decision, Quotes case transcript log rule decision ∧
            ∀ known verdicts, Reaches P ε known (strategyFor case) verdicts rule decision →
              Justified P ε known verdicts rule decision := by
  have justified : Justified P ε known verdicts rule (rule.value verdicts) := value_justified all_known
  refine ⟨comesTo_value all_known, justified, fun plan manner keeps world => ⟨?_, fun passes => ?_⟩, ?_⟩
  · exact evaluate_value plan (by rwa [manner]) keeps world
  · obtain ⟨place, settles⟩ := Rule.value_passed verdicts rule passes
    have inside : ∀ leaf ∈ (rule.value verdicts).rule.leaves, plan.manner.known leaf.name = true := by
      intro leaf member
      rw [manner]
      exact all_known leaf (Rule.leaves_ruleAt settles.under.ruleAt leaf member)
    have below : ∀ path leaf, (plan.task leaf).Ensures (· = .ok (Rule.ofPlace place verdicts path leaf)) :=
      fun path leaf => keeps (place ++ path) leaf
    have alone := evaluate_value plan inside below world
    rwa [settles.alone] at alone
  · intro deployment case transcript logs returned log member
    refine (logs_quote returned member).imp_right ?_
    rintro ⟨rule, decision, quotes⟩
    refine ⟨rule, decision, quotes, fun known verdicts reaches => ?_⟩
    rw [reaches.eq_value]
    exact value_justified reaches.all_known

/-- Of a leaf that fails and a node whose only leaf passes, that node is named, and it justifies the
decision. -/
theorem passing_node_is_named :
    let open_ : Condition := ⟨"open", []⟩
    let node : Rule := .group "and" [] .all [.condition open_]
    let rule : Rule := .group "or" [] .any [.condition ⟨"closed", []⟩, node]
    let verdicts (_ : Path) (leaf : Condition) : Verdict := ⟨leaf.name == "open", leaf.name⟩
    (∀ leaf ∈ rule.leaves, (leaf.name == "open" || leaf.name == "closed") = true) ∧
      Justified Unit String (fun name => name == "open" || name == "closed") verdicts rule
        ⟨true, "open", node⟩ := by
  intro open_ node rule verdicts
  have all_known : ∀ leaf ∈ rule.leaves, (leaf.name == "open" || leaf.name == "closed") = true := by
    simp [rule, node, open_, Rule.leaves, Rule.leavesOf]
  obtain ⟨-, justified, -⟩ := named_node_justifies_decision (P := Unit) (ε := String)
    (fun name => name == "open" || name == "closed") verdicts rule all_known
  exact ⟨all_known, justified⟩

end Curation.Moderation
