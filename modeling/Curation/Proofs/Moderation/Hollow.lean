import Curation.Proofs.Channel.RoundTrip
import Curation.Proofs.Intake.Owners
import Curation.Proofs.Rehearsal.Hollow

/-! Channels whose inclusion rules have no leaf. A hollow tree counts as configured: it is
accepted beside any exclusion rules, and it is evaluated where there is nothing to evaluate.
So the users of such a channel are turned away because the tree fails, or excluded, and are
not told that no rules are configured. -/
namespace Curation

open Decode

/-- Where the fields of a configuration were read, it is accepted if it includes by something
wherever it excludes by something. -/
theorem Channel.read_iff {terms : Terms} {members : Json.Members} {channel : Channel}
    (fields : readFields terms members = .ok channel) :
    read terms (.obj members) = .ok channel ↔
      (channel.exclusion.hasConditions = true → channel.inclusion.hasConditions = true) := by
  have whole : read terms (.obj members) =
      if !channel.inclusion.hasConditions && channel.exclusion.hasConditions then
        .issue (.rejected inclusionRequired)
      else .ok channel := by
    simp only [read, record, fields, Checked.andThen]
  rw [whole]
  cases channel.inclusion.hasConditions with
  | true => simp
  | false => cases channel.exclusion.hasConditions <;> simp

theorem Channel.fields_of_read {terms : Terms} {value : Json} {channel : Channel}
    (given : read terms value = .ok channel) :
    ∃ members, value = .obj members ∧ readFields terms members = .ok channel := by
  obtain ⟨members, rfl, decoded⟩ := record_eq_ok.mp given
  obtain ⟨read, fields, accepted⟩ := Checked.andThen_eq_ok.mp decoded
  split at accepted
  · cases accepted
  · cases accepted
    exact ⟨members, rfl, fields⟩

namespace Moderation

open Evaluation.Node (leftOfRule)
open Program (Runs runs_bind_ok)
open Rehearsal (runModeration)

variable {deployment : Deployment} {case : Case} {gate : Gate} {grounds : Grounds} {seen : Transcript}

/-- The evaluations of a run are those of rehearsals. -/
def Evaluated (transcript : Transcript) : Prop :=
  ∀ case rule strategy answer, ⟨.evaluate case rule strategy, answer⟩ ∈ transcript →
    ∃ stage world, (Rehearsal.evaluate stage case rule strategy world).1 = answer

/-- A rehearsal evaluates what its program asks to have evaluated. -/
theorem rehearsal_evaluated {α : Type} (stage : Rehearsal.Stage) (program : Moderation α)
    (world : Rehearsal.World) :
    ∃ transcript, Runs program transcript (runModeration stage program world).1 ∧ Evaluated transcript := by
  obtain ⟨transcript, run, answered⟩ :=
    Program.runs_run_answered (Rehearsal.answerModeration stage) program world
  refine ⟨transcript, run, fun case rule strategy answer member => ?_⟩
  obtain ⟨here, next, evaluates⟩ := answered.of_mem member
  exact ⟨stage, here, congrArg Prod.fst evaluates⟩

/-- Where a tree without leaves was decided, it came to its value. -/
theorem Evaluated.vacancy {transcript : Transcript} (evaluated : Evaluated transcript) {rule : Rule}
    (bare : rule.leaves = []) {strategy : OrStrategy} {decision : Decision}
    (asked : ⟨.evaluate case rule strategy, .ok decision⟩ ∈ transcript) : decision = rule.vacancy := by
  obtain ⟨stage, world, decided⟩ := evaluated _ _ _ _ asked
  simp only [Rehearsal.evaluate] at decided
  cases ended : ((Rehearsal.planOf stage case strategy).evaluate rule world).1 with
  | error fault =>
    rw [ended] at decided
    cases decided
  | ok reached =>
    rw [ended] at decided
    cases decided
    exact (Rehearsal.planOf stage case strategy).evaluate_bare_eq bare ended

/-- What a case comes to that has no inclusion leaf, once rules apply to its user and no
suspension does. -/
inductive Unruled (case : Case) : Gate → Grounds → Prop where
  | noRules : ¬ case.channel.inclusion.rule.IsHollow → Unruled case .noRules ⟨noRulesReason, none⟩
  | excluded {decision : Decision} : case.channel.inclusion.rule.IsHollow →
    case.channel.exclusion.rule.leaves ≠ [] → decision.passed = true →
    Unruled case .excluded ⟨decision.explanation, some decision.rule⟩
  | rejected : case.channel.inclusion.rule.IsHollow →
    Unruled case .rejected ⟨case.channel.inclusion.rule.vacancy.explanation, none⟩

/-- No tree fails in the words for a channel without rules. -/
theorem vacancy_ne_noRulesReason {explanation : String} (vacancy : Rule.Vacancy explanation) :
    explanation ≠ noRulesReason := by
  cases vacancy with
  | childless => decide
  | all explanations =>
    intro same
    have first := congrArg (fun text : String => text.toList.head?) same
    simp [noRulesReason] at first

theorem Unruled.told_iff (unruled : Unruled case gate grounds) :
    grounds = ⟨noRulesReason, none⟩ ↔ ¬ case.channel.inclusion.rule.IsHollow := by
  cases unruled with
  | noRules solid => simp [solid]
  | excluded hollow => simp [hollow]
  | rejected hollow =>
    have vacant := Rule.value_vacant (fun _ _ => ⟨false, ""⟩) _ hollow.bare
    simp [hollow, Rule.vacancy, vacancy_ne_noRulesReason vacant.explained]

/-- The gate that stops a case without an inclusion leaf. -/
theorem Stops.unruled (stops : Stops deployment case gate grounds seen) (evaluated : Evaluated seen)
    (bare : case.channel.inclusion.rule.leaves = []) :
    gate = .exempt ∨ gate = .suspended ∨ Unruled case gate grounds := by
  have hollow_of {set : RuleSet} (bare : set.rule.leaves = []) (has : set.hasConditions = true) :
      set.rule.IsHollow :=
    (set.rule.hasConditions_iff.mp has).resolve_left fun some_leaf => some_leaf bare
  have passes_not {rule : Rule} {decision : Decision} (bare : rule.leaves = [])
      (same : decision = rule.vacancy) (passed : decision.passed = true) : False := by
    have failed : rule.vacancy.passed = false := (Rule.value_vacant _ rule bare).failed
    rw [same, failed] at passed
    cases passed
  cases stops with
  | exempt => exact .inl rfl
  | suspended => exact .inr (.inl rfl)
  | noRules _ _ without =>
    refine .inr (.inr (.noRules fun hollow => ?_))
    have has : case.channel.inclusion.hasConditions = true := (Rule.hasConditions_iff _).mpr (.inr hollow)
    rw [without] at has
    cases has
  | @excluded _ _ decision _ _ some_rules applies passed =>
    refine .inr (.inr (.excluded (hollow_of bare some_rules) (fun bare => ?_) passed))
    have same := evaluated.vacancy bare (List.mem_append_right _ (List.mem_append_right _ (.head _)))
    exact (passes_not bare same passed).elim
  | @rejected _ _ _ decision _ _ some_rules _ failed =>
    have same := evaluated.vacancy bare
      (List.mem_append_right _ (List.mem_append_right _ (List.mem_append_right _ (.head _))))
    rw [same]
    exact .inr (.inr (.rejected (hollow_of bare some_rules)))
  | @included _ _ _ decision _ _ some_rules _ passed =>
    have same := evaluated.vacancy bare
      (List.mem_append_right _ (List.mem_append_right _ (List.mem_append_right _ (.head _))))
    exact (passes_not bare same passed).elim

/-- A rule set has conditions if and only if its tree has a leaf or is hollow, and a tree without
leaves never passes. So a configuration that excludes by a leaf is accepted with a hollow inclusion
tree, and only with such a tree or a leaf. And where evaluations are those of rehearsals, a case of a
channel without any inclusion leaf is never included: unless no rule applies to its user or a
suspension keeps the user away, it is told that no rules are configured if the tree is not hollow,
and otherwise is excluded by a leaf or turned away in the words in which the tree failed. -/
theorem hollow_rules_count_as_configured (set : RuleSet) (channel : Channel) :
    (set.hasConditions = true ↔ set.rule.leaves ≠ [] ∨ set.rule.IsHollow) ∧
      (set.rule.leaves = [] → set.rule.vacancy.passed = false ∧
        ∀ stage case strategy world, stage.limit.le 0 = false → leftOfRule set.rule < Rehearsal.rounds →
          (Rehearsal.evaluate stage case set.rule strategy world).1 = .ok set.rule.vacancy) ∧
      (∀ terms members, Channel.readFields terms members = .ok channel →
        (Channel.read terms (.obj members) = .ok channel ↔
          (channel.exclusion.rule.leaves ≠ [] ∨ channel.exclusion.rule.IsHollow →
            channel.inclusion.rule.leaves ≠ [] ∨ channel.inclusion.rule.IsHollow))) ∧
      (∀ terms value, Channel.read terms value = .ok channel → channel.exclusion.rule.leaves ≠ [] →
        channel.inclusion.rule.leaves ≠ [] ∨ channel.inclusion.rule.IsHollow) ∧
      (∀ stage (program : Moderation (List Log)) world, ∃ transcript,
        Runs program transcript (runModeration stage program world).1 ∧ Evaluated transcript) ∧
      ∀ deployment case transcript logs, case.channel = channel → channel.inclusion.rule.leaves = [] →
        Evaluated transcript → Runs (moderate deployment case) transcript (.ok logs) →
        ∃ gate grounds seen done_, transcript = seen ++ done_ ∧
          Stops deployment case gate grounds seen ∧
          List.Forall₂ (Enters case grounds) (gate.actions case) logs ∧
          (gate = .exempt ∨ gate = .suspended ∨ Unruled case gate grounds ∧
            (grounds = ⟨noRulesReason, none⟩ ↔ ¬ channel.inclusion.rule.IsHollow)) := by
  have counts (set : RuleSet) : set.hasConditions = true ↔ set.rule.leaves ≠ [] ∨ set.rule.IsHollow :=
    set.rule.hasConditions_iff
  have accepted {terms : Terms} {members : Json.Members}
      (fields : Channel.readFields terms members = .ok channel) :
      Channel.read terms (.obj members) = .ok channel ↔
        (channel.exclusion.rule.leaves ≠ [] ∨ channel.exclusion.rule.IsHollow →
          channel.inclusion.rule.leaves ≠ [] ∨ channel.inclusion.rule.IsHollow) := by
    rw [Channel.read_iff fields, counts, counts]
  refine ⟨counts set, ?_, fun terms members fields => accepted fields, ?_, rehearsal_evaluated, ?_⟩
  · intro bare
    refine ⟨(Rule.value_vacant _ set.rule bare).failed, fun stage case strategy world timely small => ?_⟩
    have ended := (Rehearsal.planOf stage case strategy).evaluate_bare bare timely small world
    simp only [Rehearsal.evaluate, ended]
    rfl
  · intro terms value given excludes
    obtain ⟨members, rfl, fields⟩ := Channel.fields_of_read given
    exact (accepted fields).mp given (.inl excludes)
  · rintro deployment case transcript logs rfl bare evaluated returned
    rw [moderate_eq] at returned
    obtain ⟨seen, ⟨gate, grounds⟩, done_, rfl, judged, acted⟩ := runs_bind_ok.mp returned
    have stops := judge_stops judged
    have evaluated : Evaluated seen := fun case rule strategy answer member =>
      evaluated case rule strategy answer (List.mem_append_left _ member)
    have unruled := stops.unruled evaluated bare
    refine ⟨gate, grounds, seen, done_, rfl, stops, enact_enters acted, ?_⟩
    exact unruled.imp_right fun unruled => unruled.imp_right fun unruled => ⟨unruled, unruled.told_iff⟩

/-! ## A channel that turns everyone away -/

section Witness

/-- A node that asks for all its children, and its child without any. -/
def hollowRule : Rule := .group "and" [] .all [.group "or" [] .any []]

/-- A channel that excludes by a leaf and includes by none. -/
def hollowChannel : Channel :=
  { (default : Channel) with
    id := "c"
    inclusion := ⟨none, .all, true, hollowRule, [.like]⟩
    exclusion := ⟨none, .root, true, .condition ⟨"alwaysInclude", []⟩, [.mute]⟩ }

/-- A reply in that channel, by a user who is not the owner. -/
def hollowCase : Case :=
  let author : User := { fid := 8 }
  ⟨hollowChannel, author, some { hash := "b", author, parentHash := some "a" }, true⟩

/-- The channel is accepted though it excludes by a leaf and includes by none, and a reply in it is
turned away for want of rules in its tree, not for want of a tree. -/
theorem hollowChannel_turns_away :
    let deployment : Deployment := ⟨default, ⟨[], .nil⟩, false, 60, 1⟩
    let log := entry hollowCase ⟨"No rules", none⟩ "hideQuietly" "sim-1" Moment.epoch
    hollowChannel.inclusion.hasConditions = true ∧ hollowChannel.inclusion.rule.leaves = [] ∧
      hollowChannel.exclusion.rule.leaves ≠ [] ∧
      Channel.read .text hollowChannel.toJson = .ok hollowChannel ∧
      hollowChannel.inclusion.rule.IsHollow ∧
      ∃ transcript, Evaluated transcript ∧ Runs (moderate deployment hollowCase) transcript (.ok [log]) ∧
        ∃ gate grounds seen done_, transcript = seen ++ done_ ∧
          Stops deployment hollowCase gate grounds seen ∧
          List.Forall₂ (Enters hollowCase grounds) (gate.actions hollowCase) [log] ∧
          (gate = .exempt ∨ gate = .suspended ∨ Unruled hollowCase gate grounds ∧
            (grounds = ⟨noRulesReason, none⟩ ↔ ¬ hollowChannel.inclusion.rule.IsHollow)) := by
  intro deployment log
  obtain ⟨counts, vacant, -, includes, -, stopped⟩ :=
    hollow_rules_count_as_configured hollowChannel.inclusion hollowChannel
  have bare : hollowChannel.inclusion.rule.leaves = [] := rfl
  have excludes : hollowChannel.exclusion.rule.leaves ≠ [] := by decide
  have accepted : Channel.read .text hollowChannel.toJson = .ok hollowChannel := rfl
  have hollow : hollowChannel.inclusion.rule.IsHollow :=
    (includes _ _ accepted excludes).resolve_left fun some_leaf => some_leaf bare
  obtain ⟨_, owner⟩ := Intake.owner_runs deployment.directory hollowChannel.id Intake.read_ownerText
  obtain ⟨asked, owner, -⟩ := Intake.ofFetch_runs owner ⟨{}, [], {}, 0⟩
  have ordinary : Runs (bypassReason? deployment hollowCase) asked (.ok none) := by
    refine Program.runs_bind.mpr (.inr ⟨asked, 7, [], (List.append_nil _).symm, owner, ?_⟩)
    exact .done none
  let later : Transcript := [⟨.tables, {}⟩, ⟨.clock, some .epoch⟩,
    ⟨.evaluate hollowCase hollowRule .concurrent, .ok hollowRule.vacancy⟩,
    ⟨.clock, some .epoch⟩, ⟨.newId, "1"⟩]
  have returned : Runs (moderate deployment hollowCase) (asked ++ later) (.ok [log]) := by
    refine Program.runs_bind.mpr (.inr ⟨asked, none, later, rfl, ordinary, ?_⟩)
    exact .ask _ (.ask _ (.ask _ (.ask _ (.ask _ (.done _)))))
  have evaluated : Evaluated (asked ++ later) := by
    intro case rule strategy answer member
    rcases List.mem_append.mp member with fetched | listed
    · exact absurd ((ofFetch_asks isActing_reads _).of_runs owner _ fetched) (by simp [Ask.isActing])
    · simp only [later, List.mem_cons, List.not_mem_nil, or_false] at listed
      rcases listed with other | other | same | other | other
      · cases other
      · cases other
      · cases same
        exact ⟨⟨deployment, .whole 20, .whole 10⟩, {}, (vacant bare).2 _ _ _ _ rfl (by decide)⟩
      · cases other
      · cases other
  refine ⟨counts.mpr (.inr hollow), bare, excludes, accepted, hollow, _, evaluated, returned, ?_⟩
  exact stopped deployment hollowCase _ _ rfl bare evaluated returned

end Witness

end Moderation

end Curation
