import Curation.Proofs.Evaluation.Schedule

/-! What a rule comes to by the order of declaration alone. `Rule.value` is the
decision when every leaf has its verdict; `Rule.sequential` is what is left of it
when leaves may also fail, with the children of a node that asks for any tried
one after the other. Neither mentions an order in which checks end. -/
namespace Curation

open Evaluation Node

/-- What holds in the child at a position of a node. -/
def ofChild {α : Type} (position : Nat) (each : Path → α) : Path → α :=
  fun path => each (position :: path)

namespace Rule

/-- All of some children: the first that fails explains the failure, all together
explain the pass. -/
def conjunction (rule : Rule) (children : List Decision) : Decision :=
  match children.find? fun child => !child.passed with
  | some failing => ⟨false, failing.explanation, rule⟩
  | none => ⟨true, ", ".intercalate (children.map (·.explanation)), rule⟩

/-- Any of some children: the first that passes decides, as it stands. -/
def disjunction (rule : Rule) (children : List Decision) : Decision :=
  match children.find? (·.passed), children with
  | some passing, _ => passing
  | none, [child] => ⟨false, child.explanation, rule⟩
  | none, children =>
    ⟨false, "Failed all checks: " ++ ", ".intercalate (children.map (·.explanation)), rule⟩

mutual
/-- The decision about a rule whose leaves have these verdicts, each by its place. -/
def value (verdicts : Path → Condition → Verdict) : Rule → Decision
  | .condition leaf => ⟨(verdicts [] leaf).passed, (verdicts [] leaf).message, .condition leaf⟩
  | .group name args operation children =>
    let rule := .group name args operation children
    if children.isEmpty then ⟨false, "No rules", rule⟩
    else match operation with
      | .all => conjunction rule (values verdicts 0 children)
      | .any => disjunction rule (values verdicts 0 children)

def values (verdicts : Path → Condition → Verdict) (position : Nat) : List Rule → List Decision
  | [] => []
  | rule :: rest => value (ofChild position verdicts) rule :: values verdicts (position + 1) rest
end

/-- The first of some children that passes, if none before it fails to decide.
`failures` are those tried already. -/
def firstPass (rule : Rule) (failures : List Decision) : List (Option Decision) → Option Decision
  | [] => some (.ofNone rule failures)
  | none :: _ => none
  | some child :: rest =>
    if child.passed then some child else firstPass rule (failures ++ [child]) rest

mutual
/-- The decision about a rule whose leaves may fail, if there is one. A leaf that
names no known check fails. -/
def sequential {ε : Type} (known : String → Bool) (outcomes : Path → Condition → Except ε Verdict) :
    Rule → Option Decision
  | .condition leaf =>
    if known leaf.name then (outcomes [] leaf).toOption.map (.ofVerdict leaf) else none
  | .group name args operation children =>
    let rule := .group name args operation children
    if children.isEmpty then some (.noRules rule)
    else match operation with
      | .all => ((sequentials known outcomes 0 children).mapM id).map (.ofAll rule)
      | .any => firstPass rule [] (sequentials known outcomes 0 children)

def sequentials {ε : Type} (known : String → Bool)
    (outcomes : Path → Condition → Except ε Verdict) (position : Nat) :
    List Rule → List (Option Decision)
  | [] => []
  | rule :: rest =>
    sequential known (ofChild position outcomes) rule :: sequentials known outcomes (position + 1) rest
end

variable {ε : Type} {known : String → Bool} {outcomes : Path → Condition → Except ε Verdict}

theorem sequentials_append (position : Nat) (before after : List Rule) :
    sequentials known outcomes position (before ++ after) =
      sequentials known outcomes position before ++
        sequentials known outcomes (position + before.length) after := by
  induction before generalizing position with
  | nil => simp [sequentials]
  | cons rule before ih => simp [sequentials, ih, Nat.add_assoc, Nat.add_comm 1]

theorem length_sequentials (position : Nat) (rules : List Rule) :
    (sequentials known outcomes position rules).length = rules.length := by
  induction rules generalizing position with
  | nil => rfl
  | cons rule rest ih => simp [sequentials, ih]

theorem mapM_id_some (decisions : List Decision) : (decisions.map some).mapM id = some decisions := by
  induction decisions with
  | nil => rfl
  | cons decision rest ih => simp [ih]

theorem mapM_id_none {children : List (Option Decision)} (member : none ∈ children) :
    children.mapM id = none := by
  induction children with
  | nil => cases member
  | cons child rest ih =>
    rcases List.mem_cons.mp member with rfl | later
    · rfl
    · cases child with
      | none => rfl
      | some decision => simp [ih later]

/-- Children that failed count as tried. -/
theorem firstPass_failed {failed : List Decision} (fail : ∀ child ∈ failed, child.passed = false)
    (rule : Rule) (failures : List Decision) (rest : List (Option Decision)) :
    firstPass rule failures (failed.map some ++ rest) = firstPass rule (failures ++ failed) rest := by
  induction failed generalizing failures with
  | nil => simp
  | cons child failed ih =>
    have here : child.passed = false := fail child (.head _)
    have tail := ih (fun other member => fail other (.tail _ member)) (failures ++ [child])
    simpa [firstPass, here] using tail

theorem firstPass_found {decisions : List Decision} {passing : Decision}
    (first : decisions.find? (·.passed) = some passing) (rule : Rule) (failures : List Decision)
    (rest : List (Option Decision)) :
    firstPass rule failures (decisions.map some ++ rest) = some passing := by
  obtain ⟨passes, before, after, rfl, fail⟩ := List.find?_eq_some_iff_append.mp first
  have failed : ∀ child ∈ before, child.passed = false := by simpa using fail
  rw [List.map_append, List.append_assoc, firstPass_failed failed]
  simp [firstPass, passes]

/-- Children that all failed leave the node itself to decide. -/
theorem firstPass_none {decisions : List Decision}
    (fail : decisions.find? (·.passed) = none) (rule : Rule) :
    firstPass rule [] (decisions.map some) = some (.ofNone rule decisions) := by
  have failed : ∀ child ∈ decisions, child.passed = false := by simpa using fail
  have tried := firstPass_failed failed rule [] []
  rw [List.append_nil] at tried
  rw [tried, List.nil_append, firstPass]

/-! ## Leaves that do not fail -/

private theorem disjunction_eq (rule : Rule) (decisions : List Decision) :
    firstPass rule [] (decisions.map some) = some (disjunction rule decisions) := by
  unfold disjunction
  cases first : decisions.find? (·.passed) with
  | some passing => simpa using firstPass_found first rule [] []
  | none =>
    rw [firstPass_none first]
    match decisions with
    | [] | [_] | _ :: _ :: _ => rfl

mutual
theorem sequential_eq_value (verdicts : Path → Condition → Verdict) :
    (rule : Rule) → (∀ leaf ∈ rule.leaves, known leaf.name = true) →
      sequential known (fun path leaf => (.ok (verdicts path leaf) : Except ε Verdict)) rule =
        some (rule.value verdicts)
  | .condition leaf, all_known => by
    have here := all_known leaf (.head _)
    simp [sequential, value, here, Except.toOption, Decision.ofVerdict]
  | .group name args operation children, all_known => by
    have each := sequentials_eq_values verdicts 0 children all_known
    simp only [sequential, value, each]
    split
    · rfl
    · cases operation with
      | all => rw [mapM_id_some]; rfl
      | any => exact disjunction_eq _ _

theorem sequentials_eq_values (verdicts : Path → Condition → Verdict) (position : Nat) :
    (rules : List Rule) → (∀ leaf ∈ leavesOf rules, known leaf.name = true) →
      sequentials known (fun path leaf => (.ok (verdicts path leaf) : Except ε Verdict)) position rules =
        (values verdicts position rules).map some
  | [], _ => rfl
  | rule :: rest, all_known => by
    have here := sequential_eq_value (ofChild position verdicts) rule
      fun leaf member => all_known leaf (List.mem_append_left _ member)
    have later := sequentials_eq_values verdicts (position + 1) rest
      fun leaf member => all_known leaf (List.mem_append_right _ member)
    simp only [sequentials, values, List.map_cons]
    exact congr (congrArg _ here) later
end

end Rule

end Curation
