import Curation.Check.Basic

/-!
Decisions about rules, and how the decision about an inner node follows from those about its
children. Only the order in which the children are declared counts.
-/
namespace Curation

/-- How an inner node that asks for any child runs its children. -/
inductive OrStrategy where
  | concurrent
  | shortCircuit
  deriving DecidableEq, Repr, Inhabited

/-- The outcome for a rule. The rule that it names decided it: the passing child of a node that asks
for any, otherwise the node itself. -/
structure Decision where
  passed : Bool
  explanation : String
  rule : Rule
  deriving Repr, Inhabited

/-- Why no decision was reached. -/
inductive EvaluationFault (ε : Type) where
  | unknownCheck (name : String)
  | check (fault : ε)
  | overran
  deriving Repr, Inhabited

namespace Decision

/-- A leaf takes its check's verdict. -/
def ofVerdict (leaf : Condition) (verdict : Verdict) : Decision :=
  ⟨verdict.passed, verdict.message, .condition leaf⟩

/-- A node without children fails. -/
def noRules (rule : Rule) : Decision := ⟨false, "No rules", rule⟩

/-- All of some children: the first that fails explains a failure, all together explain a pass. -/
def ofAll (rule : Rule) (children : List Decision) : Decision :=
  match children.find? fun child => !child.passed with
  | some failed => ⟨false, failed.explanation, rule⟩
  | none => ⟨true, Text.join ", " (children.map (·.explanation)), rule⟩

/-- None of some children: a lone child explains the failure itself. -/
def ofNone (rule : Rule) (children : List Decision) : Decision :=
  match children with
  | [child] => ⟨false, child.explanation, rule⟩
  | children =>
    ⟨false, "Failed all checks: " ++ Text.join ", " (children.map (·.explanation)), rule⟩

end Decision

end Curation
