import Curation.Check.Definition
import Curation.Rule.Basic

/-!
Registries: closed tables of check definitions, and the rules that may be saved against one. Main
statement: a rule is accepted exactly when each of its leaves names a known check that fits the rule
set and has usable arguments, and no check is repeated that must not be.
-/
namespace Curation

/-- Definitions in the order of their registration, no two of one name. -/
structure Registry where
  definitions : List Definition
  names_nodup : (definitions.map (·.name)).Nodup

namespace Registry

/-- The first name that has occurred before. -/
def firstRepeated? : List String → List String → Option String
  | _, [] => none
  | seen, name :: rest =>
    if seen.contains name then some name else firstRepeated? (name :: seen) rest

/-- The table of some definitions, or the name that two of them share. -/
def ofList (definitions : List Definition) : Except String Registry :=
  if distinct : (definitions.map (·.name)).Nodup then .ok ⟨definitions, distinct⟩
  else .error ((firstRepeated? [] (definitions.map (·.name))).getD "")

def names (registry : Registry) : List String := registry.definitions.map (·.name)

def find? (registry : Registry) (name : String) : Option Definition :=
  registry.definitions.find? fun definition => definition.name == name

/-- What a user who configures a channel may choose from. -/
def available (registry : Registry) (fid : Option Int) (channel : Option String) :
    List Definition :=
  registry.definitions.filter fun definition => definition.isAvailable fid channel

/-- Whether a value is a whole number, or a number or text that stands for one; flags do not. -/
def isWholeNumber : Json → Bool
  | .number (.whole _) => true
  | .number (.real x) => x.isWhole
  | .str s => (Text.readWhole? 10 s.toList).isSome
  | _ => false

/-- What is wrong with the value given for an argument. -/
def argumentFault? (definition : Definition) (arg : Argument) (value : Json) :
    Option ConfigurationFault :=
  if Argument.isBlank value then
    if arg.required then
      match arg.missingMessage with
      | some reason =>
        if reason.isEmpty then some (.missing definition.title arg.friendlyName)
        else some (.explained reason)
      | none => some (.missing definition.title arg.friendlyName)
    else none
  else if arg.type == "number" && !isWholeNumber value then
    some (.notWhole definition.title arg.friendlyName)
  else arg.test.bind fun test => (test value).map .explained

/-- What is wrong with a leaf as part of a rule set. -/
def leafFault? (registry : Registry) (kind : Option RuleSetKind) (leaf : Condition) :
    Option ConfigurationFault :=
  match registry.find? leaf.name with
  | none => some (.unknownCheck leaf.name)
  | some definition =>
    if kind.any fun kind => !definition.category.fits kind then
      some (.misplaced definition.title definition.category.name)
    else
      definition.args.findSome? fun arg =>
        argumentFault? definition arg ((Json.Members.get? arg.name leaf.args).getD .null)

/-- The first check, in the order of first use, that is repeated and must not be. -/
def repetitionFault? (registry : Registry) (leaves : List Condition) : Option ConfigurationFault :=
  leaves.findSome? fun leaf =>
    match registry.find? leaf.name with
    | none => none
    | some definition =>
      if !definition.allowMultiple && 1 < leaves.countP (fun other => other.name == leaf.name) then
        some (.repeated definition.title)
      else none

/-- What is wrong with a rule as one of the two rule sets of a channel, or as neither. -/
def ruleFault? (registry : Registry) (kind : Option RuleSetKind) (rule : Rule) :
    Option ConfigurationFault :=
  (rule.leaves.findSome? (registry.leafFault? kind)).orElse fun _ =>
    registry.repetitionFault? rule.leaves

/-- Accepts a rule or tells the first thing that is wrong with it. -/
def check (registry : Registry) (kind : Option RuleSetKind) (rule : Rule) : Except Failure Unit :=
  match registry.ruleFault? kind rule with
  | none => .ok ()
  | some fault => .error (.configuration fault)

end Registry

end Curation
