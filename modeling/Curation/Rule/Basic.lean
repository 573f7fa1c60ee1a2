import Curation.Json.Writer

/-!
Rules: trees whose leaves name a check with its arguments and whose inner nodes ask for all or any
of their children. Their JSON form is what configurations store and what the audit log quotes.
-/
namespace Curation

/-- How an inner node combines its children. -/
inductive Operation where
  | all
  | any
  deriving DecidableEq, Repr, Inhabited

/-- A leaf: a check by name, and the arguments for it. -/
structure Condition where
  name : String
  args : Json.Members
  deriving Repr, Inhabited

inductive Rule where
  | condition (leaf : Condition)
  | group (name : String) (args : Json.Members) (operation : Operation) (children : List Rule)
  deriving Repr, Inhabited

def Operation.name : Operation → String
  | .all => "AND"
  | .any => "OR"

namespace Rule

/-- The tree that nothing satisfies, for rule sets that were never configured. -/
def empty : Rule := .group "or" [] .any []

mutual
/-- The leaves from left to right. -/
def leaves : Rule → List Condition
  | .condition leaf => [leaf]
  | .group _ _ _ children => leavesOf children

def leavesOf : List Rule → List Condition
  | [] => []
  | child :: rest => leaves child ++ leavesOf rest
end

mutual
/-- The stored form. Arguments are kept as far as every reader of JSON can take them: a number that
is not finite becomes null. -/
def toJson : Rule → Json
  | .condition leaf =>
    .obj [("type", .str "CONDITION"), ("name", .str leaf.name),
      ("args", .obj (Json.finiteMembers leaf.args))]
  | .group name args operation children =>
    .obj [("type", .str "LOGICAL"), ("name", .str name), ("args", .obj (Json.finiteMembers args)),
      ("operation", .str operation.name), ("conditions", .arr (childrenToJson children))]

def childrenToJson : List Rule → List Json
  | [] => []
  | child :: rest => toJson child :: childrenToJson rest
end

/-- The text that the audit log keeps of the rule behind a decision. -/
def auditText : Option Rule → String
  | none => "\x7b\x7d"
  | some rule => rule.toJson.compact

/-- Whether the root is a condition or has children. -/
def hasConditions : Rule → Bool
  | .condition _ => true
  | .group _ _ _ children => !children.isEmpty

end Rule

end Curation
