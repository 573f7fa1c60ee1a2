import Curation.Json.Basic

/-!
Values checked against a shape, with every departure collected. Joining two checks succeeds exactly
when both do, and otherwise keeps the issues of both in order. Clients get the issues as a report:
the kind of each departure, where it is, and the reason where a rule of the shape was broken.
-/
namespace Curation.Decode

/-- A step from a value to one of its parts. -/
inductive Step where
  | key (name : String)
  | index (position : Nat)
  deriving DecidableEq, Repr

/-- In which way a value departs from its shape. -/
inductive IssueKind where
  | missing
  | textType
  | textTooShort
  | wholeType
  | wholeParsing
  | wholeParsingSize
  | wholeFromReal
  | realType
  | realParsing
  | finiteNumber
  | flagType
  | flagParsing
  | listType
  | objectType
  | recordType
  | taggedType
  | tagMissing
  | tagUnknown
  | choice
  | notGreater
  | tooSmall
  | tooLarge
  | momentType
  | momentParsing
  | momentFromDate
  | invalidJson
  | rejected (reason : String)
  deriving DecidableEq, Repr

def IssueKind.name : IssueKind → String
  | .missing => "missing"
  | .textType => "string_type"
  | .textTooShort => "string_too_short"
  | .wholeType => "int_type"
  | .wholeParsing => "int_parsing"
  | .wholeParsingSize => "int_parsing_size"
  | .wholeFromReal => "int_from_float"
  | .realType => "float_type"
  | .realParsing => "float_parsing"
  | .finiteNumber => "finite_number"
  | .flagType => "bool_type"
  | .flagParsing => "bool_parsing"
  | .listType => "list_type"
  | .objectType => "dict_type"
  | .recordType => "model_type"
  | .taggedType => "model_attributes_type"
  | .tagMissing => "union_tag_not_found"
  | .tagUnknown => "union_tag_invalid"
  | .choice => "literal_error"
  | .notGreater => "greater_than"
  | .tooSmall => "greater_than_equal"
  | .tooLarge => "less_than_equal"
  | .momentType => "datetime_type"
  | .momentParsing => "datetime_parsing"
  | .momentFromDate => "datetime_from_date_parsing"
  | .invalidJson => "json_invalid"
  | .rejected _ => "value_error"

/-- A departure and where it is. -/
structure Issue where
  kind : IssueKind
  path : List Step
  deriving DecidableEq, Repr

/-- A value of the wanted shape, or everything that is wrong with what was given. -/
inductive Checked (α : Type) where
  | ok (value : α)
  | bad (issues : List Issue)
  deriving Repr

namespace Checked

variable {α β : Type}

def map (f : α → β) : Checked α → Checked β
  | .ok value => .ok (f value)
  | .bad issues => .bad issues

/-- Applies a checked function to a checked value, keeping the issues of both. -/
def apply (f : Checked (α → β)) (x : Unit → Checked α) : Checked β :=
  match f, x () with
  | .ok f, .ok value => .ok (f value)
  | .ok _, .bad issues => .bad issues
  | .bad issues, .ok _ => .bad issues
  | .bad issues, .bad more => .bad (issues ++ more)

instance : Applicative Checked where
  pure := .ok
  map := map
  seq := apply

/-- Goes on with the value only when there are no issues. -/
def andThen (x : Checked α) (f : α → Checked β) : Checked β :=
  match x with
  | .ok value => f value
  | .bad issues => .bad issues

def issue (kind : IssueKind) : Checked α := .bad [⟨kind, []⟩]

/-- The issues seen from a whole that holds the value at a step. -/
def under (step : Step) : Checked α → Checked α
  | .ok value => .ok value
  | .bad issues => .bad (issues.map fun issue => { issue with path := step :: issue.path })

end Checked

/-- A way to check a value. -/
abbrev Reader (α : Type) := Json → Checked α

/-- Checks the items of a list, from a position on. -/
def readItemsFrom {α : Type} (read : Reader α) (position : Nat) : List Json → Checked (List α)
  | [] => .ok []
  | item :: rest =>
    (· :: ·) <$> (read item).under (.index position) <*> readItemsFrom read (position + 1) rest

/-- A list whose items all have a shape. -/
def list {α : Type} (read : Reader α) : Reader (List α)
  | .arr items => readItemsFrom read 0 items
  | _ => .issue .listType

/-- Any object. -/
def object : Reader Json.Members
  | .obj members => .ok members
  | _ => .issue .objectType

/-- Checks the values of members. -/
def readValues {α : Type} (read : Reader α) : List (String × Json) → Checked (List (String × α))
  | [] => .ok []
  | (name, value) :: rest =>
    (fun value rest => (name, value) :: rest)
      <$> (read value).under (.key name) <*> readValues read rest

/-- An object whose values all have a shape. -/
def table {α : Type} (read : Reader α) : Reader (List (String × α))
  | .obj members => readValues read members
  | _ => .issue .objectType

/-- Null, or a value of a shape. -/
def nullable {α : Type} (read : Reader α) : Reader (Option α)
  | .null => .ok none
  | value => (read value).map some

/-- How something else is reported where an object was wanted: a record, or one of several kinds
of object told apart by a tag. The words depend on where the value came from. -/
structure Terms where
  record : IssueKind
  tagged : IssueKind

/-- For values at hand. -/
def Terms.value : Terms := ⟨.recordType, .taggedType⟩

/-- For values that are being read from text. -/
def Terms.text : Terms := ⟨.objectType, .objectType⟩

/-- For the bodies of requests. -/
def Terms.body : Terms := ⟨.taggedType, .taggedType⟩

/-- An object with named fields; other members are ignored. -/
def record {α : Type} (terms : Terms) (fields : Json.Members → Checked α) : Reader α
  | .obj members => fields members
  | _ => .issue terms.record

/-- An object whose tag chooses the fields. -/
def tagged {α : Type} (terms : Terms) (tag : String)
    (kinds : String → Option (Json.Members → Checked α)) : Reader α
  | .obj members =>
    match Json.Members.get? tag members with
    | none => .issue .tagMissing
    | some (.str name) =>
      match kinds name with
      | some fields => (fields members).under (.key name)
      | none => .issue .tagUnknown
    | some _ => .issue .tagUnknown
  | _ => .issue terms.tagged

/-- The member under the first of the names that is there. -/
def lookup? (members : Json.Members) : List String → Option (String × Json)
  | [] => none
  | name :: others =>
    match Json.Members.get? name members with
    | some value => some (name, value)
    | none => lookup? members others

/-- A field that has to be there, under the first of its names that is used. -/
def required {α : Type} (names : List String) (read : Reader α) (members : Json.Members) :
    Checked α :=
  match lookup? members names with
  | some (name, value) => (read value).under (.key name)
  | none => (Checked.issue .missing).under (.key (names.headD ""))

/-- A field with a value to take when it is absent. -/
def optional {α : Type} (names : List String) (absent : α) (read : Reader α)
    (members : Json.Members) : Checked α :=
  match lookup? members names with
  | some (name, value) => (read value).under (.key name)
  | none => .ok absent

/-! ## Reports -/

def Step.toJson : Step → Json
  | .key name => .str name
  | .index position => .int position

def Issue.toJson (issue : Issue) : Json :=
  let reason : Json.Members := match issue.kind with
    | .rejected reason => [("msg", .str ("Value error, " ++ reason))]
    | _ => []
  .obj ([("type", .str issue.kind.name), ("loc", .arr (issue.path.map Step.toJson))] ++ reason)

def report (issues : List Issue) : Json := .arr (issues.map Issue.toJson)

end Curation.Decode
