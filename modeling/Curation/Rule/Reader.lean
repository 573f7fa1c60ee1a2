import Curation.Decode.Scalar
import Curation.Failure
import Curation.Json.Reader
import Curation.Rule.Basic

/-!
Reading rules from their stored form, as a value or as text. A tag tells leaves from inner nodes;
everything that is wrong is reported together, with the path to it.
-/
namespace Curation.Rule
open Decode

def operations : List (String × Operation) := [("AND", .all), ("OR", .any)]

/-- The fields of a leaf. -/
def readCondition (members : Json.Members) : Checked Rule :=
  (fun name args => .condition ⟨name, args⟩)
    <$> required ["name"] someText members
    <*> optional ["args"] [] object members

mutual
def read (terms : Terms) : Json → Checked Rule
  | .obj members =>
    match Json.Members.get? "type" members with
    | none => .issue .tagMissing
    | some (.str "CONDITION") => (readCondition members).under (.key "CONDITION")
    | some (.str "LOGICAL") =>
      (group
        <$> optional ["name"] "and" text members
        <*> optional ["args"] [] object members
        <*> required ["operation"] (choice operations) members
        <*> readChildren terms members).under (.key "LOGICAL")
    | some _ => .issue .tagUnknown
  | _ => .issue terms.tagged

/-- The children among the members of an inner node; there are none where they are not given. -/
def readChildren (terms : Terms) : List (String × Json) → Checked (List Rule)
  | [] => .ok []
  | (name, value) :: rest =>
    if name = "conditions" then (readList terms value).under (.key "conditions")
    else readChildren terms rest

def readList (terms : Terms) : Json → Checked (List Rule)
  | .arr items => readAll terms 0 items
  | _ => .issue .listType

def readAll (terms : Terms) (position : Nat) : List Json → Checked (List Rule)
  | [] => .ok []
  | item :: rest =>
    (· :: ·) <$> (read terms item).under (.index position) <*> readAll terms (position + 1) rest
end

/-- Reads a rule from JSON text or from a value that stands for one. -/
def parse : Json → Checked Rule
  | .str text =>
    match Json.value? text with
    | some value => read .text value
    | none => .issue .invalidJson
  | value => read .value value

/-- The rule that a configuration stores. -/
def load (stored : Json) : Except Failure Rule :=
  match parse stored with
  | .ok rule => .ok rule
  | .bad issues => .error (.configuration (.malformed issues))

end Curation.Rule
