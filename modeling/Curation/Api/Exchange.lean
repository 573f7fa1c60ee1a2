import Curation.Decode.Checked
import Curation.Decode.Scalar
import Curation.Json.Reader

/-!
Requests to the service and its responses. A body is JSON text; one that is absent, or null, is
missing, and one that cannot be read is told by where the text goes wrong.
-/
namespace Curation.Api
open Decode

structure Request where
  method : String
  path : String
  query : List (String × String) := []
  body : Option String := none
  deriving Repr, Inhabited

structure Response where
  status : Nat
  body : Json
  deriving Repr, Inhabited

namespace Response

def ok (body : Json) : Response := ⟨200, body⟩

/-- A refusal, with its reason. -/
def refusal (status : Nat) (reason : String) : Response := ⟨status, .obj [("detail", .str reason)]⟩

/-- A request that does not have the wanted shape. -/
def misshapen (issues : List Issue) : Response := ⟨422, .obj [("detail", report issues)]⟩

def notFound : Response := refusal 404 "Not Found"

def methodNotAllowed : Response := refusal 405 "Method Not Allowed"

end Response

namespace Request

/-- The body as a value; none when there is none. -/
def value? (request : Request) : Checked (Option Json) :=
  match request.body with
  | none | some "" => .ok none
  | some text =>
    match Json.read text with
    | .ok .null => .ok none
    | .ok value => .ok (some value)
    | .error fault => .bad [⟨.invalidJson, [.key "body", .index (text.length - fault.remaining)]⟩]

/-- The body in a shape. -/
def readBody {α : Type} (request : Request) (read : Terms → Reader α) : Checked α :=
  request.value?.andThen fun value =>
    let checked : Checked α := match value with
      | none => .issue .missing
      | some value => read .body value
    checked.under (.key "body")

/-- A parameter of the query in a shape, with what it is when it is absent. -/
def readParameter {α : Type} (request : Request) (name : String) (absent : α) (read : Reader α) :
    Checked α :=
  match request.query.lookup name with
  | none => .ok absent
  | some text => ((read (.str text)).under (.key name)).under (.key "query")

/-- The parts of the path between slashes. -/
def segments (request : Request) : List String :=
  match request.path.splitOn "/" with
  | "" :: rest => rest
  | parts => parts

end Request

end Curation.Api
