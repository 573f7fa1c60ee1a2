import Curation.Json.Writer
import Curation.Link.Parts
import Curation.Remote.Call

/-!
A network with set answers. The first set answer that fits a request is given, after its delay; a
request that none fits is not found, and one whose delay is longer than its patience times out.
-/
namespace Curation.Rehearsal
open Remote (Request Reply)

/-- An answer that is set for requests of a kind, how often it is given, and after how long. -/
structure Stub where
  url : String
  method : Option String
  query : Option (List (String × String))
  body : Option Json
  times : Option Int
  delay : Number
  reply : Reply
  deriving Repr, Inhabited

mutual
/-- Whether a body is as wanted: objects may have more members than wanted, all else is alike. -/
def fits : Json → Json → Bool
  | .null, .null => true
  | .bool a, .bool b => a == b
  | .number (.whole m), .number (.whole n) => m == n
  | .number (.real x), .number (.real y) => (Number.real x).eq (.real y)
  | .str a, .str b => a == b
  | .arr wanted, .arr found => fitItems wanted found
  | .obj wanted, .obj found => fitMembers wanted found
  | _, _ => false

def fitItems : List Json → List Json → Bool
  | [], [] => true
  | wanted :: more, found :: rest => fits wanted found && fitItems more rest
  | _, _ => false

def fitMembers : Json.Members → Json.Members → Bool
  | [], _ => true
  | (name, wanted) :: more, found =>
    (match Json.Members.get? name found with
      | some value => fits wanted value
      | none => false) && fitMembers more found
end

/-- Where a request goes, without its query. -/
def address (request : Request) : String := (Link.splitQuery request.url).1

/-- The query of a request; one that is given apart counts before one in the address. -/
def parameters (request : Request) : Option (List (String × String)) :=
  request.query.orElse fun _ => (Link.splitQuery request.url).2

namespace Stub

def isUsedUp (stub : Stub) : Bool := stub.times.any (· ≤ 0)

def answers (stub : Stub) (request : Request) : Bool :=
  !stub.isUsedUp && stub.url == address request && stub.method.all (· == request.method) &&
    stub.query.all (fun wanted =>
      wanted.all fun pair => ((parameters request).getD []).lookup pair.1 == some pair.2) &&
    stub.body.all (fun wanted => request.body.any (fits wanted))

/-- The answer as it is set from its next use on. -/
def used (stub : Stub) : Stub := { stub with times := stub.times.map (· - 1) }

/-- An answer as a document sets it: a status with a text, or a failure to get one. -/
def ofMembers (members : Json.Members) : Stub :=
  let field (name : String) : Option Json := Json.Members.get? name members
  let reply : Reply := match field "error" with
    | some (.str "timeout") => .timedOut
    | some (.str reason) => .broken reason
    | _ =>
      let text := match field "text" with
        | some text => text.textOrEmpty
        | none => ((field "json").getD (.obj [])).unescaped
      .answered ⟨((field "status").bind Json.whole?).getD 200, text⟩
  { url := ((field "url").getD .null).textOrEmpty
    method := (field "method").bind Json.text?
    query := (field "query").map fun query =>
      query.ownMembers.map fun pair => (pair.1, pair.2.textOrEmpty)
    body := field "body"
    times := (field "times").bind Json.whole?
    delay := ((field "delay").bind Json.toNumber?).getD 0
    reply }

/-- The answers that a document sets. -/
def ofList (document : Json) : List Stub :=
  document.ownItems.map fun stub => ofMembers stub.ownMembers

end Stub

/-- The answer set for a request, and the answers as they are set afterwards. -/
def find? (request : Request) : List Stub → Option Stub × List Stub
  | [] => (none, [])
  | stub :: rest =>
    if stub.answers request then (some stub, stub.used :: rest)
    else
      let (found, rest) := find? request rest
      (found, stub :: rest)

/-- What a request that no answer is set for gets. -/
def notFound : Reply := .answered ⟨404, "\x7b\x7d"⟩

/-- What a request is ordered by: where it goes, how, and what with. -/
def rank (request : Request) : List String :=
  let query : Json := match parameters request with
    | some pairs => .obj (pairs.map fun pair => (pair.1, .str pair.2))
    | none => .null
  [address request, request.method, query.sortNames.compact,
    (request.body.getD .null).sortNames.compact]

/-- The order of ranks, part by part. -/
def rankBefore : List String → List String → Bool
  | [], _ => true
  | _ :: _, [] => false
  | a :: as, b :: bs => if a = b then rankBefore as bs else decide (a ≤ b)

/-- Requests in an order that does not depend on when they were made. -/
def inOrder (requests : List Request) : List Request :=
  requests.mergeSort fun a b => rankBefore (rank a) (rank b)

/-- How long a request takes and what it gets. -/
def outcome (request : Request) (stub : Option Stub) : Number × Reply :=
  match stub with
  | none => (0, notFound)
  | some stub =>
    if request.timeout.lt stub.delay then (request.timeout, .timedOut) else (stub.delay, stub.reply)

end Curation.Rehearsal
