import Curation.Failure
import Curation.Program

/-!
Calls to remote services. A call is held back while the service's breaker is open; otherwise it is
sent, and what became of it is told to the breaker. A missing answer, a broken connection and a
server's own failure count against a service, every other answer counts for it.
-/
namespace Curation.Remote

/-- An HTTP request as it leaves. Times are in seconds. -/
structure Request where
  method : String
  url : String
  query : Option (List (String × String))
  body : Option Json
  auth : Option String
  timeout : Number
  deriving Repr, Inhabited

structure Response where
  status : Int
  text : String
  deriving DecidableEq, Repr, Inhabited

/-- What became of a request. -/
inductive Reply where
  | answered (response : Response)
  | timedOut
  | broken (reason : String)
  deriving DecidableEq, Repr, Inhabited

/-- What a call asks of its surroundings. -/
inductive Ask where
  | isHeldBack (service : String)
  | send (request : Request)
  | report (service : String) (success : Bool)
  deriving Repr

def Answer : Ask → Type
  | .isHeldBack _ => Bool
  | .send _ => Reply
  | .report .. => Unit

abbrev Fetch := Program Ask Answer Failure

def isHeldBack (service : String) : Fetch Bool := .ask (.isHeldBack service) .done

def send (request : Request) : Fetch Reply := .ask (.send request) .done

def report (service : String) (success : Bool) : Fetch Unit := .ask (.report service success) .done

/-- A remote service as it is reached: its name, where its paths start, how long to wait for it,
and the header that identifies this service to it. -/
structure Service where
  name : String
  base : String
  timeout : Number
  auth : Option String := none
  deriving Repr, Inhabited

/-- A path of a service, or the base itself for the empty path. -/
def Service.url (service : Service) (path : String) : String :=
  if path.isEmpty then service.base
  else
    let base := match service.base.toList.reverse with
      | '/' :: rest => rest.reverse
      | _ => service.base.toList
    String.ofList (base ++ '/' :: path.toList.dropWhile (· = '/'))

/-- What is asked of a service. -/
structure Call where
  method : String
  path : String
  query : Option (List (String × String)) := none
  body : Option Json := none
  timeout : Option Number := none
  deriving Repr, Inhabited

namespace Service

/-- The call as shown in messages. -/
def endpoint (service : Service) (call : Call) : String :=
  s!"{call.method} {if call.path.isEmpty then service.base else call.path}"

def requestOf (service : Service) (call : Call) : Request :=
  { method := call.method
    url := service.url call.path
    query := call.query
    body := call.body
    auth := service.auth
    timeout := call.timeout.getD service.timeout }

/-- Makes a call unless the service is held back, and lets its breaker know. -/
def request (service : Service) (call : Call) : Fetch Response := do
  if ← isHeldBack service.name then throw (.remote (.heldBack service.name))
  match ← send (service.requestOf call) with
  | .timedOut =>
    report service.name false
    throw (.remote (.timedOut service.name (service.endpoint call)))
  | .broken reason =>
    report service.name false
    throw (.remote (.broken service.name reason))
  | .answered response =>
    if 500 ≤ response.status then
      report service.name false
      throw (.remote (.refused service.name response.status))
    else
      report service.name true
      return response

/-- Makes a call and reads the JSON of a successful answer. -/
def json (service : Service) (call : Call) : Fetch Json := do
  let response ← service.request call
  if 400 ≤ response.status then throw (.remote (.refused service.name response.status))
  match Json.read response.text with
  | .ok value => return value
  | .error fault => throw (.notJson fault response.text)

end Service

end Curation.Remote
