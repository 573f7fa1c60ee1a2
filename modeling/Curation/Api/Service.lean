import Curation.Api.Exchange
import Curation.Api.Order
import Curation.Check.Declared
import Curation.Moderation.Dashboard
import Curation.Moderation.Intake

/-!
The service as clients see it: which requests there are, what each answers, and which failures
become which status. A failure without a status of its own is not answered.
-/
namespace Curation.Api
open Decode Moderation

/-- The service: what it calls itself, and the deployment behind it. -/
structure Service where
  name : String
  version : String
  deployment : Deployment

/-- What a request is about. -/
inductive Route where
  | root
  | health
  | rules
  | event
  | join (channel : String)
  | channel (id : String)
  | trial (channel : String)
  | activity (channel : String)
  | approval (channel log : String)
  deriving DecidableEq, Repr

/-- The route of a path. -/
def Route.ofSegments? : List String → Option Route
  | [""] => some .root
  | ["health"] => some .health
  | ["api", "v1", "rules"] => some .rules
  | ["api", "v1", "webhooks", "neynar"] => some .event
  | ["api", "v1", "frames", id, "join"] => if id.isEmpty then none else some (.join id)
  | ["api", "v1", "channels", id] => if id.isEmpty then none else some (.channel id)
  | ["api", "v1", "channels", id, "simulate"] => if id.isEmpty then none else some (.trial id)
  | ["api", "v1", "channels", id, "activity"] => if id.isEmpty then none else some (.activity id)
  | ["api", "v1", "channels", id, "activity", log, "approve"] =>
    if id.isEmpty || log.isEmpty then none else some (.approval id log)
  | _ => none

/-- A value of a shape for a handler, or the answer to a request that is not of the shape. -/
def withShape {α : Type} (checked : Checked α) (answer : α → Moderation Response) :
    Moderation Response :=
  match checked with
  | .ok value => answer value
  | .bad issues => return .misshapen issues

def notModerated (id : String) : Response := .refusal 404 s!"Channel {id} is not moderated"

def rootInfo (service : Service) : Json :=
  .obj [("name", .str service.name), ("version", .str service.version),
    ("description", .str "Automated moderation and curation for Farcaster channels"),
    ("docs", .str "/docs"), ("redoc", .str "/redoc")]

/-- The checks that a user may choose from. -/
def listRules (service : Service) (request : Request) : Moderation Response :=
  let parameters : Checked (Option Int × Option String) :=
    Prod.mk <$> request.readParameter "fid" none (fun value => (whole value).map some)
      <*> request.readParameter "channel_id" none (fun value => (text value).map some)
  withShape parameters fun (fid, channel) =>
    return .ok (.arr ((service.deployment.registry.available fid channel).map Definition.toJson))

/-- The answer to a failed event: those that may go through later are to be delivered again. -/
def eventFailure : Failure → Response
  | .event fault => .refusal 400 fault.message
  | .remote fault =>
    if fault.isTimeout || fault.isHeldBack then
      .refusal 503 "Moderation temporarily unavailable, retry later"
    else .refusal 500 "Internal error"
  | failure =>
    if failure.isTransient then .refusal 503 "Moderation temporarily unavailable, retry later"
    else .refusal 500 "Internal error"

def takeEvent (service : Service) (request : Request) : Moderation Response :=
  withShape (request.readBody Event.read) fun event => do
    try return .ok (.obj [("message", .str (← takeIn service.deployment event))])
    catch failure => return eventFailure failure

def takeJoin (service : Service) (request : Request) (id : String) : Moderation Response :=
  withShape (request.readBody JoinOrder.read) fun order => do
    try return .ok (← join service.deployment id order.fid).toJson
    catch
      | .noChannel _ => return .refusal 404 "This channel is not configured to use ModBot."
      | failure => throw failure

def showChannel (id : String) : Moderation Response := do
  match ← ((← tables).configuration? id : Except Failure (Option Channel)) with
  | some channel => return .ok channel.toJson
  | none => return notModerated id

/-- The answer to a failure of a configuration; others are not answered here. -/
def rulesFailure (failure : Failure) : Moderation Response :=
  if failure.isConfiguration then return .refusal 422 failure.message else throw failure

def putChannel (service : Service) (request : Request) (id : String) : Moderation Response :=
  withShape (request.readBody Channel.read) fun channel => do
    if channel.id ≠ Text.lower id then
      return .refusal 400 "Channel id does not match the request path"
    try return .ok (← saveChannel service.deployment channel).toJson
    catch failure => rulesFailure failure

/-- The answer to a failed trial: what may be put right later is told from what is not sound. -/
def trialFailure (failure : Failure) : Moderation Response :=
  match failure with
  | .remote _ => return .refusal 503 failure.message
  | failure =>
    if failure.isTransient then return .refusal 503 failure.message else rulesFailure failure

/-- What the rules would do. -/
def tryOut (service : Service) (order : TrialOrder) (channel : Channel) : Moderation Response := do
  if order.channel.isSome then
    (checkRules service.deployment.registry channel : Except Failure Unit)
  let found : Option User ← Remote.Accounts.user? service.deployment.directory order.fid
  match found with
  | none => return .refusal 404 s!"User {order.fid} not found"
  | some user =>
    let logs ← match order.cast with
      | none => moderateUser service.deployment channel user true
      | some cast => moderateCast service.deployment channel { cast with author := user } true
    return .ok (.obj [("logs", .arr (logs.map Log.toJson))])

def takeTrial (service : Service) (request : Request) (id : String) : Moderation Response :=
  withShape (request.readBody TrialOrder.read) fun order => do
    let stored : Option Channel ←
      match order.channel with
      | some channel => pure (some channel)
      | none => ((← tables).configuration? id : Except Failure (Option Channel))
    match stored with
    | none => return notModerated id
    | some channel =>
      try tryOut service order channel
      catch failure => trialFailure failure

/-- A whole number between two bounds. -/
def wholeBetween (least most : Int) : Reader Int := fun value =>
  (wholeAtLeast least value).andThen fun n => if most < n then .issue .tooLarge else .ok n

def showActivity (request : Request) (id : String) : Moderation Response :=
  let parameters : Checked (Int × Int × Option String) :=
    (fun limit offset action => (limit, offset, action))
      <$> request.readParameter "limit" 50 (wholeBetween 1 100)
      <*> request.readParameter "offset" 0 (wholeAtLeast 0)
      <*> request.readParameter "action" none (fun value => (text value).map some)
  withShape parameters fun (limit, offset, action) => do
    if ((← tables).channelRow? id).isNone then return notModerated id
    let logs ← listLogs (Text.lower id) action limit offset
    return .ok (.arr (logs.map Log.toJson))

def takeApproval (service : Service) (request : Request) (id log : String) : Moderation Response :=
  withShape (request.readBody ApprovalOrder.read) fun order => do
    try return .ok (← approve service.deployment (Text.lower id) log order.actor).toJson
    catch failure =>
      match failure with
      | .noChannel _ | .noLog _ => return .refusal 404 failure.message
      | .action _ => return .refusal 409 failure.message
      | failure => throw failure

/-- Answers a request that takes a deployment that can moderate. A body that cannot be read is
noticed first. -/
def withDeployment (service : Service) (request : Request) (answer : Moderation Response) :
    Moderation Response :=
  withShape request.value? fun _ => do
    ready service.deployment
    answer

/-- Answers a request. -/
def answer (service : Service) (request : Request) : Moderation Response :=
  match Route.ofSegments? request.segments, request.method with
  | none, _ => return .notFound
  | some .root, "GET" => return .ok (rootInfo service)
  | some .health, "GET" => return .ok (.obj [("status", .str "ok")])
  | some .rules, "GET" => listRules service request
  | some (.channel id), "GET" => showChannel id
  | some (.activity id), "GET" => showActivity request id
  | some .event, "POST" => withDeployment service request (takeEvent service request)
  | some (.join id), "POST" => withDeployment service request (takeJoin service request id)
  | some (.channel id), "PUT" => withDeployment service request (putChannel service request id)
  | some (.trial id), "POST" => withDeployment service request (takeTrial service request id)
  | some (.approval id log), "POST" =>
    withDeployment service request (takeApproval service request id log)
  | some _, _ => return .methodNotAllowed

end Curation.Api
