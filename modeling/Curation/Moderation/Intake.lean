import Curation.Decode.Scalar
import Curation.Json.Access
import Curation.Moderation.Deciding
import Curation.Remote.Accounts

/-!
Events and requests as they come in. A cast is moderated once: a claim keeps two deliveries of it
apart, and a row in the store tells later ones that it is done. A failed moderation frees the claim,
undoes what was not committed, and leaves a row that says so, so that the cast can be delivered
again.
-/
namespace Curation.Moderation

/-- An event: what happened, and to what. -/
structure Event where
  type : String
  data : Json.Members
  deriving Repr, Inhabited

namespace Event
open Decode

/-- The type of events about new casts. -/
def castCreated : String := "cast.created"

def read (terms : Terms) : Reader Event :=
  record terms fun members =>
    Event.mk <$> required ["type"] text members <*> optional ["data"] [] object members

def toJson (event : Event) : Json :=
  .obj [("type", .str event.type), ("data", .obj (Json.finiteMembers event.data))]

/-- The channel that an event names. -/
def channel? (event : Event) : Option String :=
  match Json.Members.get? "channel" event.data with
  | some (.obj channel) =>
    match Json.Members.get? "id" channel with
    | some (.str id) => if id.isEmpty then none else some (Text.lower id)
    | _ => none
  | _ => none

end Event

/-- The answer to a request to join. -/
structure JoinAnswer where
  message : String
  action : Option String := none
  deriving DecidableEq, Repr, Inhabited

def JoinAnswer.toJson (answer : JoinAnswer) : Json :=
  .obj [("message", .str answer.message), ("action", .ofText? answer.action)]

/-! ## Taking in -/

def claimKey (cast : Cast) : String := s!"cast:{cast.hash}"

/-- Records what became of a cast, and commits it. -/
def recordCast (channel : Channel) (cast : Cast) (status : Int) (data : Json) :
    Moderation Unit := do
  let row := Store.recordCast (← tables) (← now) cast.hash channel.id cast.author.fid status data
  write (.cast row)
  commit

/-- Moderates a cast that is claimed. -/
def moderateClaimed (deployment : Deployment) (channel : Channel) (cast : Cast) :
    Moderation String := do
  let logs ← try moderateCast deployment channel cast false
    catch failure => do
      release (claimKey cast)
      rollback
      recordCast channel cast Store.failed (.obj [("error", .str failure.message)])
      throw failure
  recordCast channel cast Store.processed
    (.obj [("actions", .arr (logs.map fun log => .str log.action))])
  return s!"Processed {cast.hash}"

/-- Takes in a cast of a channel that is moderated. -/
def takeInto (deployment : Deployment) (channel : Channel) (cast : Cast) : Moderation String := do
  if !channel.active then
    recordCast channel cast Store.ignored (.obj [])
    return s!"Channel {channel.id} is not active"
  if ((← tables).cast? cast.hash).any fun row => row.status ≠ Store.failed then
    return "Already processed"
  if ← claim (claimKey cast) (.whole deployment.claimTime) then
    moderateClaimed deployment channel cast
  else return "Already processing"

/-- Takes in an event, and says what was done. -/
def takeIn (deployment : Deployment) (event : Event) : Moderation String := do
  if event.type ≠ Event.castCreated then throw (.event .type)
  let some channelId := event.channel? | throw (.event .channel)
  match Cast.read .value (.obj event.data) with
  | .bad _ => throw (.event .cast)
  | .ok cast =>
    if cast.isReply then return "Ignoring reply"
    match ← ((← tables).configuration? channelId : Except Failure (Option Channel)) with
    | none => return s!"Channel {channelId} is not moderated"
    | some channel => takeInto deployment channel cast

def inviteSent : String := "Invite sent!"

def notEligible : String := "You are not eligible to join"

def tryAgainLater : String := "Something went wrong. Please try again later."

/-- What a user who asked to join is told about the actions that followed. -/
def joinAnswer : List Log → JoinAnswer
  | [] => { message := notEligible }
  | log :: _ =>
    if log.action = Action.like.name then { message := inviteSent, action := log.action }
    else
      { message := if log.reason.isEmpty then notEligible else log.reason, action := log.action }

/-- Decides about a user, and says so. -/
def decideJoin (deployment : Deployment) (channel : Channel) (fid : Int) :
    Moderation JoinAnswer := do
  let found : Option User ← Remote.Accounts.user? deployment.directory fid
  match found with
  | none => return { message := s!"User {fid} not found" }
  | some user => return joinAnswer (← moderateUser deployment channel user false)

/-- Takes a request to join. Whatever goes wrong, the user is asked to try again. -/
def join (deployment : Deployment) (channelId : String) (fid : Int) : Moderation JoinAnswer := do
  match ← ((← tables).configuration? channelId : Except Failure (Option Channel)) with
  | none => throw (.noChannel channelId)
  | some channel =>
    try decideJoin deployment channel fid
    catch _ => return { message := tryAgainLater }

end Curation.Moderation
