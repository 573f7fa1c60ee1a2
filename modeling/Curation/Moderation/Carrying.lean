import Curation.Moderation.Basic
import Curation.Remote.Channels
import Curation.Store.Configuration
import Curation.Store.Writing

/-!
Carrying out actions. Suspensions, bypass entries, roles and votes are written to the store;
invitations, hidings and bans go out to the network, unless the deployment keeps to itself. A cast
is visible by default, so only a user who asks to join is invited, and only a cast is hidden.

Every action that was carried out has one log entry, committed together with what it wrote; an
action that fails undoes what it wrote and ends the run. A simulation only builds the entries that
there would be.
-/
namespace Curation.Moderation

/-- The moment a length of time after another one. -/
def later (moment : Moment) (length : Except Span.Fault Int) : Except Failure Moment :=
  match length with
  | .error fault => .error (.span fault)
  | .ok micros =>
    match moment.later? micros with
    | some later => .ok later
    | none => .error .dateOutOfRange

def hoursFrom (moment : Moment) (hours : Number) : Except Failure Moment :=
  later moment (Span.ofHours hours)

def secondsFrom (moment : Moment) (seconds : Number) : Except Failure Moment :=
  later moment (Span.ofSeconds seconds)

/-- Suspends the user of a case from its channel. -/
def suspend (channel : String) (fid : Int) (expiresAt : Option Moment) : Moderation Unit := do
  write (.cooldown (Store.suspend (← tables) (← now) channel fid expiresAt))

/-- Puts a user on the bypass list of a channel that is stored. -/
def addToBypass (channel : String) (option : UserOption) : Moderation Bool := do
  let some row := (← tables).channelRow? channel | return false
  let added ← row.withBypass? option (← now)
  match added with
  | some row =>
    write (.channel row)
    return true
  | none => return false

/-- Lifts a suspension. -/
def liftSuspension (channel : String) (fid : Int) : Moderation Bool := do
  match Store.lift? (← tables) channel fid with
  | some row =>
    write (.cooldown row)
    return true
  | none => return false

def grantRole (channel role : String) (user : User) : Moderation Unit := do
  match (← tables).role? channel role with
  | none => throw (.action (.noRole role channel))
  | some row => write (.delegate (Store.grant row user.fid user.username user.pictureUrl))

/-- The cast that an action needs. -/
def castFor (case : Case) (action : Action) : Moderation Cast :=
  match case.cast with
  | some cast => return cast
  | none => throw (.action (.requiresCast action.name))

/-- Votes against the cast in the name of a moderator. -/
def voteDown (case : Case) (voter : Voter) : Moderation Unit := do
  let cast ← castFor case (.downvote voter)
  match (Json.str voter.fid).toWhole with
  | .error cause => throw (.misuse cause)
  | .ok fid =>
    write (.downvote (Store.vote (← tables) (← now) case.channel.id cast.hash fid voter.username
      voter.avatarUrl))

/-- Does something on the network, if the deployment does. -/
def onNetwork (deployment : Deployment) (call : Remote.Fetch Unit) : Moderation Unit :=
  if deployment.executes then ofFetch call else return ()

/-- Carries out an action. -/
def carryOut (deployment : Deployment) (case : Case) (action : Action) : Moderation Unit := do
  let id := case.channel.id
  let fid := case.user.fid
  match action with
  | .bypass => return ()
  | .like =>
    match case.cast with
    | some _ => return ()
    | none => onNetwork deployment (Remote.Channels.invite deployment.directory id fid)
  | .hideQuietly | .unlike | .warnAndHide =>
    match case.cast with
    | some cast => onNetwork deployment (Remote.Channels.hide deployment.directory cast.hash)
    | none => return ()
  | .unhide =>
    let cast ← castFor case action
    onNetwork deployment (Remote.Channels.unhide deployment.directory cast.hash)
  | .ban =>
    suspend id fid none
    onNetwork deployment (Remote.Channels.ban deployment.directory id fid)
  | .mute => suspend id fid none
  | .cooldown hours =>
    let expiresAt ← hoursFrom (← now) (.real hours)
    suspend id fid (some expiresAt)
  | .cooldownEnded | .unmuted =>
    let _ ← liftSuspension id fid
  | .addToBypass =>
    let _ ← addToBypass id ⟨fid, case.user.username, case.user.pictureUrl⟩
  | .grantRole role => grantRole id role case.user
  | .downvote voter => voteDown case voter

/-! ## Log entries -/

/-- Why an action is carried out: the reason that users see, and the rule that decided. -/
structure Grounds where
  reason : String
  rule : Option Rule := none

/-- The name under which a user is logged. -/
def shownName (user : User) : String :=
  if user.username.isEmpty then toString user.fid else user.username

/-- The entry for an action, with its id and its time. -/
def entry (case : Case) (grounds : Grounds) (action id : String) (time : Moment) : Log :=
  { id
    channelId := case.channel.id
    action
    actor := Log.systemActor
    reason := grounds.reason
    fid := toString case.user.fid
    username := shownName case.user
    avatarUrl := case.user.pictureUrl
    castHash := (case.cast.map (·.hash)).getD ""
    castText := (case.cast.map (·.text)).getD ""
    rule := Rule.auditText grounds.rule
    createdAt := time
    updatedAt := time }

/-- Logs an action and commits it. -/
def logAction (case : Case) (grounds : Grounds) (action : String) : Moderation Log := do
  if case.simulation then
    let time ← now
    return entry case grounds action (Log.simulatedStart ++ (← newId)) time
  else
    let log := entry case grounds action (← newId) (← now).stored
    try write (.addLog log)
    catch failure => do
      rollback
      throw failure
    commit
    return log

/-- Carries out an action, if anything may be changed. What a failing action wrote is undone. -/
def perform (deployment : Deployment) (case : Case) (action : Action) : Moderation Unit := do
  if case.simulation then return ()
  try carryOut deployment case action
  catch failure => do
    rollback
    throw failure

/-- Carries out actions in order and logs each of them. -/
def runActions (deployment : Deployment) (case : Case) (grounds : Grounds) :
    List Action → Moderation (List Log)
  | [] => return []
  | action :: rest => do
    perform deployment case action
    let log ← logAction case grounds action.name
    let logs ← runActions deployment case grounds rest
    return log :: logs

end Curation.Moderation
