import Curation.Moderation.Deciding
import Curation.Store.Columns

/-!
What moderators do by hand: they save a channel's configuration once its rules are sound, and they
approve what was quietly hidden.
-/
namespace Curation.Moderation

/-- Accepts the rule sets of a configuration or tells the first thing that is wrong with them. -/
def checkRules (registry : Registry) (channel : Channel) : Except Failure Unit := do
  registry.check (some .inclusion) channel.inclusion.rule
  registry.check (some .exclusion) channel.exclusion.rule

/-- Writes a configuration. -/
def writeChannel (channel : Channel) : Moderation Store.ChannelRow := do
  let old := (← tables).channelRow? channel.id
  let row := Store.ChannelRow.configured old channel (← now)
  write (.channel row)
  return row

/-- Saves a configuration whose rules are sound, and gives it as it is stored. -/
def saveChannel (deployment : Deployment) (channel : Channel) : Moderation Channel := do
  checkRules deployment.registry channel
  let row ← writeChannel channel
  commit
  row.channel

/-- The entry of a channel's log under an id. -/
def findLog? (tables : Store.Tables) (channel id : String) : Option Log :=
  (tables.log? id).filter fun log => log.channelId == channel

/-- A channel's logs, the newest first: so many at most, without those before an offset. -/
def listLogs (channel : String) (action : Option String) (limit offset : Int) :
    Moderation (List Log) := do
  if !Store.fits limit || !Store.fits offset then throw (.store .tooLarge)
  return (← tables).logsOf channel action limit offset

/-- Adds an entry that is given column by column. -/
def addLog (columns : Json.Members) : Moderation Log := do
  let id ← match Store.textColumn? columns "id" with
    | some id => pure id
    | none => newId
  match Store.logOfColumns columns id (← now) with
  | .error fault => throw (.store fault)
  | .ok log =>
    write (.addLog log)
    return log

/-- Adds a channel that is given column by column. -/
def addChannel (columns : Json.Members) : Moderation Unit := do
  match Store.channelOfColumns (← tables) columns (← now) with
  | .error fault => throw (.store fault)
  | .ok row => write (.channel row)

/-- The case that a log entry is about. -/
def caseOf (channel : Channel) (log : Log) : Except Misuse Case := do
  let fid ← (Json.str log.fid).toWhole
  let user : User := { fid, username := log.username, pictureUrl := log.avatarUrl }
  let cast := if log.castHash.isEmpty then none
    else some { hash := log.castHash, author := user, text := log.castText }
  return ⟨channel, user, cast, false⟩

/-- Approves a user or a cast that was quietly hidden. -/
def approve (deployment : Deployment) (channelId logId actor : String) : Moderation Log := do
  match ← ((← tables).configuration? channelId : Except Failure (Option Channel)) with
  | none => throw (.noChannel channelId)
  | some channel =>
    match findLog? (← tables) channel.id logId with
    | none => throw (.noLog logId)
    | some log =>
      if log.action ≠ Action.hideQuietly.name then throw (.action (.notPending log.action))
      match caseOf channel log with
      | .error cause => throw (.misuse cause)
      | .ok case =>
        carryOut deployment case .like
        if case.cast.isSome then carryOut deployment case .unhide
        let approved :=
          { log with action := Action.like.name, actor, updatedAt := (← now).stored }
        write (.updateLog approved)
        commit
        return approved

end Curation.Moderation
