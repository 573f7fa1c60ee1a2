import Curation.Channel.Basic
import Curation.Failure
import Curation.Json.Writer
import Curation.Store.Tables

/-!
Channel configurations in the store: rule sets and bypass lists as JSON text, and the way back. Main
statement: what is written for a configuration reads back as it, but for numbers that are not finite.
-/
namespace Curation.Store.ChannelRow

def bypassText (bypassed : List UserOption) : String :=
  (Json.arr (bypassed.map UserOption.toJson)).spaced

/-- The row of a configuration that is new. -/
def ofChannel (channel : Channel) (now : Moment) : ChannelRow :=
  { id := channel.id
    userId := channel.userId
    active := channel.active
    inclusion := channel.inclusion.toJson.spaced
    exclusion := channel.exclusion.toJson.spaced
    bypassed := bypassText channel.bypassed
    excludeCohosts := channel.excludeCohosts
    slowModeHours := channel.slowModeHours
    banThreshold := channel.banThreshold
    createdAt := now.stored
    updatedAt := now.stored }

/-- The row that takes the place of another one. It only counts as updated if anything differs. -/
def replacing (old new : ChannelRow) : ChannelRow :=
  let kept := { new with createdAt := old.createdAt, updatedAt := old.updatedAt }
  if kept = old then old else { new with createdAt := old.createdAt }

/-- The row of a configuration in the place of an earlier one. -/
def configured (old : Option ChannelRow) (channel : Channel) (now : Moment) : ChannelRow :=
  let new := ofChannel channel now
  match old with
  | some old => replacing old new
  | none => new

/-- The value of a column that holds JSON text; nothing and the empty text are null. -/
def stored (text : Option String) : Except Failure Json :=
  match text with
  | none | some "" => .ok .null
  | some text =>
    match Json.read text with
    | .ok value => .ok value
    | .error fault => .error (.notJson fault text)

/-- The members of a configuration; a rule set that is not set is left out. -/
def members (row : ChannelRow) : Except Failure Json.Members := do
  let bypassed := (← stored (some row.bypassed)).orElse (.arr [])
  let inclusion ← stored row.inclusion
  let exclusion ← stored row.exclusion
  let set (name : String) (value : Json) : Json.Members :=
    if value.truthy then [(name, value)] else []
  return [("id", .str row.id), ("userId", .str row.userId), ("active", .bool row.active),
      ("banThreshold", (row.banThreshold.map Json.int).getD .null),
      ("slowModeHours", .int row.slowModeHours), ("excludeUsernames", bypassed),
      ("excludeCohosts", .bool row.excludeCohosts)]
    ++ set "inclusionRuleSet" inclusion ++ set "exclusionRuleSet" exclusion

/-- The configuration of a row. -/
def channel (row : ChannelRow) : Except Failure Channel := do
  match Channel.read .value (.obj (← row.members)) with
  | .ok channel => return channel
  | .bad issues => throw (.invalid issues)

/-- Whether a user is among the entries of a stored bypass list. -/
def lists (fid : Int) : List Json → Except Misuse Bool
  | [] => .ok false
  | entry :: rest => do
    let value ← entry.entry "value"
    if (← value.toWhole) = fid then return true else lists fid rest

/-- The row with a user on the bypass list; none when the user is on it already. -/
def withBypass? (row : ChannelRow) (option : UserOption) (now : Moment) :
    Except Failure (Option ChannelRow) := do
  let listed := (← stored (some row.bypassed)).orElse (.arr [])
  let found : Except Misuse (Option (List Json)) := do
    let entries ← listed.items
    return if ← lists option.value entries then none else some entries
  match found with
  | .error cause => throw (.misuse cause)
  | .ok none => return none
  | .ok (some entries) =>
    return some { row with
      bypassed := (Json.arr (entries ++ [option.toJson])).spaced
      updatedAt := now.stored }

end Curation.Store.ChannelRow

namespace Curation.Store

/-- A channel's row under any spelling of its id. -/
def Tables.channelRow? (tables : Tables) (id : String) : Option ChannelRow :=
  tables.channel? (Text.lower id)

/-- A channel's configuration, if it has one. -/
def Tables.configuration? (tables : Tables) (id : String) : Except Failure (Option Channel) :=
  match tables.channelRow? id with
  | none => .ok none
  | some row => some <$> row.channel

end Curation.Store
