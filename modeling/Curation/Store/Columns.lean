import Curation.Store.Change

/-!
Rows given column by column. A column that is left out, or is null, gets its standard value; one
that has none has to be given. Values of other kinds are stored as their text where a column holds
text.
-/
namespace Curation.Store

/-- The text of a column, if it is given. -/
def textColumn? (columns : Json.Members) (name : String) : Option String :=
  match (Json.Members.get? name columns).getD .null with
  | .null => none
  | .str text => some text
  | value => some value.display

/-- The text of a column that has to be given. -/
def textColumn (table : String) (columns : Json.Members) (name : String) :
    Except StoreFault String :=
  match textColumn? columns name with
  | some text => .ok text
  | none => .error (.absent s!"{table}.{name}")

def flagColumn? (columns : Json.Members) (name : String) : Option Bool :=
  (Json.Members.get? name columns).bind Json.flag?

def wholeColumn? (columns : Json.Members) (name : String) : Option Int :=
  (Json.Members.get? name columns).bind Json.whole?

/-- A log written now; it takes a fresh id if it is not given one. -/
def logOfColumns (columns : Json.Members) (freshId : String) (now : Moment) :
    Except StoreFault Log := do
  let column := textColumn "moderation_log" columns
  return {
    id := (textColumn? columns "id").getD freshId
    channelId := ← column "channel_id"
    action := ← column "action"
    actor := (textColumn? columns "actor").getD Log.systemActor
    reason := ← column "reason"
    fid := ← column "affected_user_fid"
    username := ← column "affected_username"
    avatarUrl := textColumn? columns "affected_user_avatar_url"
    castHash := (textColumn? columns "cast_hash").getD ""
    castText := (textColumn? columns "cast_text").getD ""
    rule := (textColumn? columns "rule").getD "\x7b\x7d"
    createdAt := now.stored
    updatedAt := now.stored }

/-- A channel written now. Its id must be a new one. -/
def channelOfColumns (tables : Tables) (columns : Json.Members) (now : Moment) :
    Except StoreFault ChannelRow := do
  let column := textColumn "moderated_channel" columns
  let row : ChannelRow :=
    { id := ← column "id"
      userId := ← column "user_id"
      active := (flagColumn? columns "active").getD true
      inclusion := textColumn? columns "inclusion_rule_set"
      exclusion := textColumn? columns "exclusion_rule_set"
      bypassed := (textColumn? columns "exclude_usernames").getD "[]"
      excludeCohosts := (flagColumn? columns "exclude_cohosts").getD true
      slowModeHours := (wholeColumn? columns "slow_mode_hours").getD 0
      banThreshold := wholeColumn? columns "ban_threshold"
      createdAt := now.stored
      updatedAt := now.stored }
  if (tables.channel? row.id).isSome then throw (.duplicate "moderated_channel.id")
  return row

end Curation.Store
