import Curation.Json.Basic
import Curation.Store.Tables

/-!
The tables as they are shown: every row with all its columns, ordered by key.
-/
namespace Curation.Store

def showMoment (moment : Moment) : Json := .str moment.answerText

def ChannelRow.toJson (row : ChannelRow) : Json :=
  .obj [("id", .str row.id), ("user_id", .str row.userId), ("active", .bool row.active),
    ("inclusion_rule_set", .ofText? row.inclusion), ("exclusion_rule_set", .ofText? row.exclusion),
    ("exclude_usernames", .str row.bypassed), ("exclude_cohosts", .bool row.excludeCohosts),
    ("slow_mode_hours", .int row.slowModeHours),
    ("ban_threshold", (row.banThreshold.map Json.int).getD .null),
    ("created_at", showMoment row.createdAt), ("updated_at", showMoment row.updatedAt)]

def RoleRow.toJson (row : RoleRow) : Json :=
  .obj [("id", .int row.id), ("channel_id", .str row.channelId), ("name", .str row.name),
    ("is_cohost_role", .bool row.isCohost)]

def DelegateRow.toJson (row : DelegateRow) : Json :=
  .obj [("fid", .str row.fid), ("role_id", .int row.roleId), ("channel_id", .str row.channelId),
    ("username", .str row.username), ("avatar_url", .ofText? row.avatarUrl)]

def CooldownRow.toJson (row : CooldownRow) : Json :=
  .obj [("affected_user_id", .str row.fid), ("channel_id", .str row.channelId),
    ("active", .bool row.active),
    ("expires_at", (row.expiresAt.map showMoment).getD .null),
    ("created_at", showMoment row.createdAt)]

def DownvoteRow.toJson (row : DownvoteRow) : Json :=
  .obj [("fid", .str row.fid), ("cast_hash", .str row.castHash), ("channel_id", .str row.channelId),
    ("username", .str row.username), ("avatar_url", .ofText? row.avatarUrl),
    ("created_at", showMoment row.createdAt)]

def CastRow.toJson (row : CastRow) : Json :=
  .obj [("hash", .str row.hash), ("channel_id", .str row.channelId),
    ("author_fid", .int row.authorFid), ("status", .int row.status), ("data", .str row.data),
    ("created_at", showMoment row.createdAt)]

/-- The rows of a table in the order of a key. -/
def ordered {α : Type} (before : α → α → Bool) (toJson : α → Json) (rows : List α) : Json :=
  .arr ((rows.mergeSort before).map toJson)

/-- The order of pairs of texts. -/
def pairBefore (a b : String × String) : Bool :=
  if a.1 = b.1 then decide (a.2 ≤ b.2) else decide (a.1 ≤ b.1)

def delegateBefore (a b : DelegateRow) : Bool :=
  if a.fid = b.fid then
    if a.roleId = b.roleId then decide (a.channelId ≤ b.channelId) else decide (a.roleId ≤ b.roleId)
  else decide (a.fid ≤ b.fid)

/-- The tables by name. -/
def Tables.toMembers (tables : Tables) : Json.Members :=
  [("channels", ordered (fun a b => decide (a.id ≤ b.id)) ChannelRow.toJson tables.channels),
    ("roles", ordered (fun a b => decide (a.id ≤ b.id)) RoleRow.toJson tables.roles),
    ("delegates", ordered delegateBefore DelegateRow.toJson tables.delegates),
    ("logs", ordered (fun a b => decide (a.id ≤ b.id)) Log.toJson tables.logs),
    ("cooldowns",
      ordered (fun a b => pairBefore (a.fid, a.channelId) (b.fid, b.channelId)) CooldownRow.toJson
        tables.cooldowns),
    ("downvotes",
      ordered (fun a b => pairBefore (a.fid, a.castHash) (b.fid, b.castHash)) DownvoteRow.toJson
        tables.downvotes),
    ("cast_log", ordered (fun a b => decide (a.hash ≤ b.hash)) CastRow.toJson tables.casts)]

end Curation.Store
