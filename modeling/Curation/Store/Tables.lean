import Curation.Moderation.Log

/-!
The tables of the store. Every table has a key, and a row written under a key takes the place of the
one that was there. Logs keep the order in which they were added.
-/
namespace Curation.Store

/-- A channel's configuration as it is kept: the rule sets and the bypass list are JSON text. -/
structure ChannelRow where
  id : String
  userId : String
  active : Bool := true
  inclusion : Option String := none
  exclusion : Option String := none
  bypassed : String := "[]"
  excludeCohosts : Bool := true
  slowModeHours : Int := 0
  banThreshold : Option Int := none
  createdAt : Moment
  updatedAt : Moment
  deriving DecidableEq, Repr, Inhabited

structure RoleRow where
  id : Int
  channelId : String
  name : String
  isCohost : Bool
  deriving DecidableEq, Repr, Inhabited

/-- A user who holds a role. -/
structure DelegateRow where
  fid : String
  roleId : Int
  channelId : String
  username : String
  avatarUrl : Option String
  deriving DecidableEq, Repr, Inhabited

/-- A suspension of a user in a channel; without an expiry it lasts until it is lifted. -/
structure CooldownRow where
  fid : String
  channelId : String
  active : Bool
  expiresAt : Option Moment
  createdAt : Moment
  deriving DecidableEq, Repr, Inhabited

structure DownvoteRow where
  fid : String
  castHash : String
  channelId : String
  username : String
  avatarUrl : Option String
  createdAt : Moment
  deriving DecidableEq, Repr, Inhabited

/-- What became of a cast that an event brought. -/
structure CastRow where
  hash : String
  channelId : String
  authorFid : Int
  status : Int
  data : String
  createdAt : Moment
  deriving DecidableEq, Repr, Inhabited

structure Tables where
  channels : List ChannelRow := []
  roles : List RoleRow := []
  delegates : List DelegateRow := []
  logs : List Log := []
  cooldowns : List CooldownRow := []
  downvotes : List DownvoteRow := []
  casts : List CastRow := []
  deriving DecidableEq, Repr, Inhabited

/-- Writes a row in the place of the one with its key, or behind the others. -/
def upsert {α : Type} (sameKey : α → α → Bool) (row : α) : List α → List α
  | [] => [row]
  | old :: rest => if sameKey row old then row :: rest else old :: upsert sameKey row rest

def ChannelRow.sameKey (a b : ChannelRow) : Bool := a.id == b.id

def RoleRow.sameKey (a b : RoleRow) : Bool := a.id == b.id

def DelegateRow.sameKey (a b : DelegateRow) : Bool :=
  a.fid == b.fid && a.roleId == b.roleId && a.channelId == b.channelId

def CooldownRow.sameKey (a b : CooldownRow) : Bool := a.fid == b.fid && a.channelId == b.channelId

def DownvoteRow.sameKey (a b : DownvoteRow) : Bool := a.fid == b.fid && a.castHash == b.castHash

def CastRow.sameKey (a b : CastRow) : Bool := a.hash == b.hash

def sameLog (a b : Log) : Bool := a.id == b.id

namespace Tables

def channel? (tables : Tables) (id : String) : Option ChannelRow :=
  tables.channels.find? fun row => row.id == id

def role? (tables : Tables) (channel name : String) : Option RoleRow :=
  tables.roles.find? fun row => row.channelId == channel && row.name == name

def cooldown? (tables : Tables) (channel fid : String) : Option CooldownRow :=
  tables.cooldowns.find? fun row => row.fid == fid && row.channelId == channel

def log? (tables : Tables) (id : String) : Option Log := tables.logs.find? fun log => log.id == id

def downvote? (tables : Tables) (fid hash : String) : Option DownvoteRow :=
  tables.downvotes.find? fun row => row.fid == fid && row.castHash == hash

def cast? (tables : Tables) (hash : String) : Option CastRow :=
  tables.casts.find? fun row => row.hash == hash

/-- The number for the next role. -/
def nextRoleId (tables : Tables) : Int :=
  tables.roles.foldl (fun id row => max id row.id) 0 + 1

/-- The fids of those who hold a role of cohosts in a channel. -/
def cohosts (tables : Tables) (channel : String) : List String :=
  let isCohost (row : DelegateRow) : Bool :=
    tables.roles.any fun role => role.id == row.roleId && role.isCohost
  (tables.delegates.filter fun row => row.channelId == channel && isCohost row).map (·.fid)

/-- A channel's logs, the newest first; among equally old ones the first added comes first. A
negative limit is none. -/
def logsOf (tables : Tables) (channel : String) (action : Option String) (limit offset : Int) :
    List Log :=
  let logs := tables.logs.filter fun log =>
    log.channelId == channel && action.all fun action => log.action == action
  let newestFirst := logs.mergeSort fun a b => decide (b.createdAt.micros ≤ a.createdAt.micros)
  let rest := newestFirst.drop offset.toNat
  if limit < 0 then rest else rest.take limit.toNat

end Tables

end Curation.Store
