import Curation.Json.Writer
import Curation.Store.Change

/-!
How rows come about. A row keeps the time at which it was first written, and the channel's name for
what it is about, however often it is written again.
-/
namespace Curation.Store

variable (tables : Tables) (now : Moment)

/-- A role under its name; a new one gets the next number. -/
def nameRole (channel name : String) (isCohost : Bool) : RoleRow :=
  match tables.role? channel name with
  | some row => { row with isCohost }
  | none => ⟨tables.nextRoleId, channel, name, isCohost⟩

/-- The holder of a role. -/
def grant (role : RoleRow) (fid : Int) (username : String) (avatarUrl : Option String) :
    DelegateRow :=
  ⟨toString fid, role.id, role.channelId, username, avatarUrl⟩

/-- An active suspension; without an expiry it lasts until it is lifted. -/
def suspend (channel : String) (fid : Int) (expiresAt : Option Moment) : CooldownRow :=
  let createdAt := match tables.cooldown? channel (toString fid) with
    | some row => row.createdAt
    | none => now.stored
  ⟨toString fid, channel, true, expiresAt.map .stored, createdAt⟩

/-- A suspension that is over, if there was one. -/
def lift? (channel : String) (fid : Int) : Option CooldownRow :=
  (tables.cooldown? channel (toString fid)).map fun row => { row with active := false }

/-- A vote against a cast. -/
def vote (channel hash : String) (fid : Int) (username : String) (avatarUrl : Option String) :
    DownvoteRow :=
  match tables.downvote? (toString fid) hash with
  | some row => { row with username, avatarUrl }
  | none => ⟨toString fid, hash, channel, username, avatarUrl, now.stored⟩

/-- What became of a cast. -/
def recordCast (hash channel : String) (authorFid status : Int) (data : Json) : CastRow :=
  let (channel, authorFid) := match tables.cast? hash with
    | some row => (row.channelId, row.authorFid)
    | none => (channel, authorFid)
  ⟨hash, channel, authorFid, status, data.spaced, now.stored⟩

/-- What became of a cast, as rows say it. -/
def processed : Int := 0

def failed : Int := 1

def ignored : Int := 2

end Curation.Store
