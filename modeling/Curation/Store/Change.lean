import Curation.Failure
import Curation.Store.Tables

/-!
Changes of the store, and sessions. A session sees its own changes at once; others see them when it
commits, and a rollback takes back everything since the last commit.
-/
namespace Curation.Store

/-- One change. -/
inductive Change where
  | channel (row : ChannelRow)
  | role (row : RoleRow)
  | delegate (row : DelegateRow)
  | cooldown (row : CooldownRow)
  | downvote (row : DownvoteRow)
  | cast (row : CastRow)
  | addLog (log : Log)
  | updateLog (log : Log)
  | deleteLogs (channel fid : String)
  deriving DecidableEq, Repr

/-- The integers that a column can hold: those of 64 bits with a sign. -/
def fits (n : Int) : Bool := -0x8000000000000000 ≤ n && n < 0x8000000000000000

/-- The integers that a change would store. -/
def Change.integers : Change → List Int
  | .channel row => row.slowModeHours :: row.banThreshold.toList
  | .role row => [row.id]
  | .delegate row => [row.roleId]
  | .cast row => [row.authorFid, row.status]
  | _ => []

/-- The tables after a change that is allowed. -/
def Change.apply (change : Change) (tables : Tables) : Tables :=
  match change with
  | .channel row => { tables with channels := upsert ChannelRow.sameKey row tables.channels }
  | .role row => { tables with roles := upsert RoleRow.sameKey row tables.roles }
  | .delegate row => { tables with delegates := upsert DelegateRow.sameKey row tables.delegates }
  | .cooldown row => { tables with cooldowns := upsert CooldownRow.sameKey row tables.cooldowns }
  | .downvote row => { tables with downvotes := upsert DownvoteRow.sameKey row tables.downvotes }
  | .cast row => { tables with casts := upsert CastRow.sameKey row tables.casts }
  | .addLog log => { tables with logs := tables.logs ++ [log] }
  | .updateLog log => { tables with logs := upsert sameLog log tables.logs }
  | .deleteLogs id fid =>
    { tables with logs := tables.logs.filter fun log => !(log.channelId == id && log.fid == fid) }

/-- Why a change is not allowed. -/
def Change.fault? (change : Change) (tables : Tables) : Option StoreFault :=
  if !change.integers.all fits then some .tooLarge
  else match change with
    | .addLog log =>
      if (tables.log? log.id).isSome then some (.duplicate "moderation_log.id") else none
    | _ => none

/-- What is committed, and what the session has made of it. -/
structure Session where
  committed : Tables := {}
  working : Tables := {}
  deriving DecidableEq, Repr, Inhabited

namespace Session

def write (change : Change) (session : Session) : Except StoreFault Unit × Session :=
  match change.fault? session.working with
  | some fault => (.error fault, session)
  | none => (.ok (), { session with working := change.apply session.working })

def commit (session : Session) : Session := { session with committed := session.working }

def rollback (session : Session) : Session := { session with working := session.committed }

end Session

end Curation.Store
