import Curation.Remote.Directory

/-!
The service that owns the channels: who leads and belongs to one, and the calls that invite, hide
and ban.
-/
namespace Curation.Remote.Channels

def channel (directory : Directory) (id : String) : Fetch Json := do
  let payload ← directory.channels.json
    { method := "GET", path := "/v1/channel", query := some [("channelId", id)] }
  let channel ← (← payload.memberOr "result" (.obj [])).member "channel"
  if !channel.truthy then throw (.remote (.noChannel id))
  return channel

/-- The fid of the user who leads a channel. -/
def owner (directory : Directory) (id : String) : Fetch Int := do
  let lead ← (← channel directory id).entry "leadFid"
  lead.toWhole

def moderatorFids (directory : Directory) (id : String) : Fetch (List Int) := do
  let fids ← (← (← channel directory id).memberOr "moderatorFids" (.arr [])).items
  fids.mapM fun fid => fid.toWhole

/-- Whether the part of an answer under a name counts as set. -/
def answersWith (directory : Directory) (path id : String) (fid : Int) (name : String) :
    Fetch Bool := do
  let payload ← directory.channels.json
    { method := "GET", path, query := some [("channelId", id), ("fid", toString fid)] }
  let part ← (← payload.memberOr "result" (.obj [])).member name
  return part.truthy

def isMember (directory : Directory) (id : String) (fid : Int) : Fetch Bool :=
  answersWith directory "/fc/channel-members" id fid "members"

def isFollowing (directory : Directory) (id : String) (fid : Int) : Fetch Bool :=
  answersWith directory "/v1/user-channel" id fid "following"

def write (directory : Directory) (path : String) (body : Json) : Fetch Unit := do
  let _ ← directory.channels.json { method := "POST", path, body := some body }

def invite (directory : Directory) (id : String) (fid : Int) : Fetch Unit :=
  write directory "/fc/channel-invites"
    (.obj [("channelId", .str id), ("inviteFid", .int fid), ("role", .str "member")])

def moderateCast (directory : Directory) (hash action : String) : Fetch Unit :=
  write directory "/fc/moderated-casts" (.obj [("castHash", .str hash), ("action", .str action)])

def hide (directory : Directory) (hash : String) : Fetch Unit := moderateCast directory hash "hide"

def unhide (directory : Directory) (hash : String) : Fetch Unit :=
  moderateCast directory hash "unhide"

def ban (directory : Directory) (id : String) (fid : Int) : Fetch Unit :=
  write directory "/fc/channel-bans" (.obj [("channelId", .str id), ("banFid", .int fid)])

end Curation.Remote.Channels
