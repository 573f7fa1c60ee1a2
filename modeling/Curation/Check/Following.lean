import Curation.Check.Basic
import Curation.Remote.Channels

/-!
Checks of how a user is connected: to other users and to channels.
-/
namespace Curation.Check.Following

/-- The picked users as a list of alternatives. -/
def describeUsers (options : List Json) : Except Misuse String := do
  if 1 < options.length then
    let labels ← options.mapM fun option => return "@" ++ (← option.entry "label").display
    return "any of " ++ Text.join ", " labels
  else
    let first ← (Json.arr options).first
    return "@" ++ (← first.entry "label").display

/-- The picked users with their fids. -/
def picked (ctx : Context) : Except Misuse (List Json × List Int) := do
  let options ← ((ctx.arg "users").orElse (.arr [])).items
  let fids ← options.mapM fun option => do (← option.entry "value").toWhole
  return (options, fids)

def usersArg (friendlyName description : String) : List Argument :=
  [{ name := "users"
     type := "farcasterUserPickerMulti"
     friendlyName
     required := true
     placeholder := "Enter a username..."
     description }]

/-- Whether a picked user is connected to the user, in the words of the connection. -/
def connection (ctx : Context) (connected : ViewerContext → Bool) (self does doesNot : String) :
    Check Verdict := do
  let (options, fids) ← picked ctx
  if fids.contains ctx.user.fid then return ⟨true, self⟩
  let targets ← Remote.Accounts.bulkUsers ctx.directory fids (some ctx.user.fid)
  match targets.find? fun user => user.viewerContext.any connected with
  | some user => return ⟨true, s!"@{ctx.user.username} {does} @{user.username}"⟩
  | none =>
    if options.isEmpty then return ⟨false, s!"@{ctx.user.username} {doesNot} anyone listed"⟩
    else return ⟨false, s!"@{ctx.user.username} {doesNot} {← describeUsers options}"⟩

def follows : Entry where
  definition :=
    { name := "userDoesNotFollow"
      friendlyName := "Following"
      description := "Check if the user follows certain accounts"
      allowMultiple := true
      args := usersArg "Farcaster Usernames"
        ("Example: If you enter jtgi and riotgoools, it will check that the user follows either " ++
        "jtgi or riotgools.") }
  run ctx := connection ctx (·.following) "User implicitly follow themselves" "follows"
    "does not follow"

def followedBy : Entry where
  definition :=
    { name := "userIsNotFollowedBy"
      friendlyName := "Followed By"
      description := "Check if the user is followed by certain accounts"
      allowMultiple := true
      invertable := true
      args := usersArg "Usernames"
        ("Example: If you enter jtgi and riotgoools, it will check that either jtgi or " ++
          "riotgools follow the user requesting an invite.") }
  run ctx := connection ctx (·.followedBy) "User implicitly followed by themselves"
    "is followed by" "is not followed by"

def channelArg : List Argument :=
  [{ name := "channelSlug"
     type := "string"
     friendlyName := "Channel ID"
     placeholder := "replyguys"
     required := true
     pattern := "/^[a-zA-Z0-9-]+$/"
     description := "The id of the channel to check" }]

def followsChannel : Entry where
  definition :=
    { name := "userFollowsChannel"
      friendlyName := "Follows Channel"
      description := "Check if the user follows a channel"
      allowMultiple := true
      args := channelArg }
  run ctx := do
    let slug := ctx.argText "channelSlug"
    let follows ← Remote.Channels.isFollowing ctx.directory slug ctx.user.fid
    return verdict follows s!"User follows /{slug}" s!"User does not follow /{slug}"

def isMember : Entry where
  definition :=
    { name := "userIsChannelMember"
      friendlyName := "Channel Member"
      description := "Check if the user is a member of a channel"
      allowMultiple := true
      args := channelArg }
  run ctx := do
    let slug := ctx.argText "channelSlug"
    let member ← Remote.Channels.isMember ctx.directory slug ctx.user.fid
    return verdict member s!"User is member of /{slug}" s!"User is not member of /{slug}"

def entries : List Entry := [follows, followedBy, followsChannel, isMember]

end Curation.Check.Following
