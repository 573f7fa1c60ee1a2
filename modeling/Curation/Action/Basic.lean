import Curation.Decode.Scalar

/-!
Actions: what a rule set does to a user or a cast once it is decided. Four kinds carry arguments.
-/
namespace Curation

/-- The moderator on whose behalf a cast is voted down. -/
structure Voter where
  fid : String
  username : String
  avatarUrl : String
  deriving DecidableEq, Repr, Inhabited

inductive Action where
  | bypass
  | addToBypass
  | hideQuietly
  | downvote (voter : Voter)
  | ban
  | unlike
  | like
  | mute
  | warnAndHide
  | cooldown (hours : Binary64)
  | cooldownEnded
  | unhide
  | unmuted
  | grantRole (role : String)
  deriving DecidableEq, Repr, Inhabited

namespace Action

def name : Action → String
  | .bypass => "bypass"
  | .addToBypass => "addToBypass"
  | .hideQuietly => "hideQuietly"
  | .downvote _ => "downvote"
  | .ban => "ban"
  | .unlike => "unlike"
  | .like => "like"
  | .mute => "mute"
  | .warnAndHide => "warnAndHide"
  | .cooldown _ => "cooldown"
  | .cooldownEnded => "cooldownEnded"
  | .unhide => "unhide"
  | .unmuted => "unmuted"
  | .grantRole _ => "grantRole"

/-- The arguments of an action, for the kinds that have some. -/
def args? : Action → Option Json
  | .downvote voter =>
    some (.obj [("voterFid", .str voter.fid), ("voterUsername", .str voter.username),
      ("voterAvatarUrl", .str voter.avatarUrl)])
  | .cooldown hours => some (.obj [("duration", .number (.real hours))])
  | .grantRole role => some (.obj [("role", .str role)])
  | _ => none

/-- The stored form. -/
def toJson (action : Action) : Json :=
  let args := match action.args? with
    | some args => [("args", args)]
    | none => []
  .obj (("type", .str action.name) :: args)

/-- The kinds without arguments. -/
def plain : List Action :=
  [.bypass, .addToBypass, .hideQuietly, .ban, .unlike, .like, .mute, .warnAndHide, .cooldownEnded,
    .unhide, .unmuted]

open Decode

def readVoter (terms : Terms) : Reader Voter :=
  record terms fun members =>
    Voter.mk
      <$> required ["voterFid", "voter_fid"] text members
      <*> required ["voterUsername", "voter_username"] text members
      <*> required ["voterAvatarUrl", "voter_avatar_url"] text members

/-- A length of time in hours that is not negative. -/
def readHours : Reader Binary64 := fun value =>
  (real value).andThen fun hours => if hours.lt .zero then .issue .tooSmall else .ok hours

/-- The fields of each kind. -/
def fields? (terms : Terms) (name : String) : Option (Json.Members → Checked Action) :=
  if name = "downvote" then
    some fun members => Action.downvote <$> required ["args"] (readVoter terms) members
  else if name = "cooldown" then
    some fun members => Action.cooldown <$>
      required ["args"] (record terms (required ["duration"] readHours)) members
  else if name = "grantRole" then
    some fun members => Action.grantRole <$>
      required ["args"] (record terms (required ["role"] someText)) members
  else (plain.find? fun action => action.name = name).map fun action _ => .ok action

def read (terms : Terms) : Reader Action := tagged terms "type" (fields? terms)

end Action

end Curation
