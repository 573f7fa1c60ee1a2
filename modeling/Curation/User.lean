import Curation.Decode.Scalar
import Curation.Text.Search

/-!
Users of the network, with the parts of their profile that checks look at.
-/
namespace Curation

/-- How the user who asks is connected to a user. -/
structure ViewerContext where
  following : Bool
  followedBy : Bool
  deriving DecidableEq, Repr, Inhabited

structure User where
  fid : Int
  username : String := ""
  displayName : Option String := none
  pictureUrl : Option String := none
  custodyAddress : Option String := none
  verifications : List String := []
  followerCount : Int := 0
  followingCount : Int := 0
  powerBadge : Bool := false
  bio : Option String := none
  viewerContext : Option ViewerContext := none
  deriving DecidableEq, Repr, Inhabited

namespace User

/-- The wallets: the custody address and the verified addresses that are hexadecimal. -/
def addresses (user : User) : List String :=
  let custody := match user.custodyAddress with
    | some address => if address.isEmpty then [] else [address]
    | none => []
  custody ++ user.verifications.filter (Text.startsWith · "0x")

def toJson (user : User) : Json :=
  .obj [("fid", .int user.fid), ("username", .str user.username),
    ("display_name", .ofText? user.displayName), ("pfp_url", .ofText? user.pictureUrl),
    ("custody_address", .ofText? user.custodyAddress),
    ("verifications", .arr (user.verifications.map .str)),
    ("follower_count", .int user.followerCount), ("following_count", .int user.followingCount),
    ("power_badge", .bool user.powerBadge),
    ("profile", .obj [("bio", .obj [("text", .ofText? user.bio)])]),
    ("viewer_context", match user.viewerContext with
      | none => .null
      | some context =>
        .obj [("following", .bool context.following), ("followed_by", .bool context.followedBy)])]

open Decode

def readProfile (terms : Terms) : Reader (Option String) :=
  record terms (optional ["bio"] none
    (record terms (optional ["text"] none (nullable text))))

def readViewerContext (terms : Terms) : Reader ViewerContext :=
  record terms fun members =>
    ViewerContext.mk
      <$> optional ["following"] false flag members
      <*> optional ["followed_by"] false flag members

def read (terms : Terms) : Reader User :=
  record terms fun members =>
    User.mk
      <$> required ["fid"] whole members
      <*> optional ["username"] "" text members
      <*> optional ["display_name"] none (nullable text) members
      <*> optional ["pfp_url"] none (nullable text) members
      <*> optional ["custody_address"] none (nullable text) members
      <*> optional ["verifications"] [] (list text) members
      <*> optional ["follower_count"] 0 whole members
      <*> optional ["following_count"] 0 whole members
      <*> optional ["power_badge"] false flag members
      <*> optional ["profile"] none (readProfile terms) members
      <*> optional ["viewer_context"] none (nullable (readViewerContext terms)) members

end User

end Curation
