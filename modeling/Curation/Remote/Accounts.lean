import Curation.Cast.Basic
import Curation.Remote.Directory

/-!
The index of accounts and casts: users by fid, power badges, subscribers, and casts with their
frames resolved.
-/
namespace Curation.Remote.Accounts

/-- Users by fid, each seen by the viewer if one is given. Nobody is asked for no fids. -/
def bulkUsers (directory : Directory) (fids : List Int) (viewer : Option Int := none) :
    Fetch (List User) := do
  if fids.isEmpty then return []
  let viewerPart := match viewer with
    | some fid => [("viewer_fid", toString fid)]
    | none => []
  let payload ← directory.accounts.json
    { method := "GET"
      path := "/v2/farcaster/user/bulk"
      query := some (("fids", Text.join "," (fids.map toString)) :: viewerPart) }
  let users ← (← payload.memberOr "users" (.arr [])).items
  users.mapM fun item => (User.read .value item : Decode.Checked User)

def user? (directory : Directory) (fid : Int) : Fetch (Option User) := do
  return (← bulkUsers directory [fid]).head?

/-- Whether one user follows another. -/
def isFollowing (directory : Directory) (fid target : Int) : Fetch Bool := do
  let users ← bulkUsers directory [target] (some fid)
  return users.any fun user => user.viewerContext.any (·.following)

def powerBadgeFids (directory : Directory) : Fetch (List Int) := do
  let payload ← directory.accounts.json { method := "GET", path := "/v2/farcaster/user/power_lite" }
  let fids ← (← (← payload.memberOr "result" (.obj [])).memberOr "fids" (.arr [])).items
  fids.mapM fun fid => fid.toWhole

/-- The fids of those who subscribe to a user's publication. -/
def subscriberFids (directory : Directory) (fid : Int) (provider : String) : Fetch (List Int) := do
  let payload ← directory.accounts.json
    { method := "GET"
      path := "/v2/farcaster/user/subscribers"
      query := some [("fid", toString fid), ("subscription_provider", provider)] }
  let subscribers ← ((← payload.member "subscribers").orElse (.arr [])).items
  let fids ← subscribers.mapM fun subscriber => do
    if (← subscriber.member "user").truthy then
      let user ← subscriber.entry "user"
      let fid ← user.entry "fid"
      return some (← fid.toWhole)
    else return none
  return fids.filterMap id

/-- A cast as the index sees it. -/
def cast (directory : Directory) (hash : String) : Fetch Cast := do
  let payload ← directory.accounts.json
    { method := "GET", path := "/v2/farcaster/casts", query := some [("casts", hash)] }
  let casts ← (← payload.memberOr "result" (.obj [])).memberOr "casts" (.arr [])
  if !casts.truthy then throw (.remote (.noCast hash))
  let first ← casts.first
  (Cast.read .value first : Decode.Checked Cast)

end Curation.Remote.Accounts
