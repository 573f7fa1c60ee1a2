import Curation.Check.Basic

/-!
Checks of a user's own profile: texts, counts, the fid and the power badge.
-/
namespace Curation.Check.Profile

/-- A bound on a number, where blank and zero ones are none. -/
def bound? (value : Json) : Except Misuse (Option Int) := do
  return (← number? value).filter (· != 0)

def searchArgs : List Argument :=
  [{ name := "searchText"
     type := "string"
     friendlyName := "Search Text"
     description := "The text to search for"
     required := true },
    { name := "caseSensitive"
      type := "boolean"
      friendlyName := "Case Sensitive"
      description := "If checked, 'abc' is different from 'ABC'" }]

def bioContains : Entry where
  definition :=
    { name := "userProfileContainsText"
      friendlyName := "Profile Contains Text"
      description := "Check if the user's profile contains a specific string"
      allowMultiple := true
      invertable := true
      args := searchArgs }
  run ctx :=
    let part := ctx.argText "searchText"
    let found := Text.contains (ctx.user.bio.getD "") part (ctx.isSet "caseSensitive")
    return verdict found s!"Profile contains \"{part}\"" s!"Profile does not contain \"{part}\""

def displayNameContains : Entry where
  definition :=
    { name := "userDisplayNameContainsText"
      friendlyName := "User Display Name Contains Text"
      description := "Check if the user's display name contains a specific string"
      allowMultiple := true
      invertable := true
      args := searchArgs }
  run ctx :=
    let displayName := ctx.user.displayName.getD ""
    if displayName.isEmpty then return ⟨false, "User has no display name"⟩
    else
      let part := ctx.argText "searchText"
      let found := Text.contains displayName part (ctx.isSet "caseSensitive")
      return verdict found s!"Display name contains \"{part}\""
        s!"Display name does not contain \"{part}\""

/-- Whether a number is below one bound or above another, where bounds may be absent. -/
def below (n : Int) (least : Option Int) : Bool := least.any fun bound => n < bound

def above (n : Int) (most : Option Int) : Bool := most.any fun bound => bound < n

/-- The digits of a bound. -/
def show? (bound : Option Int) : String := (bound.map toString).getD ""

def followerVerdict (followers : Int) (least most : Option Int) : Verdict :=
  if below followers least then ⟨true, s!"User has less than {show? least} followers"⟩
  else if above followers most then ⟨true, s!"User has more than {show? most} followers"⟩
  else ⟨false, "User follower count is within limits"⟩

def followerCount : Entry where
  definition :=
    { name := "userFollowerCount"
      friendlyName := "User Follower Count"
      description := "Check if the user's follower count is within a range"
      args :=
        [{ name := "min"
           type := "number"
           friendlyName := "Less than"
           placeholder := "No Minimum"
           description :=
             "If you enter 10, the rule will trigger if the user has less than 10 followers." },
          { name := "max"
            type := "number"
            friendlyName := "More than"
            placeholder := "No Maximum"
            description :=
              "If you enter 50, the rule will trigger if the user has more than 50 followers." }] }
  run ctx := do
    let least ← bound? (ctx.arg "min")
    let most ← bound? (ctx.arg "max")
    return followerVerdict ctx.user.followerCount least most

/-- Whether one of some picked users is the user; the rest is not looked at. -/
def lists (fid : Int) : List Json → Except Misuse Bool
  | [] => .ok false
  | option :: rest => do
    let value ← option.entry "value"
    if (← value.toWhole) == fid then return true else lists fid rest

def inList : Entry where
  definition :=
    { name := "userFidInList"
      friendlyName := "User in List"
      description := "Check if the cast author is on a list"
      invertable := true
      args :=
        [{ name := "fids"
           type := "farcasterUserPickerMulti"
           friendlyName := "Farcaster Usernames"
           required := true
           placeholder := "Enter a username..." }] }
  run ctx := do
    let options ← ((ctx.arg "fids").orElse (.arr [])).items
    let listed ← lists ctx.user.fid options
    return verdict listed s!"@{ctx.user.username} is in the list"
      s!"@{ctx.user.username} is not in the list"

def fidVerdict (fid : Int) (least most : Option Int) : Verdict :=
  if below fid least then ⟨true, s!"FID #{fid} is less than {show? least}"⟩
  else if above fid most then ⟨true, s!"FID #{fid} is greater than {show? most}"⟩
  else
    ⟨false,
      match least, most with
      | some least, some most => s!"FID #{fid} is not between {least} and {most}"
      | some least, none => s!"FID #{fid} is greater than {least}"
      | none, some most => s!"FID #{fid} is less than {most}"
      | none, none => ""⟩

def fidInRange : Entry where
  definition :=
    { name := "userFidInRange"
      friendlyName := "User FID"
      description := "Check if the user's FID is less than or greater than a certain value"
      args :=
        [{ name := "minFid"
           type := "number"
           friendlyName := "Less than"
           placeholder := "No Minimum"
           description := "Setting a value of 5 would trigger this rule if the fid is 1 thru 4" },
          { name := "maxFid"
            type := "number"
            friendlyName := "More than"
            description :=
              "Setting a value of 10 would trigger this rule if the fid is 11 or above." }] }
  run ctx := do
    let least ← bound? (ctx.arg "minFid")
    let most ← bound? (ctx.arg "maxFid")
    return fidVerdict ctx.user.fid least most

def badgeTtl : Number := .whole (60 * 60 * 4)

def holdsPowerBadge : Entry where
  definition :=
    { name := "userDoesNotHoldPowerBadge"
      friendlyName := "Power Badge"
      description :=
        "Verify if the user has a power badge, issued to users likely not to be spammers"
      invertedDescription := "Check for users who *do* hold the power badge"
      invertable := true
      author := "neynar"
      authorUrl := "https://neynar.com/" }
  run ctx := do
    let fids ← cachedOr "powerbadge" badgeTtl do
      let fids ← Remote.Accounts.powerBadgeFids ctx.directory
      return .arr (fids.map .int)
    return verdict (← fids.holds (.int ctx.user.fid)) "User holds a power badge"
      "User does not hold a power badge"

def entries : List Entry :=
  [bioContains, displayNameContains, followerCount, inList, fidInRange, holdsPowerBadge]

end Curation.Check.Profile
