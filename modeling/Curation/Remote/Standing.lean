import Curation.Remote.Directory

/-!
Services that tell about users: whether an account is a bot, where it ranks, and the profiles with
its credentials, linked accounts, attended events and guilds. A lookup that fails counts as no
profile.
-/
namespace Curation.Remote.Standing

/-- What the classifier of bots says about a user. -/
def classify (directory : Directory) (fid : Int) (timeout : Option Number) : Fetch Json :=
  directory.botOrNot.json
    { method := "GET"
      path := "/api/botornot/mod/v1"
      query := some [("fid", toString fid), ("forceAnalyzeIfEmpty", "true")]
      timeout }

/-- Runs a query on the social graph. -/
def query (directory : Directory) (text : String) (bindings : Json) : Fetch Json := do
  let payload ← directory.farRank.json
    { method := "POST"
      path := ""
      body := some (.obj [("query", .str text), ("variables", bindings.orElse (.obj []))]) }
  let errors ← payload.member "errors"
  if errors.truthy then throw (.remote (.queryFailed (← payload.entry "errors")))
  return (← payload.member "data").orElse (.obj [])

/-- The query for the rank of one identity. -/
def rankQuery : String :=
  "
            query FarRank($identity: Identity!) \x7b
              Socials(input: \x7bfilter: \x7bdappName: \x7b_eq: farcaster\x7d, identity: \x7b_eq: $identity\x7d\x7d,
                              blockchain: ethereum\x7d) \x7b
                Social \x7b farcasterScore \x7b farRank \x7d \x7d
              \x7d
            \x7d
            "

/-- A user's rank by social capital, if there is one. -/
def farRank (directory : Directory) (fid : Int) : Fetch (Option Int) := do
  let data ← query directory rankQuery (.obj [("identity", .str s!"fc_fid:{fid}")])
  let socials := (← ((← data.member "Socials").orElse (.obj [])).member "Social").orElse (.arr [])
  if !socials.truthy then return none
  let score := (← (← socials.first).member "farcasterScore").orElse (.obj [])
  let rank ← score.member "farRank"
  if rank.truthy then return some (← rank.toWhole) else return none

/-- The first of some entries that is about a user. -/
def entryFor (fid : Int) : List Json → Fetch (Option Json)
  | [] => return none
  | entry :: rest => do
    if Json.same (← entry.member "fid") (.int fid) then return some entry else entryFor fid rest

/-- The entry of a user in a ranking. -/
def ranking (directory : Directory) (path : String) (fid : Int) : Fetch (Option Json) := do
  let payload ← directory.openRank.json
    { method := "POST", path, body := some (.arr [.int fid]) }
  entryFor fid (← (← payload.memberOr "result" (.arr [])).items)

def globalRank (directory : Directory) (fid : Int) : Fetch (Option Json) :=
  ranking directory "/priority/scores/global/engagement/fids" fid

def channelRank (directory : Directory) (channel : String) (fid : Int) : Fetch (Option Json) :=
  ranking directory s!"/priority/channels/rankings/{channel}/fids" fid

end Curation.Remote.Standing

namespace Curation.Remote.Profiles

/-- The first profile of a user. -/
def profile? (directory : Directory) (fid : Int) : Fetch (Option Json) := do
  let found : Option Json ←
    try some <$> directory.profiles.json { method := "GET", path := s!"/fid/{fid}" }
    catch
      | .remote _ => pure none
      | failure => throw failure
  match found with
  | none => return none
  | some payload =>
    let profiles := (← payload.member "profiles").orElse (.arr [])
    if profiles.truthy then return some (← profiles.first) else return none

end Curation.Remote.Profiles
