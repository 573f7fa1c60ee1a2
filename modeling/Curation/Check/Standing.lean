import Curation.Check.Basic
import Curation.Remote.Standing

/-!
Checks of a user's standing with services that score accounts: proof of being human, ranks, and
subscriptions.
-/
namespace Curation.Check.Standing

def rankTtl : Number := .whole (60 * 60 * 6)

def rankArg : List Argument :=
  [{ name := "minRank"
     type := "number"
     friendlyName := "Minimum Rank"
     required := true
     placeholder := "e.g. 100"
     description :=
       "Example: if you enter 100, the rule will check that the user's rank is 1 to 100." }]

/-- Fails for now while the account is still being analysed. -/
def isHuman : Entry where
  definition :=
    { name := "isHuman"
      friendlyName := "Proof of Human, by Bot or Not"
      description := "Check if the cast author is a human using Bot Or Not"
      forUsers := some [5179]
      author := "botornot"
      authorUrl := "https://warpcast.com/botornot" }
  run ctx := do
    let time ← timeLeft none
    let payload ← Remote.Standing.classify ctx.directory ctx.user.fid (some time)
    let result := (← payload.member "result").orElse (.obj [])
    let isBot ← result.member "bot"
    if isBot.isNull then
      let fid ← payload.memberOr "fid" (.int ctx.user.fid)
      let status ← result.member "status"
      throw (.pending fid.display status.display)
    return verdict (!isBot.truthy) "Human detected by Bot Or Not" "Bot detected by Bot Or Not"

/-- Digits in groups of three, with commas between the groups. -/
def groups : List Char → List Char
  | [] => []
  | c :: rest =>
    if rest.length % 3 = 0 ∧ !rest.isEmpty then c :: ',' :: groups rest else c :: groups rest

/-- A rank with separated thousands. -/
def rankText (rank : Int) : String :=
  let digits := String.ofList (groups (toString rank.natAbs).toList)
  if rank < 0 then "-" ++ digits else digits

def farRank : Entry where
  definition :=
    { name := "airstackSocialCapitalRank"
      friendlyName := "FarRank by Airstack"
      description := "Check if the user's Airstack FarRank is high enough."
      author := "Airstack"
      authorUrl := "https://airstack.xyz"
      args := rankArg }
  run ctx := do
    let least ← (do (← ctx.needed "minRank").toWhole : Except Misuse Int)
    let cachedRank ← cachedOr s!"airstack:far-rank:{ctx.user.fid}" rankTtl do
      let rank ← Remote.Standing.farRank ctx.directory ctx.user.fid
      return (rank.map Json.int).getD .null
    if cachedRank.isNull then return ⟨false, "User's social FarRank is not available"⟩
    let rank ← (cachedRank.toWhole : Except Misuse Int)
    return verdict (rank ≤ least)
      s!"User FarRank is #{rankText rank}, higher than #{rankText least}"
      s!"User's FarRank is #{rankText rank}, lower than #{rankText least}"

/-- The rank in an entry of a ranking, or none where there is no entry. -/
def rankOf? (entry : Json) : Except Misuse (Option Int) := do
  if entry.truthy then return some (← (← entry.entry "rank").toWhole) else return none

def globalEngagement : Entry where
  definition :=
    { name := "openRankGlobalEngagement"
      friendlyName := "OpenRank Global Ranking"
      description :=
        "Require users to be in the top N of OpenRank's global engagement ranking"
      author := "OpenRank"
      authorUrl := "https://openrank.com"
      args := rankArg }
  run ctx := do
    let least ← (do (← ctx.needed "minRank").toWhole : Except Misuse Int)
    let username := ctx.user.username
    let entry ← cachedOr s!"openrank:global-rank:{ctx.user.fid}" rankTtl do
      return (← Remote.Standing.globalRank ctx.directory ctx.user.fid).getD .null
    match ← rankOf? entry with
    | none => return ⟨false, s!"@{username} not found in global rankings"⟩
    | some rank =>
      return verdict (rank ≤ least) s!"@{username} is ranked #{rank}"
        s!"@{username} is not a top {least} account. Their current rank is #{rank}."

def channelEngagement : Entry where
  definition :=
    { name := "openRankChannel"
      friendlyName := "OpenRank Channel Ranking"
      description :=
        "Require users to be in the top N of OpenRank's ranking for this channel"
      forChannels := some ["memes", "design", "sonata"]
      author := "OpenRank"
      authorUrl := "https://openrank.com"
      args := rankArg }
  run ctx := do
    let least ← (do (← ctx.needed "minRank").toWhole : Except Misuse Int)
    let username := ctx.user.username
    let channel := ctx.channel.id
    let entry ← cachedOr s!"openrank:channel-rank:{channel}:{ctx.user.fid}" rankTtl do
      return (← Remote.Standing.channelRank ctx.directory channel ctx.user.fid).getD .null
    match ← rankOf? entry with
    | none => return ⟨false, s!"@{username} is not in /{channel} rankings"⟩
    | some rank =>
      return verdict (rank ≤ least) s!"@{username} is ranked #{rank} in /{channel}"
        s!"@{username} is not a top {least} account in {channel}. Their current rank is #{rank}."

def subscribes : Entry where
  definition :=
    { name := "subscribesOnParagraph"
      friendlyName := "Subscribes on Paragraph"
      description := "Check if the cast author has an active subscription on paragraph.xyz"
      allowMultiple := true
      author := "Paragraph"
      authorUrl := "https://paragraph.xyz"
      args :=
        [{ name := "farcasterUser"
           type := "farcasterUserPicker"
           friendlyName := "Farcaster Username"
           required := true
           description := "The farcaster user who owns the paragraph publication." }] }
  run ctx := do
    let publisher ← ctx.needed "farcasterUser"
    let label := (← publisher.memberOr "label" (.str "")).display
    let fid ← (do (← publisher.entry "value").toWhole : Except Misuse Int)
    let subscribers ← Remote.Accounts.subscriberFids ctx.directory fid "paragraph"
    return verdict (subscribers.contains ctx.user.fid)
      s!"User is subscribed to @{label} on Paragraph "
      s!"User is not subscribed to @{label} on Paragraph"

def entries : List Entry := [isHuman, farRank, globalEngagement, channelEngagement, subscribes]

end Curation.Check.Standing
