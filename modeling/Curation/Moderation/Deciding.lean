import Curation.Moderation.Carrying

/-!
Decisions about users and casts. Those whom no rule applies to come first, then suspensions, then
the exclusion rules, then the inclusion rules. A channel without inclusion rules includes nobody.
-/
namespace Curation.Moderation

def noRulesReason : String := "No automated curation rules configured."

/-- Why no rule applies to the user of a case, if none does. -/
def bypassReason? (deployment : Deployment) (case : Case) : Moderation (Option String) := do
  let user := case.user
  if case.channel.isBypassed user.fid then return some s!"@{user.username} is in the bypass list."
  let owner : Int ← Remote.Channels.owner deployment.directory case.channel.id
  if owner = user.fid then return some s!"@{user.username} is the channel owner"
  if case.channel.excludeCohosts then
    if ((← tables).cohosts case.channel.id).contains (toString user.fid) then
      return some s!"@{user.username} is a cohost"
  return none

/-- Why a suspension counts at a time, if it does. -/
def suspensionReason? (username : String) (time : Moment) : Option Store.CooldownRow → Option String
  | none => none
  | some row =>
    if !row.active then none
    else match row.expiresAt with
      | none => some s!"@{username} is currently muted"
      | some expiresAt =>
        let expiresAt := expiresAt.asUtc
        if expiresAt.utcMicros ≤ time.utcMicros then none
        else some s!"@{username} is in cooldown until {expiresAt.isoText}"

/-- Whether the exclusion rules are consulted: users always meet them, casts only while they are
switched on and cover the cast. -/
def isConsulted (set : RuleSet) (cast : Option Cast) : Bool :=
  set.hasConditions &&
    match cast with
    | none => true
    | some cast => set.active && set.target.covers cast.isReply

/-- How rules run: for a user in order, so that later checks are spared, for a cast at once. -/
def strategyFor (case : Case) : OrStrategy :=
  if case.cast.isSome then .concurrent else .shortCircuit

/-- Keeps the author of a cast away for the hours of slow mode. -/
def startSlowMode (case : Case) : Moderation Unit := do
  let expiresAt ← hoursFrom (← now) (.whole case.channel.slowModeHours)
  suspend case.channel.id case.user.fid (some expiresAt)
  commit

/-- What the inclusion rules decide. -/
def include_ (deployment : Deployment) (case : Case) : Moderation (List Log) := do
  let set := case.channel.inclusion
  let included ← evaluate case set.rule (strategyFor case)
  if !included.passed then
    runActions deployment case ⟨included.explanation, none⟩ [.hideQuietly]
  else
    let logs ← runActions deployment case ⟨included.explanation, some included.rule⟩ set.actions
    if case.cast.isSome && !case.simulation && decide (0 < case.channel.slowModeHours) then
      startSlowMode case
    return logs

/-- What the exclusion rules decide, and the inclusion rules after them. -/
def applyRules (deployment : Deployment) (case : Case) : Moderation (List Log) := do
  let set := case.channel.exclusion
  if isConsulted set case.cast then
    let excluded ← evaluate case set.rule (strategyFor case)
    if excluded.passed then
      runActions deployment case ⟨excluded.explanation, some excluded.rule⟩ set.actions
    else include_ deployment case
  else include_ deployment case

/-- Why the author of a cast is kept away, if that is so. -/
def keptAwayReason? (case : Case) : Moderation (Option String) := do
  if case.cast.isNone then return none
  let row := (← tables).cooldown? case.channel.id (toString case.user.fid)
  return suspensionReason? case.user.username (← now) row

/-- Decides a case and carries the decision out. -/
def moderate (deployment : Deployment) (case : Case) : Moderation (List Log) := do
  match ← bypassReason? deployment case with
  | some reason => runActions deployment case ⟨reason, none⟩ [.like]
  | none =>
    match ← keptAwayReason? case with
    | some reason => runActions deployment case ⟨reason, none⟩ [.hideQuietly]
    | none =>
      if case.channel.inclusion.hasConditions then applyRules deployment case
      else runActions deployment case ⟨noRulesReason, none⟩ [.hideQuietly]

/-- Decides about a user who asks to join. -/
def moderateUser (deployment : Deployment) (channel : Channel) (user : User) (simulation : Bool) :
    Moderation (List Log) :=
  moderate deployment ⟨channel, user, none, simulation⟩

/-- Decides about a cast. -/
def moderateCast (deployment : Deployment) (channel : Channel) (cast : Cast) (simulation : Bool) :
    Moderation (List Log) :=
  moderate deployment ⟨channel, cast.author, some cast, simulation⟩

end Curation.Moderation
