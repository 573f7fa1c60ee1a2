import Curation.Check.Basic
import Curation.Remote.Standing

/-!
Checks of a user's profile of credentials: credentials by name, linked accounts, attended events and
guild roles.
-/
namespace Curation.Check.Credentials

def author : String := "Icebreaker"

def authorUrl : Option String := "https://icebreaker.xyz"

/-- Runs a test over items up to the first that passes. -/
def anyPasses (test : Json → Except Misuse Bool) : List Json → Except Misuse Bool
  | [] => .ok false
  | item :: rest => do if ← test item then return true else anyPasses test rest

/-- Whether some credential has a name, or a name that starts like it. -/
def hasCredential (credentials : Json) (name : String) (exact_ : Bool) : Except Misuse Bool := do
  if !credentials.truthy || name.isEmpty then return false
  let test (credential : Json) : Except Misuse Bool := do
    if exact_ then return Json.same (← credential.member "name") (.str name)
    else return Text.startsWith (← credential.memberOr "name" (.str "")).display name
  anyPasses test (← credentials.items)

/-- Runs a test on the user's profile, if there is one. -/
def onProfile (ctx : Context) (test : Json → Except Misuse Verdict) : Check Verdict := do
  match ← Remote.Profiles.profile? ctx.directory ctx.user.fid with
  | none => return ⟨false, s!"@{ctx.user.username} not found in Icebreaker"⟩
  | some profile => test profile

def credentialVerdict (ctx : Context) (credential : String) (exact_ : Bool) : Check Verdict :=
  onProfile ctx fun profile => do
    let has ← hasCredential (← profile.member "credentials") credential exact_
    return verdict has s!"@{ctx.user.username} has the {credential} credential"
      s!"@{ctx.user.username} does not have the {credential} credential"

def human : Entry where
  definition :=
    { name := "hasIcebreakerHuman"
      friendlyName := "Icebreaker: Has Human"
      description := "Check if the user has the Icebreaker Human credential"
      invertable := true
      author, authorUrl }
  run ctx := credentialVerdict ctx "Human" true

def qBuilder : Entry where
  definition :=
    { name := "hasIcebreakerQBuilder"
      friendlyName := "Icebreaker: Has QBuilder"
      description := "Check if the user has the Icebreaker QBuilder credential"
      invertable := true
      author, authorUrl }
  run ctx := credentialVerdict ctx "qBuilder" true

def verified : Entry where
  definition :=
    { name := "hasIcebreakerVerified"
      friendlyName := "Icebreaker: Has Verified Work Domain"
      description := "Check if the user has the Icebreaker Verified credential for a work domain"
      invertable := true
      author, authorUrl }
  run ctx := credentialVerdict ctx "Verified:" false

def credential : Entry where
  definition :=
    { name := "hasIcebreakerCredential"
      friendlyName := "Icebreaker: Has Credential"
      description := "Check if the user has a specific Icebreaker credential"
      allowMultiple := true
      invertable := true
      author, authorUrl
      args :=
        [{ name := "credential"
           type := "string"
           friendlyName := "Credential"
           required := true
           placeholder := "Enter a credential..."
           description := "The name of the credential" },
          { name := "exactMatch"
            type := "boolean"
            friendlyName := "Exact credential match"
            standard := .bool false
            description := "Exactly matches the full name of the credential" }] }
  run ctx := credentialVerdict ctx (ctx.argText "credential") (ctx.isSet "exactMatch")

def linkedAccount : Entry where
  definition :=
    { name := "hasIcebreakerLinkedAccount"
      friendlyName := "Icebreaker: Has Linked Account"
      description := "Check if the user has a specific type of linked account"
      allowMultiple := true
      invertable := true
      author, authorUrl
      args :=
        [{ name := "account"
           type := "string"
           friendlyName := "Account"
           required := true
           placeholder := "Choose one of linkedin, twitter, github, etc."
           description :=
             "The type of account required. Consult Icebreaker Alloy for all types supported" },
          { name := "verified"
            type := "boolean"
            friendlyName := "Require verified account"
            standard := .bool false
            description := "If enabled, only passes if the account has been verified" }] }
  run ctx :=
    let account := ctx.argText "account"
    let verified := ctx.isSet "verified"
    onProfile ctx fun profile => do
      let channels ← ((← profile.member "channels").orElse (.arr [])).items
      let test (channel : Json) : Except Misuse Bool := do
        if Json.same (← channel.member "type") (.str account) then
          if verified then return (← channel.member "isVerified").truthy else return true
        else return false
      let qualifier := if verified then "and verified " else ""
      return verdict (← anyPasses test channels)
        s!"@{ctx.user.username} has linked {qualifier}{account}"
        s!"@{ctx.user.username} does not have linked {qualifier}{account}"

def poap : Entry where
  definition :=
    { name := "hasPOAP"
      friendlyName := "Icebreaker: Has POAP"
      description := "Check via Icebreaker if the user has a specific POAP"
      allowMultiple := true
      invertable := true
      author, authorUrl
      args :=
        [{ name := "eventId"
           type := "string"
           friendlyName := "POAP Event ID"
           required := true
           placeholder := "Enter a POAP event ID..."
           description := "The POAP event ID to check for" }] }
  run ctx :=
    let eventId := ctx.argText "eventId"
    onProfile ctx fun profile => do
      let events ← ((← profile.member "events").orElse (.arr [])).items
      let test (event : Json) : Except Misuse Bool := do
        if Json.same (← event.member "source") (.str "poap") then
          return (← event.member "id").display == eventId
        else return false
      return verdict (← anyPasses test events) s!"@{ctx.user.username} has the POAP {eventId}"
        s!"@{ctx.user.username} does not have the POAP {eventId}"

/-- The first guild with an id. -/
def guild? (id : Int) : List Json → Except Misuse (Option Json)
  | [] => .ok none
  | guild :: rest => do
    if Json.same (← guild.member "guildId") (.int id) then return some guild else guild? id rest

/-- Whether a profile belongs to a guild, with a role if one is asked for. -/
def isMember (profile : Json) (guildId : Int) (roleId : Option Int) : Except Misuse Bool := do
  let guilds ← ((← profile.member "guilds").orElse (.arr [])).items
  match ← guild? guildId guilds, roleId with
  | none, _ => return false
  | some _, none => return true
  | some guild, some role => ((← guild.member "roleIds").orElse (.arr [])).holds (.int role)

def guildRole : Entry where
  definition :=
    { name := "hasGuildRole"
      friendlyName := "Icebreaker: Has Guild Role"
      description := "Check via Icebreaker if the user is a member of a Guild"
      allowMultiple := true
      invertable := true
      author, authorUrl
      args :=
        [{ name := "guildId"
           type := "number"
           friendlyName := "Guild ID"
           required := true
           placeholder := "Enter a Guild ID..."
           description := "The Guild ID to check for" },
          { name := "roleId"
            type := "number"
            friendlyName := "Role ID"
            placeholder := "Enter a Role ID..."
            description := "Optional role ID to check for" }] }
  run ctx := do
    let guildId ← (do (← ctx.needed "guildId").toWhole : Except Misuse Int)
    let roleId ← (number? (ctx.arg "roleId") : Except Misuse (Option Int))
    onProfile ctx fun profile => do
      let role := match roleId with
        | some id => s!" with role {id}"
        | none => ""
      return verdict (← isMember profile guildId roleId)
        s!"@{ctx.user.username} has the Guild {guildId}{role}"
        s!"@{ctx.user.username} does not have the Guild {guildId}{role}"

def entries : List Entry :=
  [human, qBuilder, verified, credential, linkedAccount, poap, guildRole]

end Curation.Check.Credentials
