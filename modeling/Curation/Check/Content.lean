import Curation.Check.Basic
import Curation.Link.Media
import Curation.Pattern.Parser
import Curation.Pattern.Search
import Curation.Text.Search

/-!
Checks of what a cast says and carries: texts, patterns, length, mentions, links and embeds. Without
a cast there is nothing to check.
-/
namespace Curation.Check.Content

/-- Runs a check of the cast, if there is one. -/
def onCast (ctx : Context) (run : Cast → Check Verdict) : Check Verdict :=
  match ctx.cast with
  | none => return ⟨false, "No cast to check"⟩
  | some cast => run cast

/-- A number in the arguments, with what it is where it is blank. -/
def numberOr (absent : Int) (value : Json) : Except Misuse Int := do
  return (← number? value).getD absent

/-- The expression that a pattern stands for. -/
def compile (pattern : String) (ignoreCase : Bool) : Except ConfigurationFault Pattern.Expr :=
  match Pattern.parse pattern ignoreCase with
  | .ok expr => .ok expr
  | .error fault => .error (.invalidPattern pattern fault)

/-- What is wrong with a value as a pattern. -/
def patternFault? (value : Json) : Option String :=
  match compile value.display false with
  | .ok _ => none
  | .error fault => some fault.message

def containsText : Entry where
  definition :=
    { name := "containsText"
      friendlyName := "Contains Text"
      description := "Check if the text contains a specific string"
      subject := .cast
      category := .cast
      allowMultiple := true
      invertable := true
      args :=
        [{ name := "searchText"
           type := "string"
           friendlyName := "Search Text"
           description := "The text to search for" },
          { name := "caseSensitive"
            type := "boolean"
            friendlyName := "Case Sensitive"
            description := "If checked, 'abc' is different from 'ABC'" }] }
  run ctx := onCast ctx fun cast =>
    let part := ctx.argText "searchText"
    let found := Text.contains cast.text part (ctx.isSet "caseSensitive")
    return verdict found s!"Cast contains \"{part}\"" s!"Cast does not contain \"{part}\""

def matchesPattern : Entry where
  definition :=
    { name := "textMatchesPattern"
      friendlyName := "Matches Pattern (Regex)"
      description := "Check if the text matches a specific pattern"
      subject := .cast
      category := .cast
      allowMultiple := true
      invertable := true
      args :=
        [{ name := "pattern"
           type := "string"
           friendlyName := "Pattern"
           required := true
           description :=
             "The regular expression to match against. No leading or trailing slashes."
           test := some patternFault? },
          { name := "caseInsensitive"
            type := "boolean"
            friendlyName := "Ignore Case"
            description := "If checked, 'abc' is the same as 'ABC'" }] }
  run ctx := onCast ctx fun cast =>
    let pattern := ctx.argText "pattern"
    match compile pattern (ctx.isSet "caseInsensitive") with
    | .error fault => throw (.configuration fault)
    | .ok expr =>
      return verdict (expr.foundIn cast.text) s!"Cast matches pattern {pattern}"
        s!"Cast does not match pattern {pattern}"

def lengthVerdict (length least most : Int) : Verdict :=
  if least ≠ 0 ∧ least < length then ⟨false, s!"Cast is greater than {least} characters"⟩
  else if most ≠ 0 ∧ length < most then ⟨false, s!"Cast is less than {most} characters"⟩
  else ⟨true, "Cast is within length limits"⟩

def castLength : Entry where
  definition :=
    { name := "castLength"
      friendlyName := "Cast Length"
      description := "Check if the cast length is within a range"
      subject := .cast
      category := .cast
      args :=
        [{ name := "min"
           type := "number"
           friendlyName := "Less than"
           description :=
             "Setting a value of 5 would trigger this rule if the length was 0 to 4 characters." },
          { name := "max"
            type := "number"
            friendlyName := "More than"
            description :=
              "Setting a value of 10 would trigger this rule if the length was 11 or more " ++
                "characters." }] }
  run ctx := onCast ctx fun cast => do
    let least ← numberOr 0 (ctx.arg "min")
    let most ← numberOr 0 (ctx.arg "max")
    return lengthVerdict cast.text.length least most

def tooManyMentions : Entry where
  definition :=
    { name := "containsTooManyMentions"
      friendlyName := "Contains Mentions"
      description := "Check if the text contains a certain amount of mentions"
      subject := .cast
      category := .cast
      invertable := true
      args :=
        [{ name := "maxMentions"
           type := "number"
           friendlyName := "Max Mentions"
           required := true
           placeholder := "0"
           description := "The maximum number of mentions allowed" }] }
  run ctx := onCast ctx fun cast => do
    let most ← numberOr 0 (ctx.arg "maxMentions")
    return verdict (most < Text.countMentions cast.text) s!"Too many mentions. Max is {most}"
      "Mentions are within limits"

def tooManyLinks : Entry where
  definition :=
    { name := "containsLinks"
      friendlyName := "Contains Links"
      description := "Check if the text contains any links"
      subject := .cast
      category := .cast
      invertable := true
      args :=
        [{ name := "maxLinks"
           type := "number"
           friendlyName := "Max Links"
           description := "The maximum number of links allowed" }] }
  run ctx := onCast ctx fun cast => do
    let most ← numberOr 0 (ctx.arg "maxLinks")
    return verdict (most < Text.countLinks cast.text) s!"Too many links. Max is {most}"
      "Links are within limits"

/-- The kinds of embedded content, with the arguments that tick them, in the order of messages. -/
def embedKinds : List (String × String) :=
  [("image", "images"), ("video", "videos"), ("frame", "frames"), ("link", "links"),
    ("casts", "casts")]

/-- Whether a link mentions a domain; every link does where none is given. -/
def inDomain (domain url : String) : Bool :=
  domain.isEmpty || Text.occursIn domain.toList url.toList

/-- The links that show images. A malformed one fails them all. -/
def images (domain : String) : List String → Except Failure (List String)
  | [] => .ok []
  | url :: rest =>
    if inDomain domain url then
      match Link.isImage? url with
      | none => .error .link
      | some isImage => do
        let others ← images domain rest
        return if isImage then url :: others else others
    else images domain rest

def videos (domain : String) (urls : List String) : List String :=
  urls.filter fun url => inDomain domain url && Link.isVideo url

/-- The links of a cast. -/
def linksOf (cast : Cast) : List String :=
  cast.embeds.filterMap fun embed => embed.url.filter fun url => !url.isEmpty

/-- What was found: the kinds, and the links and hashes behind them. -/
structure Findings where
  kinds : List String := []
  sources : List String := []

/-- Adds what was found of one kind, if anything. -/
def Findings.add (findings : Findings) (kind : String) (sources : List String) : Findings :=
  if sources.isEmpty then findings
  else ⟨findings.kinds ++ [kind], findings.sources ++ sources⟩

/-- What the cast itself shows. -/
def findingsOf (domain : String) (cast : Cast) : Except Failure Findings := do
  let urls := linksOf cast
  let images ← images domain urls
  let quoted := cast.embeds.filterMap fun embed => embed.quoted.map (·.hash)
  return ((Findings.add {} "casts" quoted).add "image" images).add "video" (videos domain urls)

/-- What the resolved cast adds: frames, and the links that nothing else explains. -/
def Findings.resolved (findings : Findings) (domain : String) (cast : Cast) : Findings :=
  let findings := findings.add "frame" (cast.frames.filter (inDomain domain))
  findings.add "link"
    ((linksOf cast).filter fun url => inDomain domain url && !findings.sources.contains url)

def embedVerdict (wanted : List String) (domain : String) (findings : Findings) : Verdict :=
  let violating := wanted.filter findings.kinds.contains
  let origin := if domain.isEmpty then "" else s!" from {domain}"
  if violating.isEmpty then ⟨false, "Cast doesn't contain " ++ Text.join ", " wanted ++ origin⟩
  else ⟨true, "Cast contains " ++ Text.join ", " violating ++ origin⟩

def kindArg (name friendlyName description : String) : Argument :=
  { name, type := "boolean", friendlyName, standard := .bool true, description }

/-- Images and videos show in their links. Frames look like plain links, so telling them apart takes
the resolved cast. -/
def containsEmbeds : Entry where
  definition :=
    { name := "containsEmbeds"
      friendlyName := "Contains Embedded Content"
      description := "Check if the cast contains images, gifs, videos, frames or links"
      subject := .cast
      category := .cast
      allowMultiple := true
      invertable := true
      args :=
        [kindArg "images" "Images" "Check for images or gifs",
          kindArg "videos" "Videos" "Check for videos",
          kindArg "frames" "Frames" "Check for frames",
          kindArg "links" "Links" "Check for links",
          kindArg "casts" "Casts" "Check for quote casts",
          { name := "domain"
            type := "string"
            friendlyName := "Domain"
            placeholder := "e.g. glass.com"
            description := "Check for embeds from a specific domain. Example: if you check " ++
             "'Frames' and add glass.com, this check will trigger for frames from glass.com." }] }
  run ctx := onCast ctx fun cast => do
    let domain := ((ctx.arg "domain").orElse (.str "")).display
    let wanted := (embedKinds.filter fun kind => ctx.isSet kind.2).map (·.1)
    let findings ← Program.ofExcept (findingsOf domain cast)
    if ctx.isSet "links" || ctx.isSet "frames" then
      let resolved ← Remote.Accounts.cast ctx.directory cast.hash
      return embedVerdict wanted domain (findings.resolved domain resolved)
    else return embedVerdict wanted domain findings

def entries : List Entry :=
  [containsText, matchesPattern, castLength, tooManyMentions, tooManyLinks, containsEmbeds]

end Curation.Check.Content
