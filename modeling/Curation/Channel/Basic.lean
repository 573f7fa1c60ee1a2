import Curation.Action.Basic
import Curation.Rule.Reader
import Curation.Text.Case

/-!
The moderation configuration of a channel: two rule sets, the users whom no rule applies to, and
limits. A configuration that was read never excludes by rules without including by some.
-/
namespace Curation

/-- Which casts a rule set is for. -/
inductive RuleTarget where
  | all
  | root
  | reply
  deriving DecidableEq, Repr, Inhabited

/-- A user picked by fid, with the name and picture shown for it. -/
structure UserOption where
  value : Int
  label : String
  icon : Option String
  deriving DecidableEq, Repr, Inhabited

/-- A rule and what to do when it passes. -/
structure RuleSet where
  id : Option String
  target : RuleTarget
  active : Bool
  rule : Rule
  actions : List Action
  deriving Repr, Inhabited

structure Channel where
  id : String
  userId : String
  active : Bool
  banThreshold : Option Int
  slowModeHours : Int
  bypassed : List UserOption
  excludeCohosts : Bool
  inclusion : RuleSet
  exclusion : RuleSet
  deriving Repr, Inhabited

namespace RuleTarget

def name : RuleTarget → String
  | .all => "all"
  | .root => "root"
  | .reply => "reply"

def byName : List (String × RuleTarget) := [("all", .all), ("root", .root), ("reply", .reply)]

/-- Whether a target covers a cast that is or is not a reply. -/
def covers (target : RuleTarget) (isReply : Bool) : Bool :=
  match target with
  | .all => true
  | .root => !isReply
  | .reply => isReply

/-- The same for a target that is only a name: an unknown one covers every cast. -/
def nameCovers (name : String) (isReply : Bool) : Bool :=
  ((byName.lookup name).getD .all).covers isReply

end RuleTarget

namespace UserOption
open Decode

def toJson (option : UserOption) : Json :=
  .obj [("value", .int option.value), ("label", .str option.label), ("icon", .ofText? option.icon)]

def read (terms : Terms) : Reader UserOption :=
  record terms fun members =>
    UserOption.mk
      <$> required ["value"] whole members
      <*> required ["label"] text members
      <*> optional ["icon"] none (nullable text) members

end UserOption

namespace RuleSet
open Decode

/-- A set without conditions, with one action. -/
def empty (action : Action) : RuleSet := ⟨none, .all, true, .empty, [action]⟩

def hasConditions (set : RuleSet) : Bool := set.rule.hasConditions

/-- The stored form. -/
def toJson (set : RuleSet) : Json :=
  .obj [("id", .ofText? set.id), ("target", .str set.target.name), ("active", .bool set.active),
    ("rule", set.rule.toJson), ("actions", .arr (set.actions.map Action.toJson))]

/-- A list of actions that is not empty. -/
def readActions (terms : Terms) : Reader (List Action) := fun value =>
  (list (Action.read terms) value).andThen fun actions =>
    if actions.isEmpty then .issue (.rejected "At least one action is required.") else .ok actions

def read (terms : Terms) : Reader RuleSet :=
  record terms fun members =>
    RuleSet.mk
      <$> optional ["id"] none (nullable text) members
      <*> optional ["target"] .all (choice RuleTarget.byName) members
      <*> optional ["active"] true flag members
      <*> required ["rule", "ruleParsed"] (Rule.read terms) members
      <*> required ["actions", "actionsParsed"] (readActions terms) members

end RuleSet

namespace Channel
open Decode

/-- Whether a user is on the bypass list. -/
def isBypassed (channel : Channel) (fid : Int) : Bool :=
  channel.bypassed.any fun option => option.value == fid

/-- The form in which configurations are sent and answered. -/
def toJson (channel : Channel) : Json :=
  .obj [("id", .str channel.id), ("userId", .str channel.userId), ("active", .bool channel.active),
    ("banThreshold", (channel.banThreshold.map Json.int).getD .null),
    ("slowModeHours", .int channel.slowModeHours),
    ("excludeUsernames", .arr (channel.bypassed.map UserOption.toJson)),
    ("excludeCohosts", .bool channel.excludeCohosts),
    ("inclusionRuleSet", channel.inclusion.toJson), ("exclusionRuleSet", channel.exclusion.toJson)]

def inclusionRequired : String :=
  "You need least one rule that includes casts.\n\n" ++
  "If you just want to specify what to exclude, add the \"Always Include\" rule."

def readFields (terms : Terms) (members : Json.Members) : Checked Channel :=
  Channel.mk
    <$> required ["id"] (fun value => (someText value).map Text.lower) members
    <*> optional ["userId", "user_id"] "" text members
    <*> optional ["active"] true flag members
    <*> optional ["banThreshold", "ban_threshold"] none (nullable whole) members
    <*> optional ["slowModeHours", "slow_mode_hours"] 0 (wholeAtLeast 0) members
    <*> optional ["excludeUsernames", "exclude_usernames"] [] (list (UserOption.read terms)) members
    <*> optional ["excludeCohosts", "exclude_cohosts"] true flag members
    <*> optional ["inclusionRuleSet", "inclusion_rule_set"] (.empty .like) (RuleSet.read terms)
      members
    <*> optional ["exclusionRuleSet", "exclusion_rule_set"] (.empty .hideQuietly)
      (RuleSet.read terms) members

def read (terms : Terms) : Reader Channel :=
  record terms fun members =>
    (readFields terms members).andThen fun channel =>
      if !channel.inclusion.hasConditions && channel.exclusion.hasConditions then
        .issue (.rejected inclusionRequired)
      else .ok channel

end Channel

end Curation
