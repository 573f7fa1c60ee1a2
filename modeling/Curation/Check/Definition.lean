import Curation.Failure
import Curation.Json.Writer

/-!
Definitions of checks: what a check is called, where it may be used, who may use it, and which
arguments it takes. Rule editors are built from these descriptions.
-/
namespace Curation

/-- The rule sets in which a check may be used. -/
inductive CheckCategory where
  | all
  | inclusion
  | exclusion
  | cast
  deriving DecidableEq, Repr, Inhabited

/-- What a check looks at. -/
inductive CheckSubject where
  | user
  | cast
  deriving DecidableEq, Repr, Inhabited

/-- One of the two rule sets of a channel. -/
inductive RuleSetKind where
  | inclusion
  | exclusion
  deriving DecidableEq, Repr, Inhabited

/-- An argument of a check. A test, where there is one, tells what is wrong with a value. -/
structure Argument where
  name : String
  type : String
  friendlyName : String
  description : String := ""
  required : Bool := false
  standard : Json := .null
  placeholder : Option String := none
  pattern : Option String := none
  options : List Json.Members := []
  missingMessage : Option String := none
  test : Option (Json → Option String) := none

structure Definition where
  name : String
  friendlyName : String
  description : String
  subject : CheckSubject := .user
  category : CheckCategory := .all
  allowMultiple : Bool := false
  invertable : Bool := false
  author : String := "modbot"
  authorUrl : Option String := "https://modbot.sh"
  hidden : Bool := false
  invertedDescription : Option String := none
  /-- The only users who may configure the check, if it is not for everybody. -/
  forUsers : Option (List Int) := none
  /-- The only channels that may use the check, if it is not for all. -/
  forChannels : Option (List String) := none
  args : List Argument := []

def CheckCategory.name : CheckCategory → String
  | .all => "all"
  | .inclusion => "inclusion"
  | .exclusion => "exclusion"
  | .cast => "cast"

def CheckCategory.byName : List (String × CheckCategory) :=
  [("all", .all), ("inclusion", .inclusion), ("exclusion", .exclusion), ("cast", .cast)]

def CheckSubject.name : CheckSubject → String
  | .user => "user"
  | .cast => "cast"

def CheckSubject.byName : List (String × CheckSubject) := [("user", .user), ("cast", .cast)]

def RuleSetKind.byName : List (String × RuleSetKind) :=
  [("inclusion", .inclusion), ("exclusion", .exclusion)]

/-- Whether a check of a category may stand in a rule set. -/
def CheckCategory.fits : CheckCategory → RuleSetKind → Bool
  | .inclusion, .exclusion => false
  | .exclusion, .inclusion => false
  | _, _ => true

namespace Argument

/-- A text that is there and not empty, under a name. -/
def textMember (name : String) : Option String → Json.Members
  | some text => if text.isEmpty then [] else [(name, .str text)]
  | none => []

def toJson (arg : Argument) : Json :=
  .obj ([("type", .str arg.type), ("friendlyName", .str arg.friendlyName),
      ("description", .str arg.description), ("required", .bool arg.required)]
    ++ (if arg.standard.isNull then [] else [("defaultValue", arg.standard)])
    ++ textMember "placeholder" arg.placeholder ++ textMember "pattern" arg.pattern
    ++ (if arg.options.isEmpty then [] else [("options", .arr (arg.options.map .obj))]))

/-- Whether a value counts as not given. -/
def isBlank : Json → Bool
  | .null => true
  | .str s => s.isEmpty
  | .arr items => items.isEmpty
  | _ => false

end Argument

namespace Definition

/-- The name shown in messages. -/
def title (definition : Definition) : String :=
  String.ofList (Text.trimBlanks definition.friendlyName.toList)

/-- Whether a user who configures a channel may use the check. -/
def isAvailable (definition : Definition) (fid : Option Int) (channel : Option String) : Bool :=
  (match definition.forUsers, fid with
    | none, _ => true
    | some allowed, some fid => allowed.contains fid
    | some _, none => false)
  && (match definition.forChannels, channel with
    | none, _ => true
    | some allowed, some channel => allowed.contains channel
    | some _, none => false)

def toJson (definition : Definition) : Json :=
  .obj [("name", .str definition.name), ("author", .str definition.author),
    ("author_url", .ofText? definition.authorUrl),
    ("friendly_name", .str definition.friendlyName),
    ("description", .str definition.description), ("check_type", .str definition.subject.name),
    ("category", .str definition.category.name),
    ("allow_multiple", .bool definition.allowMultiple),
    ("invertable", .bool definition.invertable),
    ("inverted_description", .ofText? definition.invertedDescription),
    ("hidden", .bool definition.hidden),
    ("args", .obj (definition.args.map fun arg => (arg.name, arg.toJson)))]

end Definition

end Curation
