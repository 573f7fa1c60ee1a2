import Curation.Check.Definition
import Curation.Check.Registry
import Curation.Decode.Scalar

/-!
Definitions of checks in documents: as they are declared, and as clients get them listed. A
definition belongs to a set, and is by the author of its set unless it names one of its own. It
always makes an entry of a list.
-/
namespace Curation

/-- Who the definitions of a set are by. -/
structure CheckSet where
  author : String := "modbot"
  authorUrl : Option String := "https://modbot.sh"
  deriving DecidableEq, Repr, Inhabited

namespace CheckSet
open Decode

def read (terms : Terms) : Reader CheckSet :=
  record terms fun members =>
    CheckSet.mk
      <$> optional ["author"] "modbot" text members
      <*> optional ["author_url"] "https://modbot.sh" (nullable text) members

def readArgument (terms : Terms) (name : String) : Reader Argument :=
  record terms fun members =>
    (fun type friendlyName description required standard placeholder pattern options missing =>
        ⟨name, type, friendlyName, description, required, standard, placeholder, pattern, options,
          missing, none⟩)
      <$> required ["type"] text members
      <*> required ["friendly_name"] text members
      <*> optional ["description"] "" text members
      <*> optional ["required"] false flag members
      <*> optional ["default"] .null .ok members
      <*> optional ["placeholder"] none (nullable text) members
      <*> optional ["pattern"] none (nullable text) members
      <*> optional ["options"] [] (list object) members
      <*> optional ["missing_message"] none (nullable text) members

/-- Arguments under their names. -/
def readArguments (terms : Terms) : Reader (List Argument)
  | .obj members => members.foldr (fun (name, value) rest =>
      (· :: ·) <$> (readArgument terms name value).under (.key name) <*> rest) (.ok [])
  | _ => .issue .objectType

/-- The first of two texts that is there and not empty. -/
def textOr (text standIn : Option String) : Option String :=
  match text with
  | some text => if text.isEmpty then standIn else some text
  | none => standIn

/-- A definition as part of a set. -/
def readDefinition (terms : Terms) (set : CheckSet) : Reader Definition :=
  record terms fun members =>
    (fun name friendlyName description subject category allowMultiple invertable author authorUrl
        hidden invertedDescription forUsers forChannels args =>
        { name, friendlyName, description, subject, category, allowMultiple, invertable, hidden,
          invertedDescription, forUsers, forChannels, args
          author := (textOr author set.author).getD ""
          authorUrl := textOr authorUrl set.authorUrl })
      <$> required ["name"] text members
      <*> required ["friendly_name"] text members
      <*> required ["description"] text members
      <*> optional ["check_type"] .user (choice CheckSubject.byName) members
      <*> optional ["category"] .all (choice CheckCategory.byName) members
      <*> optional ["allow_multiple"] false flag members
      <*> optional ["invertable"] false flag members
      <*> optional ["author"] none (nullable text) members
      <*> optional ["author_url"] none (nullable text) members
      <*> optional ["hidden"] false flag members
      <*> optional ["inverted_description"] none (nullable text) members
      <*> optional ["fid_gated"] none (nullable (list whole)) members
      <*> optional ["channel_gated"] none (nullable (list text)) members
      <*> optional ["args"] [] (readArguments terms) members

/-- The definitions that a document lists, as parts of the set that it describes. -/
def readDefinitions (terms : Terms) (set definitions : Json) : Checked (List Definition) :=
  (read terms set).andThen fun set => list (readDefinition terms set) definitions

end CheckSet

structure Listing where
  name : String
  author : String
  authorUrl : Option String
  friendlyName : String
  description : String
  subject : String
  category : String
  allowMultiple : Bool
  invertable : Bool
  invertedDescription : Option String
  hidden : Bool
  args : List (String × Json.Members)
  deriving Repr, Inhabited

namespace Listing
open Decode

def read (terms : Terms) : Reader Listing :=
  record terms fun members =>
    Listing.mk
      <$> required ["name"] text members
      <*> required ["author"] text members
      <*> optional ["author_url"] none (nullable text) members
      <*> required ["friendly_name"] text members
      <*> required ["description"] text members
      <*> required ["check_type"] text members
      <*> required ["category"] text members
      <*> required ["allow_multiple"] flag members
      <*> required ["invertable"] flag members
      <*> optional ["inverted_description"] none (nullable text) members
      <*> required ["hidden"] flag members
      <*> required ["args"] (table object) members

def toJson (listing : Listing) : Json :=
  .obj [("name", .str listing.name), ("author", .str listing.author),
    ("author_url", .ofText? listing.authorUrl), ("friendly_name", .str listing.friendlyName),
    ("description", .str listing.description), ("check_type", .str listing.subject),
    ("category", .str listing.category), ("allow_multiple", .bool listing.allowMultiple),
    ("invertable", .bool listing.invertable),
    ("inverted_description", .ofText? listing.invertedDescription),
    ("hidden", .bool listing.hidden),
    ("args", .obj (listing.args.map fun arg => (arg.1, .obj arg.2)))]

end Listing

end Curation
