import Curation.User

/-!
Casts: the posts of a channel, with their embedded content.
-/
namespace Curation

/-- A cast that another one quotes. -/
structure QuotedCast where
  fid : Option Int
  hash : String
  deriving DecidableEq, Repr, Inhabited

structure Embed where
  url : Option String
  quoted : Option QuotedCast
  deriving DecidableEq, Repr, Inhabited

structure Cast where
  hash : String
  author : User
  text : String := ""
  parentHash : Option String := none
  parentUrl : Option String := none
  rootParentUrl : Option String := none
  timestamp : Option Moment := none
  embeds : List Embed := []
  frames : List String := []
  channel : Option String := none
  deriving DecidableEq, Repr, Inhabited

namespace Cast

def isReply (cast : Cast) : Bool := cast.parentHash.isSome

def toJson (cast : Cast) : Json :=
  let quoted (embed : Embed) : Json := match embed.quoted with
    | none => .null
    | some quoted =>
      .obj [("fid", (quoted.fid.map Json.int).getD .null), ("hash", .str quoted.hash)]
  .obj [("hash", .str cast.hash), ("author", cast.author.toJson), ("text", .str cast.text),
    ("parent_hash", .ofText? cast.parentHash), ("parent_url", .ofText? cast.parentUrl),
    ("root_parent_url", .ofText? cast.rootParentUrl),
    ("timestamp", .ofText? (cast.timestamp.map Moment.answerText)),
    ("embeds", .arr (cast.embeds.map fun embed =>
      .obj [("url", .ofText? embed.url), ("cast_id", quoted embed)])),
    ("frames", .arr (cast.frames.map fun url => .obj [("frames_url", .str url)])),
    ("channel", match cast.channel with
      | none => .null
      | some id => .obj [("id", .str id)])]

open Decode

def readQuoted (terms : Terms) : Reader QuotedCast :=
  record terms fun members =>
    QuotedCast.mk
      <$> optional ["fid"] none (nullable whole) members
      <*> required ["hash"] Decode.text members

def readEmbed (terms : Terms) : Reader Embed :=
  record terms fun members =>
    Embed.mk
      <$> optional ["url"] none (nullable Decode.text) members
      <*> optional ["cast_id"] none (nullable (readQuoted terms)) members

def read (terms : Terms) : Reader Cast :=
  record terms fun members =>
    Cast.mk
      <$> required ["hash"] Decode.text members
      <*> required ["author"] (User.read terms) members
      <*> optional ["text"] "" Decode.text members
      <*> optional ["parent_hash"] none (nullable Decode.text) members
      <*> optional ["parent_url"] none (nullable Decode.text) members
      <*> optional ["root_parent_url"] none (nullable Decode.text) members
      <*> optional ["timestamp"] none (nullable moment) members
      <*> optional ["embeds"] [] (list (readEmbed terms)) members
      <*> optional ["frames"] [] (list (record terms (required ["frames_url"] Decode.text))) members
      <*> optional ["channel"] none (nullable (record terms (required ["id"] Decode.text))) members

end Cast

end Curation
