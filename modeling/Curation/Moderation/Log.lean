import Curation.Decode.Scalar
import Curation.Text.Search

/-!
Moderation logs: one entry per action that was carried out, or that a simulation would carry out.
-/
namespace Curation

structure Log where
  id : String
  channelId : String
  action : String
  actor : String
  reason : String
  fid : String
  username : String
  avatarUrl : Option String
  castHash : String
  castText : String
  rule : String
  createdAt : Moment
  updatedAt : Moment
  deriving DecidableEq, Repr, Inhabited

namespace Log

/-- In whose name the rules act. -/
def systemActor : String := "system"

/-- How the ids of simulated entries start. -/
def simulatedStart : String := "sim-"

def isSimulated (log : Log) : Bool := Text.startsWith log.id simulatedStart

def toJson (log : Log) : Json :=
  .obj [("id", .str log.id), ("channel_id", .str log.channelId), ("action", .str log.action),
    ("actor", .str log.actor), ("reason", .str log.reason), ("affected_user_fid", .str log.fid),
    ("affected_username", .str log.username),
    ("affected_user_avatar_url", .ofText? log.avatarUrl), ("cast_hash", .str log.castHash),
    ("cast_text", .str log.castText), ("rule", .str log.rule),
    ("created_at", .str log.createdAt.answerText), ("updated_at", .str log.updatedAt.answerText)]

open Decode

def read (terms : Terms) : Reader Log :=
  record terms fun members =>
    Log.mk
      <$> required ["id"] text members
      <*> required ["channel_id"] text members
      <*> required ["action"] text members
      <*> required ["actor"] text members
      <*> required ["reason"] text members
      <*> required ["affected_user_fid"] text members
      <*> required ["affected_username"] text members
      <*> optional ["affected_user_avatar_url"] none (nullable text) members
      <*> optional ["cast_hash"] "" text members
      <*> optional ["cast_text"] "" text members
      <*> optional ["rule"] "\x7b\x7d" text members
      <*> required ["created_at"] moment members
      <*> required ["updated_at"] moment members

end Log

end Curation
