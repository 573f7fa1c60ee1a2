import Curation.Cast.Basic
import Curation.Channel.Basic

/-!
What clients ask for in the bodies of their requests.
-/
namespace Curation.Api
open Decode

/-- A user who asks to join. -/
structure JoinOrder where
  fid : Int
  deriving DecidableEq, Repr, Inhabited

/-- A trial of rules on a user or a cast: those of a configuration that is not saved yet, or those
that are. -/
structure TrialOrder where
  fid : Int
  cast : Option Cast
  channel : Option Channel
  deriving Repr, Inhabited

/-- A moderator who approves. -/
structure ApprovalOrder where
  actor : String
  deriving DecidableEq, Repr, Inhabited

def readFid : Reader Int := wholeAbove 0

namespace JoinOrder

def read (terms : Terms) : Reader JoinOrder :=
  record terms fun members => JoinOrder.mk <$> required ["fid"] readFid members

def toJson (order : JoinOrder) : Json := .obj [("fid", .int order.fid)]

end JoinOrder

namespace TrialOrder

def read (terms : Terms) : Reader TrialOrder :=
  record terms fun members =>
    TrialOrder.mk
      <$> required ["fid"] readFid members
      <*> optional ["cast"] none (nullable (Cast.read terms)) members
      <*> optional ["config"] none (nullable (Channel.read terms)) members

def toJson (order : TrialOrder) : Json :=
  .obj [("fid", .int order.fid), ("cast", (order.cast.map Cast.toJson).getD .null),
    ("config", (order.channel.map Channel.toJson).getD .null)]

end TrialOrder

namespace ApprovalOrder

def read (terms : Terms) : Reader ApprovalOrder :=
  record terms fun members => ApprovalOrder.mk <$> required ["actor"] someText members

def toJson (order : ApprovalOrder) : Json := .obj [("actor", .str order.actor)]

end ApprovalOrder

end Curation.Api
