import Curation.Settings
import Curation.Remote.Call

/-!
The remote services of a deployment: where each one is and how it knows this service, as the
settings say.
-/
namespace Curation.Remote

structure Directory where
  accounts : Service
  channels : Service
  chains : List (String × String)
  chainTimeout : Number
  collections : Service
  botOrNot : Service
  farRank : Service
  openRank : Service
  profiles : Service
  deriving Repr, Inhabited

namespace Directory

def ofSettings (settings : Settings) : Directory :=
  let timeout : Number := .real settings.httpTimeoutSeconds
  { accounts := ⟨"neynar", settings.neynarBaseUrl, timeout, s!"api_key: {settings.neynarApiKey}"⟩
    channels := ⟨"warpcast", settings.warpcastBaseUrl, timeout,
      if settings.warpcastToken.isEmpty then none
      else s!"authorization: Bearer {settings.warpcastToken}"⟩
    chains := settings.rpcUrls
    chainTimeout := timeout
    collections := ⟨"simplehash", settings.simplehashUrl, timeout,
      s!"x-api-key: {settings.simplehashApiKey}"⟩
    botOrNot := ⟨"botornot", settings.botornotUrl, .real settings.checkTimeoutSeconds, none⟩
    farRank := ⟨"airstack", settings.airstackUrl, timeout,
      s!"authorization: {settings.airstackApiKey}"⟩
    openRank := ⟨"openrank", settings.openrankBaseUrl, timeout,
      s!"api-key: {settings.openrankApiKey}"⟩
    profiles := ⟨"icebreaker", settings.icebreakerUrl, timeout, none⟩ }

/-- Whether a chain is listed at all. -/
def supports (directory : Directory) (chain : String) : Bool :=
  directory.chains.any fun entry => entry.1 == chain

/-- The node of a chain; a chain listed without an address has none. -/
def chain? (directory : Directory) (chain : String) : Option Service :=
  match directory.chains.lookup chain with
  | some url =>
    if url.isEmpty then none else some ⟨s!"rpc:{chain}", url, directory.chainTimeout, none⟩
  | none => none

end Directory

/-- Parts taken out of an answer, where the wrong shape is a failure. -/
instance : MonadLift (Except Misuse) Fetch where
  monadLift
    | .ok value => .done value
    | .error cause => .failed (.misuse cause)

/-- Call data, where a value that cannot be encoded is a failure. -/
instance : MonadLift (Except Chain.WordFault) Fetch where
  monadLift
    | .ok value => .done value
    | .error fault => .failed (.word fault)

/-- A value of a shape, where everything that is wrong with it is a failure. -/
instance : MonadLift Decode.Checked Fetch where
  monadLift
    | .ok value => .done value
    | .bad issues => .failed (.invalid issues)

end Curation.Remote
