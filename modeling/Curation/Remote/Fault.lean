import Curation.Json.Writer

/-!
Why a call to a remote service gave nothing, in the words that users and logs see.
-/
namespace Curation

inductive RemoteFault where
  | timedOut (service endpoint : String)
  | broken (service reason : String)
  | refused (service : String) (status : Int)
  | heldBack (service : String)
  | noChannel (id : String)
  | noCast (hash : String)
  | callFailed (service reason : String)
  | queryFailed (errors : Json)
  | noEndpoint (chain : String)
  | noIndex (chain : String)
  | hookTimedOut (url : String)
  | hookBroken (url reason : String)
  deriving Repr, Inhabited

namespace RemoteFault

def message : RemoteFault → String
  | .timedOut service endpoint => s!"{service} request timed out: {endpoint}"
  | .broken service reason => s!"{service} request failed: {reason}"
  | .refused service status => s!"{service} responded with {status}"
  | .heldBack service => s!"{service} circuit breaker is open - service unavailable"
  | .noChannel id => s!"Channel not found: {id}"
  | .noCast hash => s!"Cast not found: {hash}"
  | .callFailed service reason => s!"{service} eth_call failed: {reason}"
  | .queryFailed errors => s!"airstack query failed: {errors.display}"
  | .noEndpoint chain => s!"No client found for chainId: {chain}"
  | .noIndex chain => s!"No chain found for chainId: {chain}"
  | .hookTimedOut url => s!"webhook to {url} timed out"
  | .hookBroken url reason => s!"webhook to {url} failed: {reason}"

/-- The status that stands for a fault, where there is one. -/
def status? : RemoteFault → Option Int
  | .refused _ status => some status
  | .noChannel _ | .noCast _ => some 404
  | _ => none

/-- Whether no answer came in time. -/
def isTimeout : RemoteFault → Bool
  | .timedOut .. | .hookTimedOut _ => true
  | _ => false

/-- Whether the call was never made, to spare the service. -/
def isHeldBack : RemoteFault → Bool
  | .heldBack _ => true
  | _ => false

end RemoteFault

end Curation
