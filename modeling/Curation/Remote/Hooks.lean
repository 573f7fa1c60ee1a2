import Curation.Remote.Directory

/-!
Endpoints that channel owners run themselves. Each belongs to somebody else, so none of them has a
breaker.
-/
namespace Curation.Remote.Hooks

def post (url : String) (payload : Json) (timeout : Number) : Fetch Response := do
  let request : Request :=
    { method := "POST", url, query := none, body := some payload, auth := none, timeout }
  match ← send request with
  | .answered response => return response
  | .timedOut => throw (.remote (.hookTimedOut url))
  | .broken reason => throw (.remote (.hookBroken url reason))

end Curation.Remote.Hooks
