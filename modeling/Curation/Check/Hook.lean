import Curation.Check.Basic
import Curation.Remote.Hooks

/-!
The check that leaves the decision to an endpoint of the channel's owner. A status of 200 triggers,
400 does not, and everything else goes as the owner wants failures to go.
-/
namespace Curation.Check.Hook

/-- How many seconds the endpoint has. -/
def patience : Nat := 5

def greatestLength : Nat := 75

/-- The message that an answer brings with it. -/
def message? : Json → Option String
  | .obj members =>
    match Json.Members.get? "message" members with
    | some (.str text) => some (Text.take greatestLength text)
    | _ => none
  | _ => none

def failureVerdict (triggers : Bool) : Verdict :=
  verdict triggers "Webhook failed but rule is set to trigger on failure"
    "Webhook failed and rule is set to not trigger on failure"

def timeoutVerdict (triggers : Bool) : Verdict :=
  verdict triggers
    s!"Webhook didn't respond within {patience}s, rule is set to trigger on failure"
    s!"Webhook did not respond within {patience}s, rule is set to not trigger on failure. "

/-- The verdict of an endpoint that answered. -/
def answerVerdict (response : Remote.Response) (triggersOnFailure : Bool) : Verdict :=
  if response.status = 200 ∨ response.status = 400 then
    let triggers := response.status = 200
    let said := match Json.read response.text with
      | .ok body => (message? body).getD ""
      | .error _ => ""
    let standard := if triggers then "Webhook rule triggered" else "Webhook rule did not trigger"
    ⟨triggers, if said.isEmpty then standard else said⟩
  else failureVerdict triggersOnFailure

/-- What is sent: the user, and the cast or null. -/
def payload (ctx : Context) : Json :=
  .obj [("user", ctx.user.toJson), ("cast", (ctx.cast.map Cast.toJson).getD .null)]

def webhook : Entry where
  definition :=
    { name := "webhook"
      friendlyName := "Webhook"
      description := "Use an external service to determine if the rule should be triggered."
      args :=
        [{ name := "url"
           type := "string"
           friendlyName := "URL"
           required := true
           placeholder := "https://example.com/webhook"
           description :=
             "A post request will be made with \x7b cast, user \x7d data. If the webhook " ++
             "returns a 200, the rule will be triggered, if it returns a 400, it will not. " ++
             "Return a json response in either case with a message to include a reason in " ++
             "the activity logs. Maximum of 75 characters. A response must return within 5 " ++
             "seconds." },
          { name := "failureMode"
            type := "select"
            friendlyName := "If the webhook fails or times out..."
            required := true
            standard := .str "doNotTrigger"
            options :=
              [[("value", .str "trigger"), ("label", .str "Trigger this rule")],
                [("value", .str "doNotTrigger"), ("label", .str "Do not trigger this rule")]] }] }
  run ctx := do
    let url := (← ctx.needed "url").display
    let triggers := Json.same (ctx.arg "failureMode") (.str "trigger")
    let time ← timeLeft (some (.whole patience))
    try
      let response ← Remote.Hooks.post url (payload ctx) time
      return answerVerdict response triggers
    catch
      | .remote fault =>
        return if fault.isTimeout then timeoutVerdict triggers else failureVerdict triggers
      | failure => throw failure

def entries : List Entry := [webhook]

end Curation.Check.Hook
