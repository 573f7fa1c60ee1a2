import Curation.Check.Hook
import Curation.Proofs.Program.Runs
import Curation.Rehearsal.Progress

/-! What the check that leaves the decision to an endpoint makes of it. Nothing that an endpoint
does, and nothing that happens on the way to it, fails the check: every reply is turned into a
verdict, so a run that was given time is one question about the time, one request, and a verdict. -/
namespace Curation.Check.Hook

open Program (Exchanges Runs)
open Rehearsal (Budget)
open Remote (Request Reply)

variable {ctx : Context} {url : Json} {budget : Budget} {now time : Number} {reply : Reply}
  {verdict : Verdict} {body : String}

/-! ## The time for the request -/

/-- The evaluation has no deadline, or its deadline is still to come. -/
def HasTime (budget : Budget) (now : Number) : Prop :=
  ∀ deadline, budget.deadline = some deadline → (deadline.sub now).le 0 = false

/-- What the endpoint gets of the time that is left. -/
def share (budget : Budget) (now : Number) : Number :=
  match budget.deadline with
  | none => .whole 5
  | some deadline => (Number.whole 5).least (deadline.sub now)

theorem timeLeft_open (open_ : HasTime budget now) :
    budget.timeLeft (some (.whole patience)) now = some (share budget now) := by
  unfold Budget.timeLeft share
  cases there : budget.deadline with
  | none => rfl
  | some deadline => simp [open_ deadline there, patience]

/-- Questions about the time are answered as an evaluation with this budget answers them now. -/
def KeepsTime (budget : Budget) (now : Number) (exchanges : Exchanges Ask Answer) : Prop :=
  ∀ wanted given, (⟨.timeLeft wanted, given⟩ : (question : Ask) × Answer question) ∈ exchanges →
    given = budget.timeLeft wanted now

/-! ## The verdict -/

/-- The owner wants the check to trigger where the endpoint fails. -/
def TriggersOnFailure (ctx : Context) : Prop := ctx.arg? "failureMode" = some (.str "trigger")

/-- The endpoint has not decided. -/
def Fails : Reply → Prop
  | .answered response => response.status ≠ 200 ∧ response.status ≠ 400
  | .timedOut | .broken _ => True

/-- The body is an object with a message that is not empty. -/
def Brings (body said : String) : Prop :=
  ∃ members, Json.read body = .ok (.obj members) ∧
    Json.Members.get? "message" members = some (.str said) ∧ said ≠ ""

/-- The verdict is the one that the reply and the owner's wish for failures ask for. -/
structure Decides (ctx : Context) (reply : Reply) (verdict : Verdict) : Prop where
  accepts : ∀ body, reply = .answered ⟨200, body⟩ → verdict.passed = true
  refuses : ∀ body, reply = .answered ⟨400, body⟩ → verdict.passed = false
  fails : Fails reply → (verdict.passed = true ↔ TriggersOnFailure ctx)
  message : ∀ status body said, status = 200 ∨ status = 400 → reply = .answered ⟨status, body⟩ →
    Brings body said → verdict.message.toList = said.toList.take 75
  standard : ∀ status body, status = 200 ∨ status = 400 → reply = .answered ⟨status, body⟩ →
    (∀ said, ¬Brings body said) →
    verdict.message = if status = 200 then "Webhook rule triggered" else "Webhook rule did not trigger"

theorem same_str_iff {value : Json} {text : String} : value.same (.str text) = true ↔ value = .str text := by
  cases value <;> simp [Json.same]

/-- The wish for failures, as the check reads it. -/
def wish (ctx : Context) : Bool := Json.same (ctx.arg "failureMode") (.str "trigger")

theorem wish_iff : wish ctx = true ↔ TriggersOnFailure ctx := by
  rw [wish, same_str_iff, Context.arg, TriggersOnFailure]
  cases ctx.arg? "failureMode" <;> simp

/-- What the check makes of a reply. -/
def verdictOn (ctx : Context) : Reply → Verdict
  | .answered response => answerVerdict response (wish ctx)
  | .timedOut => timeoutVerdict (wish ctx)
  | .broken _ => failureVerdict (wish ctx)

@[simp] theorem verdict_passed (passed : Bool) (yes no : String) : (Check.verdict passed yes no).passed = passed := by
  cases passed <;> rfl

/-- What a body says to the check: its message cut short, or nothing. -/
def said (body : String) : String :=
  match Json.read body with
  | .ok value => (message? value).getD ""
  | .error _ => ""

theorem answerVerdict_eq {status : Int} (decided : status = 200 ∨ status = 400) (triggers : Bool) :
    answerVerdict ⟨status, body⟩ triggers =
      ⟨status = 200, if (said body).isEmpty then
        if status = 200 then "Webhook rule triggered" else "Webhook rule did not trigger"
        else said body⟩ := by
  simp only [answerVerdict, decided, if_true, said]
  rfl

theorem said_of_brings {words : String} (brings : Brings body words) : said body = Text.take 75 words := by
  obtain ⟨members, read, there, -⟩ := brings
  simp [said, read, message?, there, greatestLength]

theorem isEmpty_take {words : String} (some_ : words ≠ "") : (Text.take 75 words).isEmpty = false := by
  have characters : words.toList ≠ [] := fun none_ => some_ (String.toList_eq_nil_iff.mp none_)
  rw [Bool.eq_false_iff, ne_eq, String.isEmpty_iff, Text.take, String.ofList_eq_empty_iff]
  simpa using characters

/-- A body that brings no message says nothing, be it no JSON, no object, or an object whose message
is missing, no text or empty. -/
theorem said_of_silent (silent : ∀ words, ¬Brings body words) : said body = "" := by
  unfold said
  split
  next value read =>
    unfold message?
    split
    next members =>
      split
      next words there =>
        have blank : words = "" := Classical.byContradiction fun some_ => silent words ⟨members, read, there, some_⟩
        rw [blank]
        rfl
      next => rfl
    next => rfl
  next => rfl

theorem verdictOn_decides (ctx : Context) (reply : Reply) : Decides ctx reply (verdictOn ctx reply) where
  accepts body answered := by
    subst answered
    rw [verdictOn, answerVerdict_eq (.inl rfl)]
    rfl
  refuses body answered := by
    subst answered
    rw [verdictOn, answerVerdict_eq (.inr rfl)]
    rfl
  fails failed := by
    rw [← wish_iff]
    cases reply with
    | answered response =>
      have undecided : ¬(response.status = 200 ∨ response.status = 400) := not_or.mpr failed
      simp [verdictOn, answerVerdict, undecided, failureVerdict]
    | timedOut => simp [verdictOn, timeoutVerdict]
    | broken reason => simp [verdictOn, failureVerdict]
  message status body words decided answered brings := by
    subst answered
    obtain ⟨-, -, -, some_⟩ := id brings
    simp only [verdictOn, answerVerdict_eq decided, said_of_brings brings, isEmpty_take some_]
    exact String.toList_ofList
  standard status body decided answered silent := by
    subst answered
    simp [verdictOn, answerVerdict_eq decided, said_of_silent silent]

/-! ## Runs -/

/-- What is sent to an endpoint. -/
def requestTo (url : String) (ctx : Context) (time : Number) : Request :=
  { method := "POST", url, query := none, body := some (payload ctx), auth := none, timeout := time }

/-- The check asks for time, posts once, and makes a verdict of the reply, whatever it is. -/
theorem webhook_run (given : ctx.arg? "url" = some url) :
    webhook.run ctx = .ask (.timeLeft (some (.whole patience))) fun time =>
      match time with
      | none => .failed .noTimeLeft
      | some time => .ask (.remote (.send (requestTo url.display ctx time))) fun reply =>
        .done (verdictOn ctx reply) := by
  have there : ctx.needed "url" = .ok url := by
    rw [Context.arg?] at given
    simp only [Context.needed, Json.entry, given]
  simp only [webhook, there]
  refine congrArg (Program.ask _) (funext fun time => ?_)
  cases (time : Option Number) with
  | none => rfl
  | some time =>
    refine congrArg (Program.ask _) (funext fun reply => ?_)
    cases (reply : Reply) <;> rfl

/-- A run that was given time: the question about it, one request that lasts no longer, a reply. -/
def visit (request : Request) (reply : Reply) : Exchanges Ask Answer :=
  [⟨.timeLeft (some (.whole patience)), some request.timeout⟩, ⟨.remote (.send request), reply⟩]

/-- The user and the cast are posted to the URL, for as long as the endpoint gets. -/
structure Posts (ctx : Context) (url : Json) (time : Number) (request : Request) : Prop where
  method : request.method = "POST"
  url : request.url = url.display
  body : request.body = some (payload ctx)
  timeout : request.timeout = time

theorem requestTo_posts : Posts ctx url time (requestTo url.display ctx time) := ⟨rfl, rfl, rfl, rfl⟩

end Curation.Check.Hook
