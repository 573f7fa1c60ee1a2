import Mathlib.Logic.Function.Basic
import Curation.Proofs.Number.Order
import Curation.Remote.Breaker
import Curation.Remote.Call

/-! Circuit breakers while calls are under way. Any number of calls take turns at one
breaker, and what became of a request may be heard long after the breaker has changed.
What was heard so far accounts for the breaker: the failures in a row tell when it opens,
and the successes of a trial tell when it closes. -/
namespace Curation.Remote

variable {α : Type} {limits : BreakerLimits} {now : Number} {service : Service}

/-! ## Calls under way -/

/-- A call goes on until it waits for its request or has ended. What it asks of the breaker
is answered at once, so nothing comes between a call that is let through and its request. -/
def goOn (limits : BreakerLimits) (now : Number) : Fetch α → Breaker → Fetch α × Breaker
  | .ask (.isHeldBack _) next, breaker =>
    goOn limits now (next (breaker.isOpen limits now).1) (breaker.isOpen limits now).2
  | .ask (.report _ success) next, breaker =>
    goOn limits now (next ()) (if success then breaker.succeeded limits else breaker.failedAt limits now)
  | .ask (.send request) next, breaker => (.ask (.send request) next, breaker)
  | .done value, breaker => (.done value, breaker)
  | .failed failure, breaker => (.failed failure, breaker)

/-- The call has sent its request. -/
def isWaiting : Fetch α → Bool
  | .ask (.send _) _ => true
  | _ => false

/-- The breaker of a service and the calls to it that are under way. -/
structure Line where
  breaker : Breaker := {}
  calls : Nat → Option (Fetch Response) := fun _ => none

/-- What a call does next: it begins and its request is sent or held back, it hears what
became of the request, or it is given up. -/
inductive Event where
  | began (isSent : Bool)
  | heard (reply : Reply)
  | abandoned

/-- One call goes on. -/
inductive Move (service : Service) (limits : BreakerLimits) (now : Number) : Line → Event → Line → Prop
  | begins {line : Line} {i : Nat} {left : Fetch Response} {breaker : Breaker} (call : Call) :
    line.calls i = none → goOn limits now (service.request call) line.breaker = (left, breaker) →
    Move service limits now line (.began (isWaiting left)) ⟨breaker, Function.update line.calls i left⟩
  | hears {line : Line} {i : Nat} {request : Request} {next : Reply → Fetch Response}
      {left : Fetch Response} {breaker : Breaker} (reply : Reply) :
    line.calls i = some (.ask (.send request) next) →
    goOn limits now (next reply) line.breaker = (left, breaker) →
    Move service limits now line (.heard reply) ⟨breaker, Function.update line.calls i left⟩
  | leaves {line : Line} {i : Nat} {call : Fetch Response} :
    line.calls i = some call →
    Move service limits now line .abandoned { line with calls := Function.update line.calls i none }

/-! ## What was heard -/

/-- A missing answer, a broken connection and a failure of the server are failures. -/
def Reply.isFailure : Reply → Bool
  | .timedOut | .broken _ => true
  | .answered response => decide (500 ≤ response.status)

def Event.isFailure : Event → Bool
  | .heard reply => reply.isFailure
  | _ => false

def Event.isSuccess : Event → Bool
  | .heard reply => !reply.isFailure
  | _ => false

/-- What a call did, when, and in which phase the breaker was afterwards. -/
structure Note where
  time : Number
  event : Event
  phase : BreakerPhase

/-- The line has come about in this way, the last event first. -/
inductive Reaches (service : Service) (limits : BreakerLimits) : List Note → Line → Prop
  | start : Reaches service limits [] {}
  | move {history : List Note} {line after : Line} {now : Number} {event : Event} :
    Reaches service limits history line → Move service limits now line event after →
    Reaches service limits (⟨now, event, after.breaker.phase⟩ :: history) after

/-- The failures since the last success. -/
def failuresInRow : List Note → Nat
  | [] => 0
  | note :: earlier =>
    if note.event.isFailure then failuresInRow earlier + 1
    else if note.event.isSuccess then 0
    else failuresInRow earlier

def lastFailure? (history : List Note) : Option Number :=
  (history.find? (·.event.isFailure)).map (·.time)

def phaseAfter : List Note → BreakerPhase
  | [] => .closed
  | note :: _ => note.phase

/-- What was noted since the breaker last went on trial. -/
def sinceTrial : List Note → List Note
  | [] => []
  | note :: earlier =>
    if note.phase = .halfOpen ∧ phaseAfter earlier ≠ .halfOpen then []
    else note :: sinceTrial earlier

def successes (history : List Note) : Nat := history.countP (·.event.isSuccess)

/-! ## One turn -/

/-- What an event does to the breaker. -/
inductive Turned (limits : BreakerLimits) (now : Number) : Breaker → Event → Breaker → Prop
  | heldBack {breaker : Breaker} :
    breaker.phase = .opened → limits.recoveryTimeout.lt (now.sub breaker.lastFailure) = false →
    Turned limits now breaker (.began false) breaker
  | tried {breaker : Breaker} :
    breaker.phase = .opened → limits.recoveryTimeout.lt (now.sub breaker.lastFailure) = true →
    Turned limits now breaker (.began true) { breaker with phase := .halfOpen, successes := 0 }
  | letThrough {breaker : Breaker} :
    breaker.phase ≠ .opened → Turned limits now breaker (.began true) breaker
  | failed {breaker : Breaker} {reply : Reply} :
    reply.isFailure = true → Turned limits now breaker (.heard reply) (breaker.failedAt limits now)
  | succeeded {breaker : Breaker} {reply : Reply} :
    reply.isFailure = false → Turned limits now breaker (.heard reply) (breaker.succeeded limits)
  | abandoned {breaker : Breaker} : Turned limits now breaker .abandoned breaker

/-- Once it is answered, a call tells the breaker what it heard, and has ended. -/
def Reports (limits : BreakerLimits) (call : Fetch Response) : Prop :=
  ∀ request next, call = .ask (.send request) next → ∀ now reply breaker,
    ∃ left, isWaiting left = false ∧ goOn limits now (next reply) breaker =
      (left, if reply.isFailure then breaker.failedAt limits now else breaker.succeeded limits)

theorem reports_ended {call : Fetch Response} (ended : isWaiting call = false) : Reports limits call := by
  rintro request next rfl
  cases ended

/-- How a call goes on from what became of its request. -/
def Service.afterReply (service : Service) (call : Call) : Reply → Fetch Response
  | .timedOut =>
    .ask (.report service.name false) fun _ =>
      .failed (.remote (.timedOut service.name (service.endpoint call)))
  | .broken reason =>
    .ask (.report service.name false) fun _ => .failed (.remote (.broken service.name reason))
  | .answered response =>
    if 500 ≤ response.status then
      .ask (.report service.name false) fun _ =>
        .failed (.remote (.refused service.name response.status))
    else .ask (.report service.name true) fun _ => .done response

/-- How a call goes on from being held back or not. -/
def Service.afterCheck (service : Service) (call : Call) : Bool → Fetch Response
  | true => .failed (.remote (.heldBack service.name))
  | false => .ask (.send (service.requestOf call)) (service.afterReply call)

/-- A call asks whether it is held back, and if it is not, it sends its request. -/
theorem request_eq (service : Service) (call : Call) :
    service.request call = .ask (.isHeldBack service.name) (service.afterCheck call) := by
  refine congrArg (Program.ask (Ask.isHeldBack service.name)) (funext fun heldBack => ?_)
  cases heldBack with
  | true => rfl
  | false =>
    refine congrArg (Program.ask (Ask.send (service.requestOf call))) (funext fun reply => ?_)
    cases reply with
    | timedOut | broken reason => rfl
    | answered response =>
      by_cases refused : 500 ≤ response.status
      · exact (if_pos refused).trans (if_pos refused).symm
      · exact (if_neg refused).trans (if_neg refused).symm

theorem reports_afterReply (service : Service) (call : Call) :
    Reports limits (.ask (.send (service.requestOf call)) (service.afterReply call)) := by
  rintro request next same now reply breaker
  cases same
  cases reply with
  | timedOut | broken reason => exact ⟨_, rfl, rfl⟩
  | answered response =>
    simp only [Service.afterReply, Reply.isFailure, decide_eq_true_eq]
    split
    · exact ⟨_, rfl, rfl⟩
    · exact ⟨_, rfl, rfl⟩

theorem request_begins (limits : BreakerLimits) (now : Number) (service : Service) (call : Call) (breaker : Breaker) :
    ∃ left, Reports limits left ∧ isWaiting left = !(breaker.isOpen limits now).1 ∧
      goOn limits now (service.request call) breaker = (left, (breaker.isOpen limits now).2) := by
  rw [request_eq]
  change ∃ left, _ ∧ _ ∧ goOn limits now (service.afterCheck call (breaker.isOpen limits now).1) _ = _
  cases (breaker.isOpen limits now).1 with
  | true => exact ⟨_, reports_ended rfl, rfl, rfl⟩
  | false => exact ⟨_, reports_afterReply service call, rfl, rfl⟩

theorem isOpen_turned (limits : BreakerLimits) (now : Number) (breaker : Breaker) :
    Turned limits now breaker (.began !(breaker.isOpen limits now).1) (breaker.isOpen limits now).2 := by
  cases phase : breaker.phase with
  | opened =>
    cases passed : limits.recoveryTimeout.lt (now.sub breaker.lastFailure) with
    | true => simpa [Breaker.isOpen, phase, passed] using Turned.tried phase passed
    | false => simpa [Breaker.isOpen, phase, passed] using Turned.heldBack phase passed
  | closed | halfOpen =>
    have through : Turned limits now breaker (.began true) breaker := .letThrough (by simp [phase])
    simpa [Breaker.isOpen, phase] using through

/-- Every call of the line tells the breaker what it hears. -/
def Line.Regular (limits : BreakerLimits) (line : Line) : Prop :=
  ∀ i call, line.calls i = some call → Reports limits call

theorem Line.Regular.update {line : Line} (regular : line.Regular limits) {i : Nat}
    {left : Option (Fetch Response)} (reports : ∀ call, left = some call → Reports limits call)
    (breaker : Breaker) : Line.Regular limits ⟨breaker, Function.update line.calls i left⟩ := by
  intro j call stands
  simp only [Function.update_apply] at stands
  split at stands
  · exact reports call stands
  · exact regular j call stands

theorem Move.turned {line after : Line} {event : Event} (move : Move service limits now line event after)
    (regular : line.Regular limits) :
    Turned limits now line.breaker event after.breaker ∧ after.Regular limits := by
  cases move with
  | @begins i left breaker call free goes =>
    obtain ⟨left', reports, waits, goes'⟩ := request_begins limits now service call line.breaker
    obtain ⟨rfl, rfl⟩ := Prod.mk.inj (goes.symm.trans goes')
    have turned := isOpen_turned limits now line.breaker
    rw [← waits] at turned
    exact ⟨turned, regular.update (fun _ same => Option.some.inj same ▸ reports) _⟩
  | @hears i request next left breaker reply waits goes =>
    obtain ⟨left', ended, goes'⟩ := regular i _ waits request next rfl now reply line.breaker
    obtain ⟨rfl, rfl⟩ := Prod.mk.inj (goes.symm.trans goes')
    refine ⟨?_, regular.update (fun _ same => Option.some.inj same ▸ reports_ended ended) _⟩
    cases failed : reply.isFailure with
    | true => exact .failed failed
    | false => exact .succeeded failed
  | leaves => 
    refine ⟨.abandoned, regular.update (fun call none => ?_) _⟩
    cases none

/-! ## Accounts -/

/-- What was noted accounts for the breaker. -/
structure Accounts (limits : BreakerLimits) (history : List Note) (breaker : Breaker) : Prop where
  phase : phaseAfter history = breaker.phase
  closed_iff : breaker.phase = .closed ↔ (breaker.failures : Int) < limits.failureThreshold
  row : breaker.phase = .closed → failuresInRow history = breaker.failures
  last : breaker.phase ≠ .closed → lastFailure? history = some breaker.lastFailure
  opened : breaker.phase = .opened → ∃ note ∈ sinceTrial history, note.event.isFailure = true
  trial : breaker.phase = .halfOpen →
    (∀ note ∈ sinceTrial history, note.event.isFailure = false) ∧
      successes (sinceTrial history) = breaker.successes ∧ (breaker.successes : Int) < limits.successThreshold

variable {history : List Note} {breaker after : Breaker} {event : Event}

/-- What stays in its phase adds to the trial that is under way. -/
theorem sinceTrial_cons (note : Note) (stays : note.phase = .halfOpen → phaseAfter history = .halfOpen) :
    sinceTrial (note :: history) = note :: sinceTrial history := by
  rw [sinceTrial, if_neg]
  rintro ⟨trial, other⟩
  exact other (stays trial)

/-- A closed breaker accounts for the failures in a row. -/
theorem Accounts.of_closed {note : Note} (noted : note.phase = breaker.phase) (closed : breaker.phase = .closed)
    (row : failuresInRow (note :: history) = breaker.failures)
    (few : (breaker.failures : Int) < limits.failureThreshold) : Accounts limits (note :: history) breaker := by
  constructor
  case phase => exact noted
  case closed_iff => exact ⟨fun _ => few, fun _ => closed⟩
  case row => exact fun _ => row
  case last => exact fun tripped => absurd closed tripped
  case opened =>
    intro opened
    cases closed.symm.trans opened
  case trial =>
    intro halfOpen
    cases closed.symm.trans halfOpen

/-- What is no failure, and a success only while the breaker is open, is of no account. -/
theorem Accounts.idle (accounts : Accounts limits history breaker) (spared : event.isFailure = false)
    (late : event.isSuccess = true → breaker.phase = .opened) :
    Accounts limits (⟨now, event, breaker.phase⟩ :: history) breaker := by
  have idle (other : breaker.phase ≠ .opened) : event.isSuccess = false := by
    simpa using mt late other
  have trial := sinceTrial_cons ⟨now, event, breaker.phase⟩ accounts.phase.trans
  constructor
  case phase => rfl
  case closed_iff => exact accounts.closed_iff
  case row =>
    intro closed
    simpa [failuresInRow, spared, idle (by simp [closed])] using accounts.row closed
  case last =>
    intro tripped
    simpa [lastFailure?, spared] using accounts.last tripped
  case opened =>
    intro opened
    obtain ⟨note, listed, failed⟩ := accounts.opened opened
    exact ⟨note, trial ▸ .tail _ listed, failed⟩
  case trial =>
    intro halfOpen
    obtain ⟨clean, counted, few⟩ := accounts.trial halfOpen
    rw [trial]
    refine ⟨List.forall_mem_cons.mpr ⟨spared, clean⟩, ?_, few⟩
    simpa [successes, idle (by simp [halfOpen])] using counted

/-- An open breaker goes on trial. -/
theorem Accounts.tried (accounts : Accounts limits history breaker) (opened : breaker.phase = .opened)
    (trials : 1 ≤ limits.successThreshold) :
    Accounts limits (⟨now, .began true, .halfOpen⟩ :: history)
      { breaker with phase := .halfOpen, successes := 0 } := by
  have tripped : breaker.phase ≠ .closed := by simp [opened]
  have fresh : sinceTrial (⟨now, .began true, .halfOpen⟩ :: history) = [] := by
    rw [sinceTrial, if_pos ⟨rfl, by simp [accounts.phase, opened]⟩]
  constructor
  case phase => rfl
  case closed_iff =>
    have many := mt accounts.closed_iff.mpr tripped
    exact ⟨nofun, fun few => absurd few many⟩
  case row => exact nofun
  case last =>
    intro _
    simpa [lastFailure?, Event.isFailure] using accounts.last tripped
  case opened => exact nofun
  case trial =>
    intro _
    rw [fresh]
    exact ⟨nofun, rfl, Int.lt_of_lt_of_le Int.zero_lt_one trials⟩

/-- The phase after a failure: too many failures open the breaker, and fewer only leave it
closed. -/
theorem Accounts.failedAt_phase (accounts : Accounts limits history breaker) (now : Number) :
    ((breaker.failedAt limits now).phase = .opened ∧ limits.failureThreshold ≤ breaker.failures + 1) ∨
      ((breaker.failedAt limits now).phase = .closed ∧ breaker.phase = .closed ∧
        (breaker.failures : Int) + 1 < limits.failureThreshold) := by
  by_cases many : limits.failureThreshold ≤ breaker.failures + 1
  · exact .inl ⟨by simp [Breaker.failedAt, many], many⟩
  · have closed := accounts.closed_iff.mpr (by omega)
    exact .inr ⟨by simp [Breaker.failedAt, many, closed], closed, by omega⟩

theorem Accounts.failed (accounts : Accounts limits history breaker) (failed : event.isFailure = true) :
    Accounts limits (⟨now, event, (breaker.failedAt limits now).phase⟩ :: history)
      (breaker.failedAt limits now) := by
  have last : lastFailure? (⟨now, event, (breaker.failedAt limits now).phase⟩ :: history) = some now := by
    simp [lastFailure?, failed]
  rcases accounts.failedAt_phase now with ⟨opens, many⟩ | ⟨stays, closed, few⟩
  · constructor
    case phase => rfl
    case closed_iff =>
      rw [opens]
      refine ⟨nofun, fun few => ?_⟩
      simp only [Breaker.failedAt] at few
      omega
    case row =>
      intro closed
      cases opens.symm.trans closed
    case last => exact fun _ => last
    case opened =>
      intro _
      rw [sinceTrial_cons _ (by simp [opens])]
      exact ⟨_, .head _, failed⟩
    case trial =>
      intro halfOpen
      cases opens.symm.trans halfOpen
  · constructor
    case phase => rfl
    case closed_iff =>
      refine ⟨fun _ => ?_, fun _ => stays⟩
      simp only [Breaker.failedAt]
      omega
    case row =>
      intro _
      simpa [failuresInRow, failed, Breaker.failedAt] using accounts.row closed
    case last => exact fun _ => last
    case opened =>
      intro opened
      cases stays.symm.trans opened
    case trial =>
      intro halfOpen
      cases stays.symm.trans halfOpen

theorem Accounts.succeeded (accounts : Accounts limits history breaker) (positive : 1 ≤ limits.failureThreshold)
    (spared : event.isFailure = false) (succeeded : event.isSuccess = true) :
    Accounts limits (⟨now, event, (breaker.succeeded limits).phase⟩ :: history) (breaker.succeeded limits) := by
  have row (after : BreakerPhase) : failuresInRow (⟨now, event, after⟩ :: history) = 0 := by
    simp [failuresInRow, spared, succeeded]
  cases phase : breaker.phase with
  | opened =>
    have same : breaker.succeeded limits = breaker := by simp [Breaker.succeeded, phase]
    rw [same]
    exact accounts.idle spared fun _ => phase
  | closed =>
    have same : breaker.succeeded limits = { breaker with failures := 0 } := by
      simp [Breaker.succeeded, phase]
    rw [same]
    exact .of_closed rfl phase (row _) (Int.lt_of_lt_of_le Int.zero_lt_one positive)
  | halfOpen =>
    obtain ⟨clean, counted, few⟩ := accounts.trial phase
    by_cases enough : limits.successThreshold ≤ breaker.successes + 1
    · have same : breaker.succeeded limits =
          { breaker with phase := .closed, failures := 0, successes := breaker.successes + 1 } := by
        simp [Breaker.succeeded, phase, enough]
      rw [same]
      exact .of_closed rfl rfl (row _) (Int.lt_of_lt_of_le Int.zero_lt_one positive)
    · have same : breaker.succeeded limits = { breaker with successes := breaker.successes + 1 } := by
        simp [Breaker.succeeded, phase, enough]
      rw [same]
      have tripped : breaker.phase ≠ .closed := by simp [phase]
      have trial := sinceTrial_cons ⟨now, event, breaker.phase⟩ accounts.phase.trans
      constructor
      case phase => rfl
      case closed_iff => exact accounts.closed_iff
      case row => exact fun closed => absurd closed tripped
      case last =>
        intro _
        simpa [lastFailure?, spared] using accounts.last tripped
      case opened =>
        intro opened
        cases phase.symm.trans opened
      case trial =>
        intro _
        rw [trial]
        refine ⟨List.forall_mem_cons.mpr ⟨spared, clean⟩, ?_, by push_cast; omega⟩
        simpa [successes, succeeded] using counted

theorem Accounts.turn (accounts : Accounts limits history breaker) (positive : 1 ≤ limits.failureThreshold)
    (trials : 1 ≤ limits.successThreshold) (turned : Turned limits now breaker event after) :
    Accounts limits (⟨now, event, after.phase⟩ :: history) after := by
  cases turned with
  | heldBack | letThrough | abandoned => exact accounts.idle rfl nofun
  | tried opened passed => exact accounts.tried opened trials
  | failed failed => exact accounts.failed failed
  | succeeded spared => exact accounts.succeeded positive spared (by simp [Event.isSuccess, spared])

theorem Accounts.start (positive : 1 ≤ limits.failureThreshold) : Accounts limits [] {} := by
  constructor
  case phase => rfl
  case closed_iff => exact ⟨fun _ => Int.lt_of_lt_of_le Int.zero_lt_one positive, fun _ => rfl⟩
  case row => exact fun _ => rfl
  case last => exact fun tripped => absurd rfl tripped
  case opened => exact nofun
  case trial => exact nofun

theorem Reaches.accounts {line : Line} (reaches : Reaches service limits history line)
    (positive : 1 ≤ limits.failureThreshold) (trials : 1 ≤ limits.successThreshold) :
    line.Regular limits ∧ Accounts limits history line.breaker := by
  induction reaches with
  | start => exact ⟨nofun, .start positive⟩
  | move _ move ih =>
    obtain ⟨regular, accounts⟩ := ih
    obtain ⟨turned, regular⟩ := move.turned regular
    exact ⟨regular, accounts.turn positive trials turned⟩

/-! ## What the accounts tell -/

/-- How a breaker behaves at an event, by what was noted before. -/
structure Lawful (limits : BreakerLimits) (history : List Note) (now : Number) (before : Breaker)
    (event : Event) (after : Breaker) : Prop where
  /-- A closed breaker opens with the last of enough failures in a row. -/
  opens : before.phase = .closed →
    (after.phase ≠ .closed ↔
      event.isFailure = true ∧ (failuresInRow history : Int) + 1 = limits.failureThreshold)
  /-- While it is open, calls are held back until its time is over. -/
  rests : before.phase = .opened → ∀ isSent, event = .began isSent →
    ∃ last, lastFailure? history = some last ∧
      (isSent = true ↔ limits.recoveryTimeout.lt (now.sub last) = true)
  /-- By a clock of binary64 numbers this time has passed exactly, and not only as rounded. -/
  waits : before.phase = .opened → event = .began true →
    ∀ (x y z : Binary64) (time last timeout : ℚ), now = .real x → x.place? = some (placeOf time) →
      lastFailure? history = some (.real y) → y.place? = some (placeOf last) →
      z.IsCanonical → limits.recoveryTimeout.place? = z.place? → z.place? = some (placeOf timeout) →
      last + timeout < time
  /-- On trial, a single failure opens it again. -/
  reopens : before.phase = .halfOpen → event.isFailure = true → after.phase = .opened
  /-- It closes with the last of enough successes since it went on trial, with no failure
  in between. -/
  closes : before.phase ≠ .closed →
    (after.phase = .closed ↔ event.isSuccess = true ∧
      (∀ note ∈ sinceTrial history, note.event.isFailure = false) ∧
      (successes (sinceTrial history) : Int) + 1 = limits.successThreshold)
  /-- Every reply is counted as a failure or as a success. -/
  counts : ∀ reply, event = .heard reply →
    after = if reply.isFailure then before.failedAt limits now else before.succeeded limits
  /-- A call that was held back or given up is counted as neither. -/
  spares : event = .began false ∨ event = .abandoned → after = before

theorem Turned.opens (turned : Turned limits now breaker event after)
    (accounts : Accounts limits history breaker) (closed : breaker.phase = .closed) :
    after.phase ≠ .closed ↔
      event.isFailure = true ∧ (failuresInRow history : Int) + 1 = limits.failureThreshold := by
  have row := accounts.row closed
  have few := accounts.closed_iff.mp closed
  cases turned with
  | heldBack opened | tried opened => cases closed.symm.trans opened
  | letThrough | abandoned => simp [closed, Event.isFailure]
  | succeeded spared => simp [Breaker.succeeded, closed, Event.isFailure, spared]
  | failed failed =>
    rw [row]
    rcases accounts.failedAt_phase now with ⟨opens, many⟩ | ⟨stays, -, less⟩
    · simp only [opens, Event.isFailure, failed, ne_eq, reduceCtorEq, not_false_eq_true, true_and, true_iff]
      omega
    · simp only [stays, ne_eq, not_true_eq_false, false_iff, not_and]
      omega

theorem Turned.rests (turned : Turned limits now breaker event after)
    (accounts : Accounts limits history breaker) (opened : breaker.phase = .opened) {isSent : Bool}
    (began : event = .began isSent) :
    lastFailure? history = some breaker.lastFailure ∧
      (isSent = true ↔ limits.recoveryTimeout.lt (now.sub breaker.lastFailure) = true) := by
  refine ⟨accounts.last (by simp [opened]), ?_⟩
  cases turned with
  | heldBack _ early =>
    cases began
    simp [early]
  | tried _ passed =>
    cases began
    simp [passed]
  | letThrough other => exact absurd opened other
  | failed | succeeded | abandoned => cases began

theorem Turned.reopens (turned : Turned limits now breaker event after)
    (accounts : Accounts limits history breaker) (halfOpen : breaker.phase = .halfOpen)
    (failed : event.isFailure = true) : after.phase = .opened := by
  cases turned with
  | heldBack | tried | letThrough | abandoned => cases failed
  | succeeded spared =>
    rw [Event.isFailure, spared] at failed
    cases failed
  | failed =>
    rcases accounts.failedAt_phase now with ⟨opens, -⟩ | ⟨-, closed, -⟩
    · exact opens
    · cases closed.symm.trans halfOpen

theorem Turned.closes (turned : Turned limits now breaker event after)
    (accounts : Accounts limits history breaker) (tripped : breaker.phase ≠ .closed) :
    after.phase = .closed ↔ event.isSuccess = true ∧
      (∀ note ∈ sinceTrial history, note.event.isFailure = false) ∧
      (successes (sinceTrial history) : Int) + 1 = limits.successThreshold := by
  cases turned with
  | heldBack | letThrough | abandoned => simp [tripped, Event.isSuccess]
  | tried => simp [Event.isSuccess]
  | failed failed =>
    rcases accounts.failedAt_phase now with ⟨opens, -⟩ | ⟨-, closed, -⟩
    · simp [opens, Event.isSuccess, failed]
    · exact absurd closed tripped
  | succeeded spared =>
    cases phase : breaker.phase with
    | closed => exact absurd phase tripped
    | opened =>
      obtain ⟨note, listed, failed⟩ := accounts.opened phase
      refine ⟨fun closed => ?_, fun ⟨_, clean, _⟩ => ?_⟩
      · simp [Breaker.succeeded, phase] at closed
      · rw [clean note listed] at failed
        cases failed
    | halfOpen =>
      obtain ⟨clean, counted, few⟩ := accounts.trial phase
      have trusted : (breaker.succeeded limits).phase = .closed ↔
          limits.successThreshold ≤ breaker.successes + 1 := by
        by_cases enough : limits.successThreshold ≤ breaker.successes + 1
        · simp [Breaker.succeeded, phase, enough]
        · simp [Breaker.succeeded, phase, enough]
      rw [trusted, counted]
      constructor
      · intro enough
        exact ⟨by simp [Event.isSuccess, spared], clean, by omega⟩
      · rintro ⟨-, -, last⟩
        omega

theorem Turned.lawful (turned : Turned limits now breaker event after)
    (accounts : Accounts limits history breaker) : Lawful limits history now breaker event after := by
  constructor
  case opens => exact turned.opens accounts
  case rests => exact fun opened isSent began => ⟨_, turned.rests accounts opened began⟩
  case waits =>
    rintro opened began x y z time last timeout rfl here noted there canonical same stands
    obtain ⟨found, sent⟩ := turned.rests accounts opened began
    have since : breaker.lastFailure = .real y := Option.some.inj (found.symm.trans noted)
    rw [since] at sent
    exact Number.elapsed canonical here there same stands (sent.mp rfl)
  case reopens => exact turned.reopens accounts
  case closes => exact turned.closes accounts
  case counts =>
    rintro reply rfl
    cases turned with
    | failed failed => rw [if_pos failed]
    | succeeded spared => rw [if_neg (by simp [spared])]
  case spares =>
    intro idle
    cases turned with
    | heldBack | letThrough | abandoned => rfl
    | tried | failed | succeeded => rcases idle with began | gone <;> injections

/-- However many calls there are and however their turns fall, the breaker is closed
exactly while it has counted fewer failures than its limit, and every call finds it to behave
by what was noted. -/
theorem breaker_lawful {line : Line} (reaches : Reaches service limits history line)
    (positive : 1 ≤ limits.failureThreshold) (trials : 1 ≤ limits.successThreshold) :
    (line.breaker.phase = .closed ↔ (line.breaker.failures : Int) < limits.failureThreshold) ∧
    ∀ now event after, Move service limits now line event after →
      Lawful limits history now line.breaker event after.breaker := by
  obtain ⟨regular, accounts⟩ := reaches.accounts positive trials
  refine ⟨accounts.closed_iff, fun now event after move => ?_⟩
  obtain ⟨turned, -⟩ := move.turned regular
  exact turned.lawful accounts

/-- A request that timed out at 5 has opened the breaker, and 60 seconds later no call is sent
yet. -/
theorem timeout_keeps_breaker_open :
    let limits : BreakerLimits := ⟨1, 60, 1⟩
    let service : Service := ⟨"neynar", "https://api.neynar.com", 30, none⟩
    ∃ history line, Reaches service limits history line ∧ line.breaker.phase = .opened ∧
      ∀ after, ¬ Move service limits 65 line (.began true) after := by
  intro limits service
  let call : Call := { method := "GET", path := "/v2/farcaster/user/bulk" }
  let sent : Fetch Response := .ask (.send (service.requestOf call)) (service.afterReply call)
  have begun : Move service limits 1 {} (.began (isWaiting sent)) ⟨{}, Function.update (fun _ => none) 0 sent⟩ :=
    .begins call rfl (by rw [request_eq]; rfl)
  have heard : Move service limits 5 ⟨{}, Function.update (fun _ => none) 0 sent⟩ (.heard .timedOut)
      ⟨Breaker.failedAt limits 5 {}, Function.update (Function.update (fun _ => none) 0 sent) 0
        (some (.failed (.remote (.timedOut service.name (service.endpoint call)))))⟩ :=
    .hears .timedOut rfl rfl
  have reaches := (Reaches.start.move begun).move heard
  refine ⟨_, _, reaches, rfl, fun after move => ?_⟩
  obtain ⟨-, lawful⟩ := breaker_lawful reaches (by decide) (by decide)
  obtain ⟨last, noted, sent⟩ := (lawful 65 _ after move).rests rfl true rfl
  cases noted
  have early : limits.recoveryTimeout.lt ((65 : Number).sub 5) = false := by decide
  rw [early] at sent
  exact absurd (sent.mp rfl) Bool.false_ne_true

end Curation.Remote
