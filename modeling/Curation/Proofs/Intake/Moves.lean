import Curation.Proofs.Intake.Desk
import Curation.Rehearsal.Moderating
import Mathlib.Logic.Function.Basic
import Mathlib.Logic.Relation

/-! How deliveries go on. One makes moves from one stage to the next, which are cut where
the program looks at what others may change: rows are read and written in one go, and
each call to the cache and each question of moderation is a move of its own. Moves do
what the program does (`Move.sound`), and every run of the program is made of moves
(`takeIn_moved`).

Deliveries go on side by side. While the cache is in the process, taking and freeing a claim
lets nobody else have a turn; a delivery goes on up to where it has to wait. Where the
cache is on a server, others may go on after every single move, for as long as they
like. -/
namespace Curation.Intake

open Moderation
open Program (Runs MayAsk runs_bind answered_append)

variable {deployment : Deployment}

/-! ## How far a delivery is -/

/-- Looks at a cast of a channel that is moderated, up to the claim. -/
def admitInto (channel : Channel) (cast : Cast) : Moderation (String ⊕ Channel × Cast) := do
  if !channel.active then
    recordCast channel cast Store.ignored (.obj [])
    return .inl s!"Channel {channel.id} is not active"
  if ((← tables).cast? cast.hash).any fun row => row.status ≠ Store.failed then
    return .inl "Already processed"
  return .inr (channel, cast)

/-- Looks for the channel of a cast that starts a conversation. -/
def admitTo (channelId : String) (cast : Cast) : Moderation (String ⊕ Channel × Cast) := do
  match ← ((← tables).configuration? channelId : Except Failure (Option Channel)) with
  | none => return .inl s!"Channel {channelId} is not moderated"
  | some channel => admitInto channel cast

/-- Looks at an event up to the claim: what is answered at once, or the cast to moderate. -/
def admitEvent (event : Event) : Moderation (String ⊕ Channel × Cast) := do
  if event.type ≠ Event.castCreated then throw (.event .type)
  let some channelId := event.channel? | throw (.event .channel)
  match Cast.read .value (.obj event.data) with
  | .bad _ => throw (.event .cast)
  | .ok cast =>
    if cast.isReply then return .inl "Ignoring reply" else admitTo channelId cast

/-- An event brings a cast to a channel, and the cast starts a conversation. -/
structure Brings (event : Event) (channelId : String) (cast : Cast) : Prop where
  created : event.type = Event.castCreated
  named : event.channel? = some channelId
  read : Cast.read .value (.obj event.data) = .ok cast
  root : cast.isReply = false

/-- Records that a cast was moderated. -/
def recordSuccess (channel : Channel) (cast : Cast) (logs : List Log) : Moderation Unit :=
  recordCast channel cast Store.processed
    (.obj [("actions", .arr (logs.map fun log => .str log.action))])

/-- Records that the moderation of a cast failed. -/
def recordFailure (channel : Channel) (cast : Cast) (failure : Failure) : Moderation Unit := do
  rollback
  recordCast channel cast Store.failed (.obj [("error", .str failure.message)])

/-- How far a delivery is. -/
inductive Stage where
  | expected (event : Event)
  | claiming (channel : Channel) (cast : Cast)
  /-- The cast was claimed at a time and is being moderated. -/
  | inside (channel : Channel) (cast : Cast) (claimed : Number) (rest : Moderation (List Log))
  | releasing (channel : Channel) (cast : Cast) (failure : Failure)
  | released (channel : Channel) (cast : Cast) (failure : Failure)
  /-- Answered without moderating, or refused. -/
  | answered (outcome : Except Failure String)
  | processed (cast : Cast)
  | failed (cast : Cast) (failure : Failure)
  /-- The cast was moderated, but what became of it could not be recorded. -/
  | unrecorded (cast : Cast) (failure : Failure)

/-- What is left to be done of a delivery. -/
def Stage.program (deployment : Deployment) : Stage → Moderation String
  | .expected event => takeIn deployment event
  | .claiming channel cast => do
    if ← claim (claimKey cast) (.whole deployment.claimTime) then moderateClaimed deployment channel cast
    else return "Already processing"
  | .inside channel cast _ rest => do
    let logs ← tryCatch rest fun failure => do
      release (claimKey cast)
      recordFailure channel cast failure
      throw failure
    recordSuccess channel cast logs
    return s!"Processed {cast.hash}"
  | .releasing channel cast failure => do
    release (claimKey cast)
    recordFailure channel cast failure
    throw failure
  | .released channel cast failure => do
    recordFailure channel cast failure
    throw failure
  | .answered outcome => .ofExcept outcome
  | .processed cast => return s!"Processed {cast.hash}"
  | .failed _ failure | .unrecorded _ failure => throw failure

/-- One move of a delivery. Rows are read and written in one go; of moderation every
question is a move. -/
inductive Move (deployment : Deployment) : Desk → Stage → Desk → Stage → Prop where
  | answer {desk after : Desk} {event : Event} {transcript : Transcript} {text : String} :
    Runs (admitEvent event) transcript (.ok (.inl text)) → desk.Answered transcript after →
    Move deployment desk (.expected event) after (.answered (.ok text))
  | refuse {desk after : Desk} {event : Event} {transcript : Transcript} {failure : Failure} :
    Runs (admitEvent event) transcript (.error failure) → desk.Answered transcript after →
    Move deployment desk (.expected event) after (.answered (.error failure))
  | enter {desk after : Desk} {event : Event} {transcript : Transcript} {channel : Channel}
      {cast : Cast} :
    Runs (admitEvent event) transcript (.ok (.inr (channel, cast))) → desk.Answered transcript after →
    Move deployment desk (.expected event) after (.claiming channel cast)
  | claim {desk after : Desk} {channel : Channel} {cast : Cast} :
    desk.Answers (.claim (claimKey cast) (.whole deployment.claimTime)) true after →
    Move deployment desk (.claiming channel cast) after
      (.inside channel cast desk.now (moderateCast deployment channel cast false))
  | meet {desk after : Desk} {channel : Channel} {cast : Cast} :
    desk.Answers (.claim (claimKey cast) (.whole deployment.claimTime)) false after →
    Move deployment desk (.claiming channel cast) after (.answered (.ok "Already processing"))
  | ask {desk after : Desk} {channel : Channel} {cast : Cast} {claimed : Number} {question : Ask}
      {next : Answer question → Moderation (List Log)} {answer : Answer question} :
    desk.Answers question answer after →
    Move deployment desk (.inside channel cast claimed (.ask question next)) after
      (.inside channel cast claimed (next answer))
  | check {desk : Desk} {channel : Channel} {cast : Cast} {claimed : Number} {case : Case}
      {rule : Rule} {strategy : OrStrategy}
      {next : Answer (.evaluate case rule strategy) → Moderation (List Log)} {leaf : Condition}
      {question : Check.Ask} :
    MayAsk question (Rehearsal.taskOf deployment case leaf) →
    Move deployment desk (.inside channel cast claimed (.ask (.evaluate case rule strategy) next))
      (desk.letting question)
      (.inside channel cast claimed (.ask (.evaluate case rule strategy) next))
  | succeed {desk after : Desk} {channel : Channel} {cast : Cast} {claimed : Number}
      {logs : List Log} {transcript : Transcript} :
    Runs (recordSuccess channel cast logs) transcript (.ok ()) → desk.Answered transcript after →
    Move deployment desk (.inside channel cast claimed (.done logs)) after (.processed cast)
  | lose {desk after : Desk} {channel : Channel} {cast : Cast} {claimed : Number}
      {logs : List Log} {failure : Failure} {transcript : Transcript} :
    Runs (recordSuccess channel cast logs) transcript (.error failure) →
    desk.Answered transcript after →
    Move deployment desk (.inside channel cast claimed (.done logs)) after (.unrecorded cast failure)
  | fail {desk : Desk} {channel : Channel} {cast : Cast} {claimed : Number} {failure : Failure} :
    Move deployment desk (.inside channel cast claimed (.failed failure)) desk
      (.releasing channel cast failure)
  | release {desk after : Desk} {channel : Channel} {cast : Cast} {failure : Failure} :
    desk.Answers (.release (claimKey cast)) () after →
    Move deployment desk (.releasing channel cast failure) after (.released channel cast failure)
  | settle {desk after : Desk} {channel : Channel} {cast : Cast} {failure : Failure}
      {transcript : Transcript} :
    Runs (recordFailure channel cast failure) transcript (.ok ()) → desk.Answered transcript after →
    Move deployment desk (.released channel cast failure) after (.failed cast failure)
  | drop {desk after : Desk} {channel : Channel} {cast : Cast} {failure failure' : Failure}
      {transcript : Transcript} :
    Runs (recordFailure channel cast failure) transcript (.error failure') →
    desk.Answered transcript after →
    Move deployment desk (.released channel cast failure) after (.unrecorded cast failure')

/-! ## Moves and the program -/

/-- What follows on admission. -/
def proceed (deployment : Deployment) : String ⊕ Channel × Cast → Moderation String
  | .inl text => .done text
  | .inr (channel, cast) => (Stage.claiming channel cast).program deployment

theorem takeInto_eq (channel : Channel) (cast : Cast) :
    takeInto deployment channel cast = (admitInto channel cast).bind (proceed deployment) := by
  unfold takeInto admitInto
  cases active : channel.active with
  | false =>
    simp [Program.bind_assoc, Program.bind, proceed]
  | true =>
    simp only [Bool.not_true, Bool.false_eq_true, if_false, Program.bind_eq, Program.bind_assoc]
    congr 1
    funext tables
    split
    · rfl
    · rfl

theorem takeIn_eq (event : Event) :
    takeIn deployment event = (admitEvent event).bind (proceed deployment) := by
  unfold takeIn admitEvent
  by_cases created : event.type ≠ Event.castCreated
  · simp only [if_pos created]
    rfl
  simp only [if_neg created]
  cases event.channel? with
  | none => rfl
  | some channelId =>
    cases Cast.read .value (.obj event.data) with
    | bad issues => rfl
    | ok cast =>
      simp only
      cases cast.isReply with
      | true => rfl
      | false =>
        simp only [Bool.false_eq_true, if_false, admitTo, Program.bind_eq, Program.bind_assoc]
        congr 1
        funext tables
        congr 1
        funext found
        cases found with
        | none => rfl
        | some channel => exact takeInto_eq channel cast

/-- An event brings a cast, or is answered or refused without a look at the store. -/
theorem admitEvent_cases (event : Event) :
    (∃ text, admitEvent event = .done (.inl text)) ∨
      (∃ fault, admitEvent event = .failed (.event fault)) ∨
      ∃ channelId cast, Brings event channelId cast := by
  unfold admitEvent
  by_cases created : event.type ≠ Event.castCreated
  · exact .inr (.inl ⟨.type, by simp only [if_pos created]; rfl⟩)
  · simp only [if_neg created]
    cases named : event.channel? with
    | none => exact .inr (.inl ⟨_, rfl⟩)
    | some channelId =>
      cases read : Cast.read .value (.obj event.data) with
      | bad issues => exact .inr (.inl ⟨_, rfl⟩)
      | ok cast =>
        cases root : cast.isReply with
        | true => exact .inl ⟨_, by simp only [root]; rfl⟩
        | false => exact .inr (.inr ⟨channelId, cast, Decidable.not_not.mp created, named, read, root⟩)

theorem Brings.admitEvent_eq {event : Event} {channelId : String} {cast : Cast}
    (brings : Brings event channelId cast) : admitEvent event = admitTo channelId cast := by
  simp [admitEvent, brings.created, brings.named, brings.read, brings.root]

theorem inside_eq (channel : Channel) (cast : Cast) (claimed : Number) :
    (Stage.inside channel cast claimed (moderateCast deployment channel cast false)).program deployment =
      moderateClaimed deployment channel cast := by
  simp only [Stage.program, moderateClaimed, recordFailure, recordSuccess, Program.bind_eq,
    Program.bind_assoc]

theorem failed_eq (channel : Channel) (cast : Cast) (claimed : Number) (failure : Failure) :
    (Stage.inside channel cast claimed (.failed failure)).program deployment =
      (Stage.releasing channel cast failure).program deployment := by
  have recovered (rest : Failure → Moderation (List Log)) :
      (tryCatch (.failed failure) rest : Moderation (List Log)) = rest failure := rfl
  simp only [Stage.program, recovered, Program.bind_eq, Program.bind_assoc]
  rfl

theorem done_eq (channel : Channel) (cast : Cast) (claimed : Number) (logs : List Log) :
    (Stage.inside channel cast claimed (.done logs)).program deployment =
      (recordSuccess channel cast logs).bind fun _ => .done s!"Processed {cast.hash}" := rfl

/-- A move does as the program says: what is left to be done afterwards goes on a run of
what was left before. Only checks at work are no part of it. -/
theorem Move.sound {desk after : Desk} {stage stage' : Stage}
    (move : Move deployment desk stage after stage') :
    stage' = stage ∨ ∃ transcript, desk.Answered transcript after ∧ ∀ later outcome,
      Runs (stage'.program deployment) later outcome →
        Runs (stage.program deployment) (transcript ++ later) outcome := by
  cases move with
  | check => exact .inl rfl
  | answer admitted answered | enter admitted answered =>
    refine .inr ⟨_, answered, fun later outcome run => ?_⟩
    rw [Stage.program, takeIn_eq]
    exact runs_bind.mpr (.inr ⟨_, _, _, rfl, admitted, run⟩)
  | refuse admitted answered =>
    refine .inr ⟨_, answered, fun later outcome run => ?_⟩
    cases run
    rw [Stage.program, takeIn_eq, List.append_nil]
    exact runs_bind.mpr (.inl ⟨_, rfl, admitted⟩)
  | claim taken =>
    refine .inr ⟨_, .cons taken (.nil _), fun later outcome run => ?_⟩
    rw [inside_eq] at run
    exact .ask _ run
  | meet taken => exact .inr ⟨_, .cons taken (.nil _), fun later outcome run => .ask _ run⟩
  | ask answers => exact .inr ⟨_, .cons answers (.nil _), fun later outcome run => .ask _ run⟩
  | succeed recorded answered =>
    refine .inr ⟨_, answered, fun later outcome run => ?_⟩
    rw [done_eq]
    exact runs_bind.mpr (.inr ⟨_, _, _, rfl, recorded, run⟩)
  | settle recorded answered =>
    exact .inr ⟨_, answered, fun later outcome run =>
      runs_bind.mpr (.inr ⟨_, _, _, rfl, recorded, run⟩)⟩
  | lose recorded answered =>
    refine .inr ⟨_, answered, fun later outcome run => ?_⟩
    cases run
    rw [done_eq, List.append_nil]
    exact runs_bind.mpr (.inl ⟨_, rfl, recorded⟩)
  | drop recorded answered =>
    refine .inr ⟨_, answered, fun later outcome run => ?_⟩
    cases run
    rw [List.append_nil]
    exact runs_bind.mpr (.inl ⟨_, rfl, recorded⟩)
  | fail =>
    refine .inr ⟨[], .nil _, fun later outcome run => ?_⟩
    rw [failed_eq]
    exact run
  | release freed => exact .inr ⟨_, .cons freed (.nil _), fun later outcome run => .ask _ run⟩

/-- What a delivery has come to, if it is at an end. -/
def Stage.outcome? : Stage → Option (Except Failure String)
  | .answered outcome => some outcome
  | .processed cast => some (.ok s!"Processed {cast.hash}")
  | .failed _ failure | .unrecorded _ failure => some (.error failure)
  | _ => none

/-- A delivery that is at an end makes no move. -/
theorem Move.not_ended {desk after : Desk} {stage stage' : Stage}
    (move : Move deployment desk stage after stage') : stage.outcome? = none := by
  cases move with
  | answer | refuse | enter | claim | meet | ask | check | succeed | lose | fail | release | settle
  | drop => rfl

/-- Moves of a delivery while no other has a turn. -/
abbrev Moves (deployment : Deployment) : Desk × Stage → Desk × Stage → Prop :=
  Relation.ReflTransGen fun before after => Move deployment before.1 before.2 after.1 after.2

/-- The program of a delivery is run by moves. -/
def IsMoved (deployment : Deployment) (stage : Stage) : Prop :=
  ∀ {desk after : Desk} {transcript : Transcript} {outcome : Except Failure String},
    Runs (stage.program deployment) transcript outcome → desk.Answered transcript after →
      ∃ stage', Moves deployment (desk, stage) (after, stage') ∧ stage'.outcome? = some outcome

private theorem released_moved (channel : Channel) (cast : Cast) (failure : Failure) :
    IsMoved deployment (.released channel cast failure) := by
  intro desk after transcript outcome run answered
  rcases runs_bind.mp run with ⟨failure', rfl, recorded⟩ | ⟨_, _, _, rfl, recorded, run⟩
  · exact ⟨_, .single (.drop recorded answered), rfl⟩
  · cases run
    rw [List.append_nil] at answered
    exact ⟨_, .single (.settle recorded answered), rfl⟩

private theorem releasing_moved (channel : Channel) (cast : Cast) (failure : Failure) :
    IsMoved deployment (.releasing channel cast failure) := by
  intro desk after transcript outcome run answered
  cases run with
  | ask _ run =>
  cases answered with
  | cons freed answered =>
  obtain ⟨stage', moves, ended⟩ := released_moved channel cast failure run answered
  exact ⟨stage', .head (.release freed) moves, ended⟩

private theorem inside_moved (channel : Channel) (cast : Cast) (claimed : Number)
    (rest : Moderation (List Log)) : IsMoved deployment (.inside channel cast claimed rest) := by
  intro desk after transcript outcome run answered
  -- The induction is on what is left of moderation, one question a move.
  induction rest generalizing desk transcript with
  | done logs =>
    rw [done_eq] at run
    rcases runs_bind.mp run with ⟨failure, rfl, recorded⟩ | ⟨_, _, _, rfl, recorded, run⟩
    · exact ⟨_, .single (.lose recorded answered), rfl⟩
    · cases run
      rw [List.append_nil] at answered
      exact ⟨_, .single (.succeed recorded answered), rfl⟩
  | failed failure =>
    rw [failed_eq] at run
    obtain ⟨stage', moves, ended⟩ := releasing_moved channel cast failure run answered
    exact ⟨stage', .head .fail moves, ended⟩
  | ask question next ih =>
    cases run with
    | ask answer run =>
    cases answered with
    | cons answers answered =>
    obtain ⟨stage', moves, ended⟩ := ih answer run answered
    exact ⟨stage', .head (.ask answers) moves, ended⟩

private theorem claiming_moved (channel : Channel) (cast : Cast) :
    IsMoved deployment (.claiming channel cast) := by
  intro desk after transcript outcome run answered
  cases run with
  | ask taken run =>
  cases answered with
  | cons claims answered =>
  cases taken with
  | true =>
    have run : Runs (moderateClaimed deployment channel cast) _ outcome := run
    rw [← inside_eq channel cast desk.now] at run
    obtain ⟨stage', moves, ended⟩ := inside_moved channel cast _ _ run answered
    exact ⟨stage', .head (.claim claims) moves, ended⟩
  | false =>
    cases run
    cases answered
    exact ⟨_, .single (.meet claims), rfl⟩

/-- While a cast is moderated, a run of what is left goes by moves as well. -/
theorem moderation_moved (channel : Channel) (cast : Cast) (claimed : Number)
    {rest : Moderation (List Log)} {desk after : Desk} {transcript : Transcript}
    {outcome : Except Failure (List Log)} (run : Runs rest transcript outcome)
    (answered : desk.Answered transcript after) :
    Moves deployment (desk, .inside channel cast claimed rest)
      (after, .inside channel cast claimed (.ofExcept outcome)) := by
  induction run generalizing desk with
  | done | failed =>
    cases answered
    exact .refl
  | ask answer _ ih =>
    cases answered with
    | cons answers answered => exact .head (.ask answers) (ih answered)

/-- A delivery that is alone goes by moves from any event to the outcome of the program. -/
theorem takeIn_moved (event : Event) : IsMoved deployment (.expected event) := by
  intro desk after transcript outcome run answered
  rw [Stage.program, takeIn_eq] at run
  rcases runs_bind.mp run with ⟨failure, rfl, admitted⟩ | ⟨_, admission, _, rfl, admitted, run⟩
  · exact ⟨_, .single (.refuse admitted answered), rfl⟩
  · obtain ⟨between, looked, answered⟩ := answered_append.mp answered
    cases admission with
    | inl text =>
      cases run
      cases answered
      exact ⟨_, .single (.answer admitted looked), rfl⟩
    | inr admission =>
      obtain ⟨channel, cast⟩ := admission
      obtain ⟨stage', moves, ended⟩ := claiming_moved channel cast run answered
      exact ⟨stage', .head (.enter admitted looked) moves, ended⟩

/-! ## Turns -/

open Store (Change Tables)

/-- Whether others can have a turn here while the cache is in the process. -/
def Stage.isResting : Stage → Bool
  | .claiming .. | .releasing .. | .released .. => false
  | _ => true

/-- Moves up to where others can have a turn. -/
inductive Turn (deployment : Deployment) : Desk → Stage → Desk → Stage → Prop where
  | last {desk after : Desk} {stage stage' : Stage} :
    Move deployment desk stage after stage' → stage'.isResting = true →
    Turn deployment desk stage after stage'
  | more {desk between after : Desk} {stage stage' stage'' : Stage} :
    Move deployment desk stage between stage' → stage'.isResting = false →
    Turn deployment between stage' after stage'' → Turn deployment desk stage after stage''

/-! ## All deliveries -/

structure Delivery where
  stage : Stage
  pending : List Change := []

/-- All deliveries there will be, with what they share. -/
structure State where
  committed : Tables
  cache : Cache
  now : Number
  deliveries : Nat → Delivery

namespace State

/-- What a delivery works with. -/
def desk (state : State) (i : Nat) : Desk :=
  ⟨state.committed, (state.deliveries i).pending, state.cache, state.now⟩

def stage (state : State) (i : Nat) : Stage := (state.deliveries i).stage

/-- A delivery has gone on to a stage and left its desk so. -/
def put (state : State) (i : Nat) (desk : Desk) (stage : Stage) : State :=
  ⟨desk.committed, desk.cache, desk.now,
    Function.update state.deliveries i ⟨stage, desk.pending⟩⟩

@[simp] theorem stage_put_self (state : State) (i : Nat) (desk : Desk) (stage : Stage) :
    (state.put i desk stage).stage i = stage := by
  simp [State.stage, put]

theorem stage_put_other {i j : Nat} (apart : j ≠ i) (state : State) (desk : Desk) (stage : Stage) :
    (state.put i desk stage).stage j = state.stage j := by
  simp [State.stage, put, apart]

@[simp] theorem desk_put_self (state : State) (i : Nat) (desk : Desk) (stage : Stage) :
    (state.put i desk stage).desk i = desk := by
  simp [State.desk, put]

@[simp] theorem put_put (state : State) (i : Nat) (desk desk' : Desk) (stage stage' : Stage) :
    (state.put i desk stage).put i desk' stage' = state.put i desk' stage' := by
  simp [put]

theorem put_self {state : State} {i : Nat} {stage : Stage} (here : state.stage i = stage) :
    state.put i (state.desk i) stage = state := by
  subst here
  simp [put, desk, State.stage]

/-- No delivery has begun. -/
def IsFresh (state : State) : Prop := ∀ i, ∃ event, state.deliveries i = ⟨.expected event, []⟩

theorem IsFresh.stage {state : State} (fresh : state.IsFresh) (i : Nat) :
    ∃ event, state.stage i = .expected event := by
  obtain ⟨event, same⟩ := fresh i
  exact ⟨event, by rw [State.stage, same]⟩

/-- A delivery is moderating a cast of this hash. -/
def IsInside (state : State) (hash : String) (i : Nat) : Prop :=
  ∃ channel cast claimed rest, state.stage i = .inside channel cast claimed rest ∧ cast.hash = hash

end State

/-- One of the deliveries has a turn, or time passes. -/
inductive Step (turn : Desk → Stage → Desk → Stage → Prop) : State → State → Prop where
  | turn {state : State} {desk : Desk} {stage : Stage} (i : Nat) :
    turn (state.desk i) (state.stage i) desk stage → Step turn state (state.put i desk stage)
  | pass {state : State} {time : Number} :
    state.now.le time = true → Step turn state { state with now := time }

variable {state : State} {desk after : Desk} {stage stage' : Stage}

/-- Deliveries make their moves in any order. -/
abbrev Interleaves (deployment : Deployment) : State → State → Prop :=
  Relation.ReflTransGen (Step (Move deployment))

/-- Moves that one delivery makes while the others wait. -/
theorem Moves.interleaves {i : Nat} (here : state.stage i = stage)
    (moves : Moves deployment (state.desk i, stage) (after, stage')) :
    Interleaves deployment state (state.put i after stage') := by
  generalize ended : (after, stage') = goal at moves
  induction moves generalizing after stage' with
  | refl =>
    obtain ⟨rfl, rfl⟩ := Prod.mk.inj ended
    rw [State.put_self here]
  | @tail between _ _ move ih =>
    subst ended
    have turn : Move deployment ((state.put i between.1 between.2).desk i)
        ((state.put i between.1 between.2).stage i) after stage' := by
      rwa [State.desk_put_self, State.stage_put_self]
    have step := Step.turn i turn
    rw [State.put_put] at step
    exact (ih rfl).tail step

end Curation.Intake
