import Curation.Proofs.Intake.Owners
import Curation.Proofs.Intake.Visits

/-! Casts are moderated once. While the cache is in the process, a cast is claimed by at
most one delivery, which frees its claim only with a row that says so; and when it was
moderated, the row keeps all others from it. -/
namespace Curation.Intake

open Moderation
open Program (Runs)
open Store (Tables Change)

variable {deployment : Deployment} {desk after : Desk} {stage : Stage} {state : State}

/-! ## All deliveries -/

/-- Every delivery that is moderating does so before its claim runs out. -/
def State.IsTimely (deployment : Deployment) (state : State) : Prop :=
  ∀ i channel cast claimed rest, state.stage i = .inside channel cast claimed rest →
    state.now.lt (claimed.add (.whole deployment.claimTime)) = true

/-- What became of casts could always be recorded. -/
def State.IsRecorded (state : State) : Prop := ∀ i cast failure, state.stage i ≠ .unrecorded cast failure

/-- A delivery has moderated a cast of this hash, and recorded it. -/
def State.HasProcessed (state : State) (hash : String) (i : Nat) : Prop :=
  ∃ cast, state.stage i = .processed cast ∧ cast.hash = hash

/-- The cast that a delivery moderates, or has moderated. -/
def Stage.cast? : Stage → Option Cast
  | .inside _ cast _ _ | .processed cast => some cast
  | _ => none

/-- A delivery moderates a cast of this hash, or has done so. -/
def State.Has (state : State) (hash : String) (i : Nat) : Prop :=
  ∃ cast, (state.stage i).cast? = some cast ∧ cast.hash = hash

theorem State.IsInside.has {hash : String} {i : Nat} (inside : state.IsInside hash i) :
    state.Has hash i := by
  obtain ⟨channel, cast, claimed, rest, here, same⟩ := inside
  exact ⟨cast, by rw [here]; rfl, same⟩

theorem State.HasProcessed.has {hash : String} {i : Nat} (processed : state.HasProcessed hash i) :
    state.Has hash i := by
  obtain ⟨cast, here, same⟩ := processed
  exact ⟨cast, by rw [here]; rfl, same⟩

theorem State.Has.cases {hash : String} {i : Nat} (has : state.Has hash i) :
    state.IsInside hash i ∨ state.HasProcessed hash i := by
  obtain ⟨cast, here, same⟩ := has
  cases shape : state.stage i with
  | inside channel other claimed rest =>
    rw [shape] at here
    cases here
    exact .inl ⟨channel, cast, claimed, rest, shape, same⟩
  | processed other =>
    rw [shape] at here
    cases here
    exact .inr ⟨cast, shape, same⟩
  | expected | claiming | releasing | released | answered | failed | unrecorded =>
    rw [shape] at here
    cases here

/-- What holds whenever a delivery may have a turn. -/
structure Inv (deployment : Deployment) (state : State) : Prop where
  memory : state.cache.backend = .memory
  resting : ∀ i, (state.stage i).isResting = true
  tidy : state.IsTidy
  /-- Who moderates a cast holds the claim to it. -/
  claims : ∀ i channel cast claimed rest, state.stage i = .inside channel cast claimed rest →
    ∃ value, state.cache.Holds (claimKey cast) ⟨claimed.add (.whole deployment.claimTime), value⟩ state.now
  alone : ∀ hash i j, state.Has hash i → state.Has hash j → i = j
  done : ∀ hash i, state.HasProcessed hash i → state.committed.IsDone hash

namespace State

theorem IsFresh.has_none (fresh : state.IsFresh) {hash : String} (i : Nat) : ¬ state.Has hash i := by
  rintro ⟨cast, here, -⟩
  obtain ⟨event, same⟩ := fresh.stage i
  rw [same] at here
  cases here

theorem has_put_other {i j : Nat} (apart : j ≠ i) {hash : String} {desk : Desk} {stage : Stage} :
    (state.put i desk stage).Has hash j ↔ state.Has hash j := by
  simp only [Has, stage_put_other apart]

theorem has_put_self {i : Nat} {hash : String} {desk : Desk} {stage : Stage} :
    (state.put i desk stage).Has hash i ↔ ∃ cast, stage.cast? = some cast ∧ cast.hash = hash := by
  simp only [Has, stage_put_self]

end State

namespace Inv

/-- What a delivery has to see to when it goes on to a stage, so that all others find
what they rely on. -/
theorem put {i : Nat} (inv : Inv deployment state) (memory : after.cache.backend = .memory)
    (now : after.now = state.now) (resting : stage.isResting = true) (tidy : IsTidy after stage)
    (claims : ∀ channel cast claimed rest, stage = .inside channel cast claimed rest → ∃ value,
      after.cache.Holds (claimKey cast) ⟨claimed.add (.whole deployment.claimTime), value⟩ state.now)
    (others : ∀ cast entry j, j ≠ i → state.IsInside cast.hash j →
      state.cache.Holds (claimKey cast) entry state.now → after.cache.Holds (claimKey cast) entry state.now)
    (alone : ∀ cast j, j ≠ i → stage.cast? = some cast → ¬ state.Has cast.hash j)
    (done : ∀ hash j, j ≠ i → state.HasProcessed hash j → after.committed.IsDone hash)
    (settled : ∀ cast, stage = .processed cast → after.committed.IsDone cast.hash) :
    Inv deployment (state.put i after stage) where
  memory := memory
  resting j := by
    by_cases same : j = i
    · subst same
      rwa [State.stage_put_self]
    · rw [State.stage_put_other same]
      exact inv.resting j
  tidy := inv.tidy.put tidy
  claims j channel cast claimed rest here := by
    have time : (state.put i after stage).now = state.now := now
    rw [time]
    by_cases same : j = i
    · subst same
      rw [State.stage_put_self] at here
      exact claims channel cast claimed rest here
    · rw [State.stage_put_other same] at here
      obtain ⟨value, holds⟩ := inv.claims j channel cast claimed rest here
      exact ⟨value, others cast _ j same ⟨channel, cast, claimed, rest, here, rfl⟩ holds⟩
  alone hash j k first second := by
    by_cases same : j = i
    · subst same
      by_cases same : k = j
      · exact same.symm
      · obtain ⟨cast, here, rfl⟩ := State.has_put_self.mp first
        exact (alone cast k same here (State.has_put_other same |>.mp second)).elim
    · by_cases same' : k = i
      · subst same'
        obtain ⟨cast, here, rfl⟩ := State.has_put_self.mp second
        exact (alone cast j same here (State.has_put_other same |>.mp first)).elim
      · exact inv.alone hash j k (State.has_put_other same |>.mp first)
          (State.has_put_other same' |>.mp second)
  done hash j processed := by
    obtain ⟨cast, here, rfl⟩ := processed
    by_cases same : j = i
    · subst same
      rw [State.stage_put_self] at here
      exact settled cast here
    · rw [State.stage_put_other same] at here
      exact done cast.hash j same ⟨cast, here, rfl⟩

/-- A delivery that is through with its cast, or never had one, only has to leave alone
what others rely on. -/
theorem put_through {i : Nat} (inv : Inv deployment state) (memory : after.cache.backend = .memory)
    (now : after.now = state.now) (resting : stage.isResting = true) (tidy : IsTidy after stage)
    (through : stage.cast? = none)
    (others : ∀ cast entry j, j ≠ i → state.IsInside cast.hash j →
      state.cache.Holds (claimKey cast) entry state.now → after.cache.Holds (claimKey cast) entry state.now)
    (done : ∀ hash j, j ≠ i → state.HasProcessed hash j → after.committed.IsDone hash) :
    Inv deployment (state.put i after stage) := by
  refine inv.put memory now resting tidy ?claims others ?alone done ?settled
  case claims =>
    rintro channel cast claimed rest rfl
    cases through
  case alone =>
    intro cast j _ here
    rw [through] at here
    cases here
  case settled =>
    rintro cast rfl
    cases through

/-- While a cast is moderated, no other delivery does so or has done so. -/
theorem elsewhere {i j : Nat} {channel : Channel} {cast : Cast} {claimed : Number}
    {rest : Moderation (List Log)} (inv : Inv deployment state)
    (here : state.stage i = .inside channel cast claimed rest) (apart : j ≠ i) :
    ¬ state.Has cast.hash j := fun has =>
  apart (inv.alone cast.hash j i has ⟨cast, by rw [here]; rfl, rfl⟩)

/-- Who moderates a cast holds its claim, and who has done so has left a row, so nobody has
a cast that is free and not done. -/
theorem nowhere {i j : Nat} {cast : Cast} (inv : Inv deployment state)
    (free : (state.desk i).isFree deployment cast = true) (undone : ¬ state.committed.IsDone cast.hash) :
    ¬ state.Has cast.hash j := by
  intro has
  rcases has.cases with ⟨_, other, claimed, rest, inside, same⟩ | processed
  · obtain ⟨value, holds⟩ := inv.claims j _ other claimed rest inside
    have key : claimKey other = claimKey cast := by rw [claimKey, claimKey, same]
    rw [key] at holds
    have refused : (state.desk i).isFree deployment cast = false :=
      Cache.claim_held inv.memory holds
    exact Bool.false_ne_true (refused.symm.trans free)
  · exact undone (inv.done cast.hash j processed)

/-- A turn of a delivery keeps what holds. -/
theorem turn {i : Nat} (inv : Inv deployment state)
    (turn : Turn deployment (state.desk i) (state.stage i) after stage)
    (timely : (state.put i after stage).IsTimely deployment)
    (recorded : (state.put i after stage).IsRecorded) : Inv deployment (state.put i after stage) := by
  have tidy := turn.tidy (inv.tidy i)
  have visit := turn.visit inv.memory (inv.tidy i) (inv.resting i)
  generalize here : state.stage i = before at visit
  cases visit with
  | answered leaves =>
    refine inv.put_through ?_ leaves.now rfl tidy rfl ?_ ?_
    · rw [leaves.cache]
      exact inv.memory
    · intro cast entry j _ _ holds
      rwa [leaves.cache]
    · exact fun hash j _ processed => leaves.done hash (inv.done hash j processed)
  | met =>
    refine inv.put_through (Cache.write_memory inv.memory true) rfl rfl tidy rfl ?_ ?_
    · exact fun cast entry j _ _ holds => Cache.claim_holds inv.memory holds _
    · exact fun hash j _ processed => inv.done hash j processed
  | @admitted event channel cast undone taken =>
    refine inv.put (Cache.write_memory inv.memory true) rfl rfl tidy ?claims ?others ?alone
      (fun hash j _ processed => inv.done hash j processed) (by simp)
    case claims =>
      intro channel' cast' claimed rest same
      obtain ⟨rfl, rfl, rfl, rfl⟩ := Stage.inside.inj same
      have live := timely i _ _ _ _ (State.stage_put_self ..)
      exact ⟨.int 1, Cache.claim_found inv.memory taken, live⟩
    case others => exact fun cast' entry j _ _ holds => Cache.claim_holds inv.memory holds _
    case alone =>
      intro cast' j _ same
      cases same
      exact inv.nowhere taken undone
  | @worked after channel cast claimed rest rest' works honours =>
    obtain ⟨memory, honours⟩ := honours
    refine inv.put memory works.now rfl tidy ?claims ?others ?alone ?done (by simp)
    case claims =>
      intro channel' cast' claimed' rest same
      obtain ⟨rfl, rfl, rfl, rfl⟩ := Stage.inside.inj same
      obtain ⟨value, holds⟩ := inv.claims i _ _ _ _ here
      exact ⟨value, honours _ _ holds⟩
    case others => exact fun cast' entry j _ _ holds => honours _ _ holds
    case alone =>
      intro cast' j apart same
      cases same
      exact inv.elsewhere here apart
    case done => exact fun hash j _ processed => (inv.done hash j processed).of_casts works.casts
  | @processed channel cast claimed rest row same status =>
    refine inv.put inv.memory rfl rfl tidy (by simp) (fun _ _ _ _ _ holds => holds) ?alone ?done
      ?settled
    case alone =>
      intro cast' j apart same
      cases same
      exact inv.elsewhere here apart
    case done =>
      intro hash j apart processed
      refine Tables.IsDone.written ?_ ?_
      · exact (inv.done hash j processed).of_casts (Desk.tables_casts (inv.tidy i).spares)
      · rintro rfl
        rw [same] at processed
        exact inv.elsewhere here apart processed.has
    case settled =>
      intro cast' same'
      cases same'
      rw [← same]
      refine Store.isDone_written ?_ _
      rw [status]
      decide
  | @failed channel cast claimed rest failure row same =>
    refine inv.put_through (Cache.release_memory inv.memory) rfl rfl tidy rfl ?others ?done
    case others =>
      intro cast' entry j apart inside holds
      refine Cache.release_holds inv.memory holds fun keys => ?_
      rw [claimKey_inj keys] at inside
      exact inv.elsewhere here apart inside.has
    case done =>
      intro hash j apart processed
      refine (inv.done hash j processed).written ?_
      rintro rfl
      rw [same] at processed
      exact inv.elsewhere here apart processed.has
  | unrecorded => exact (recorded i _ _ (State.stage_put_self ..)).elim

/-- While no claim runs out, time passes without a change. -/
theorem pass (inv : Inv deployment state) {time : Number}
    (timely : ({ state with now := time } : State).IsTimely deployment) :
    Inv deployment { state with now := time } where
  memory := inv.memory
  resting := inv.resting
  tidy := inv.tidy.pass time
  claims i channel cast claimed rest here := by
    obtain ⟨value, holds⟩ := inv.claims i channel cast claimed rest here
    exact ⟨value, holds.found, timely i channel cast claimed rest here⟩
  alone := inv.alone
  done := inv.done

theorem of_fresh (fresh : state.IsFresh) (memory : state.cache.backend = .memory) :
    Inv deployment state where
  memory := memory
  resting i := by
    obtain ⟨event, same⟩ := fresh.stage i
    rw [same]
    rfl
  tidy := fresh.tidy
  claims i channel cast claimed rest here := by
    obtain ⟨event, same⟩ := fresh.stage i
    rw [same] at here
    cases here
  alone hash i j has _ := (fresh.has_none i has).elim
  done hash i processed := (fresh.has_none i processed.has).elim

end Inv

/-! ## Runs -/

/-- States that are reached while no claim runs out and every row can be written. -/
abbrev Reaches (deployment : Deployment) : State → State → Prop :=
  Relation.ReflTransGen fun before after =>
    Step (Turn deployment) before after ∧ after.IsTimely deployment ∧ after.IsRecorded

theorem Reaches.inv {start : State} (run : Reaches deployment start state)
    (inv : Inv deployment start) : Inv deployment state := by
  induction run with
  | refl => exact inv
  | tail _ last ih =>
    obtain ⟨step, timely, recorded⟩ := last
    cases step with
    | turn i turn => exact ih.turn turn timely recorded
    | pass _ => exact ih.pass timely

theorem State.IsTimely.put {i : Nat} (timely : state.IsTimely deployment)
    (now : after.now = state.now)
    (own : ∀ channel cast claimed rest, stage = .inside channel cast claimed rest →
      state.now.lt (claimed.add (.whole deployment.claimTime)) = true) :
    (state.put i after stage).IsTimely deployment := by
  intro j channel cast claimed rest here
  have same : (state.put i after stage).now = state.now := now
  rw [same]
  by_cases apart : j = i
  · subst apart
    rw [State.stage_put_self] at here
    exact own channel cast claimed rest here
  · rw [State.stage_put_other apart] at here
    exact timely j channel cast claimed rest here

theorem State.IsRecorded.put {i : Nat} (recorded : state.IsRecorded)
    (own : ∀ cast failure, stage ≠ .unrecorded cast failure) : (state.put i after stage).IsRecorded := by
  intro j cast failure here
  by_cases apart : j = i
  · subst apart
    rw [State.stage_put_self] at here
    exact own cast failure here
  · rw [State.stage_put_other apart] at here
    exact recorded j cast failure here

theorem State.IsFresh.timely (fresh : state.IsFresh) : state.IsTimely deployment := by
  intro i channel cast claimed rest here
  obtain ⟨event, same⟩ := fresh.stage i
  rw [same] at here
  cases here

theorem State.IsFresh.recorded (fresh : state.IsFresh) : state.IsRecorded := by
  intro i cast failure here
  obtain ⟨event, same⟩ := fresh.stage i
  rw [same] at here
  cases here

/-- A delivery that nobody interrupts gets to the end of its moderation. -/
theorem Reaches.moderation {i : Nat} {channel : Channel} {cast : Cast} {claimed : Number}
    {rest : Moderation (List Log)} {transcript : Transcript} {outcome : Except Failure (List Log)}
    (timely : state.IsTimely deployment) (recorded : state.IsRecorded)
    (here : state.stage i = .inside channel cast claimed rest) (run : Runs rest transcript outcome)
    (answered : (state.desk i).Answered transcript after) :
    Reaches deployment state (state.put i after (.inside channel cast claimed (.ofExcept outcome))) := by
  induction run generalizing state with
  | done | failed =>
    cases answered
    rw [Program.ofExcept, State.put_self here]
  | @ask question next _ _ answer _ ih =>
    cases answered with
    | @cons _ between _ _ _ _ answers answered =>
    have turn : Turn deployment (state.desk i) (state.stage i) between
        (.inside channel cast claimed (next answer)) := by
      rw [here]
      exact .last (.ask answers) rfl
    have timely' :
        (state.put i between (.inside channel cast claimed (next answer))).IsTimely deployment := by
      refine timely.put answers.now fun _ _ _ _ same => ?_
      obtain ⟨rfl, rfl, rfl, rfl⟩ := Stage.inside.inj same
      exact timely i channel cast claimed _ here
    have recorded' : (state.put i between (.inside channel cast claimed (next answer))).IsRecorded :=
      recorded.put (by simp)
    have later := ih timely' recorded' (State.stage_put_self ..) (by rwa [State.desk_put_self])
    rw [State.put_put] at later
    exact .head ⟨.turn i turn, timely', recorded'⟩ later

/-- Moderation of a cast of this hash has returned to a delivery. -/
def State.HasSucceeded (state : State) (hash : String) (i : Nat) : Prop :=
  state.HasProcessed hash i ∨
    ∃ channel cast claimed logs, state.stage i = .inside channel cast claimed (.done logs) ∧
      cast.hash = hash

private theorem Turn.not_ended {stage' : Stage} (turn : Turn deployment desk stage after stage') :
    stage.outcome? = none := by
  cases turn with
  | last move _ | more move _ _ => exact move.not_ended

theorem State.HasProcessed.stays {hash : String} {i : Nat} {later : State}
    (processed : state.HasProcessed hash i) (step : Step (Turn deployment) state later) :
    later.HasProcessed hash i := by
  obtain ⟨cast, here, same⟩ := processed
  refine ⟨cast, ?_, same⟩
  cases step with
  | pass => exact here
  | turn j turn =>
    have apart : i ≠ j := by
      rintro rfl
      have unended := turn.not_ended
      rw [here] at unended
      cases unended
    rwa [State.stage_put_other apart]

/-- Once moderation has returned, all that can come is the row that says so. -/
private theorem Turn.records {channel : Channel} {cast : Cast} {claimed : Number} {logs : List Log}
    (turn : Turn deployment desk (.inside channel cast claimed (.done logs)) after stage) :
    stage = .processed cast ∨ ∃ failure, stage = .unrecorded cast failure := by
  cases turn with
  | last move _ =>
    cases move with
    | succeed => exact .inl rfl
    | lose => exact .inr ⟨_, rfl⟩
  | more move restless _ =>
    cases move with
    | succeed | lose => cases restless

theorem State.HasSucceeded.stays {hash : String} {i : Nat} {later : State}
    (succeeded : state.HasSucceeded hash i) (step : Step (Turn deployment) state later)
    (recorded : later.IsRecorded) : later.HasSucceeded hash i := by
  rcases succeeded with processed | ⟨channel, cast, claimed, logs, here, same⟩
  · exact .inl (processed.stays step)
  cases step with
  | pass => exact .inr ⟨channel, cast, claimed, logs, here, same⟩
  | turn j turn =>
    by_cases apart : i = j
    · subst apart
      rw [here] at turn
      rcases turn.records with rfl | ⟨failure, rfl⟩
      · exact .inl ⟨cast, State.stage_put_self .., same⟩
      · exact (recorded i _ _ (State.stage_put_self ..)).elim
    · exact .inr ⟨channel, cast, claimed, logs, by rwa [State.stage_put_other apart], same⟩

theorem State.HasSucceeded.has {hash : String} {i : Nat} (succeeded : state.HasSucceeded hash i) :
    state.Has hash i := by
  rcases succeeded with processed | ⟨channel, cast, claimed, logs, here, same⟩
  · exact processed.has
  · exact State.IsInside.has ⟨channel, cast, claimed, _, here, same⟩

/-- A delivery of a cast that was done comes to nothing. -/
private theorem Turn.of_done {event : Event} {channelId : String} {channel : Channel} {cast : Cast}
    (idle : desk.pending = []) (brings : Brings event channelId cast)
    (known : desk.committed.configuration? channelId = .ok (some channel))
    (active : channel.active = true) (done : desk.committed.IsDone cast.hash)
    (turn : Turn deployment desk (.expected event) after stage) :
    stage = .answered (.ok "Already processed") ∧ after = desk := by
  cases turn with
  | last move resting =>
    cases move with
    | answer admitted answered =>
      obtain ⟨same, rfl⟩ := admitEvent_done idle brings known active done admitted answered
      cases same
      exact ⟨rfl, rfl⟩
    | refuse admitted answered => cases (admitEvent_done idle brings known active done admitted answered).1
    | enter => cases resting
  | more move restless _ =>
    cases move with
    | enter admitted answered => cases (admitEvent_done idle brings known active done admitted answered).1
    | answer | refuse => cases restless

private theorem exists_turn {event : Event} {channelId : String} {channel : Channel} {cast : Cast}
    (idle : desk.pending = []) (brings : Brings event channelId cast)
    (known : desk.committed.configuration? channelId = .ok (some channel))
    (active : channel.active = true) (done : desk.committed.IsDone cast.hash) :
    ∃ after stage, Turn deployment desk (.expected event) after stage := by
  obtain ⟨transcript, outcome, after, run, answered⟩ := desk.exists_run (admitEvent event)
  obtain ⟨rfl, -⟩ := admitEvent_done idle brings known active done run answered
  exact ⟨after, _, .last (.answer run answered) rfl⟩

/-- Casts are moderated once. In whatever order deliveries have their turns, at most one
of them is moderating a cast of a hash at a time, moderation returns for a hash at most
once in a run, and once that is recorded, a delivery that begins has one answer left. -/
theorem casts_are_moderated_once {start state later : State} (fresh : start.IsFresh)
    (memory : start.cache.backend = .memory) (run : Reaches deployment start state)
    (onward : Reaches deployment state later) :
    (∀ hash i j, state.IsInside hash i → state.IsInside hash j → i = j) ∧
    (∀ hash i j, state.HasSucceeded hash i → later.HasSucceeded hash j → i = j) ∧
    ∀ hash i, state.HasProcessed hash i → ∀ j event channelId channel cast,
      later.stage j = .expected event → Brings event channelId cast → cast.hash = hash →
      later.committed.configuration? channelId = .ok (some channel) → channel.active = true →
      (∃ after stage, Turn deployment (later.desk j) (.expected event) after stage) ∧
      ∀ after stage, Turn deployment (later.desk j) (.expected event) after stage →
        stage = .answered (.ok "Already processed") ∧ after = later.desk j := by
  have inv : Inv deployment state := run.inv (.of_fresh fresh memory)
  have later_inv : Inv deployment later := onward.inv inv
  refine ⟨fun hash i j first second => inv.alone hash i j first.has second.has, ?returns, ?answers⟩
  case returns =>
    intro hash i j first second
    have stays : later.HasSucceeded hash i := by
      clear second later_inv
      induction onward with
      | refl => exact first
      | tail _ last ih => exact ih.stays last.1 last.2.2
    exact later_inv.alone hash i j stays.has second.has
  case answers =>
    rintro hash i processed j event channelId channel cast expected brings rfl known active
    have stays : later.HasProcessed cast.hash i := by
      clear known expected later_inv
      induction onward with
      | refl => exact processed
      | tail _ last ih => exact ih.stays last.1
    have idle := (later_inv.tidy j).idle event expected
    have done := later_inv.done cast.hash i stays
    exact ⟨exists_turn idle brings known active done,
      fun after stage turn => turn.of_done idle brings known active done⟩

/-- Of two deliveries of an owner's cast the first one is moderated, and the second is
told so. -/
theorem second_delivery_is_spared :
    let deployment : Deployment := ⟨default, ⟨[], .nil⟩, false, 60, 1⟩
    let start : State := ⟨bareTables, {}, 0, fun _ => ⟨.expected firstCast, []⟩⟩
    start.IsFresh ∧ start.cache.backend = .memory ∧ ∃ state, Reaches deployment start state ∧
      state.HasProcessed "a" 0 ∧ state.stage 1 = .expected firstCast ∧
      (∃ after stage, Turn deployment (state.desk 1) (.expected firstCast) after stage) ∧
      ∀ after stage, Turn deployment (state.desk 1) (.expected firstCast) after stage →
        stage = .answered (.ok "Already processed") ∧ after = state.desk 1 := by
  intro deployment start
  have fresh : start.IsFresh := fun _ => ⟨firstCast, rfl⟩
  have memory : start.cache.backend = .memory := rfl
  obtain ⟨cast, channel, brings, hash, author, known, active, unlisted⟩ := firstCast_brings
  -- The first delivery claims the cast.
  obtain ⟨_, admitted, looked⟩ := admitEvent_runs (start.desk 0) brings known active
    (by rintro ⟨_, found, -⟩; cases found)
  let claimed := (start.desk 0).claimed deployment cast
  have entered : Turn deployment (start.desk 0) (start.stage 0) claimed
      (.inside channel cast 0 (moderateCast deployment channel cast false)) :=
    .more (.enter admitted looked) rfl (.last (.claim ⟨rfl, rfl⟩) rfl)
  have timely (desk : Desk) (now : desk.now = 0) (rest : Moderation (List Log)) :
      (start.put 0 desk (.inside channel cast 0 rest)).IsTimely deployment := by
    refine fresh.timely.put now fun _ _ _ _ same => ?_
    obtain ⟨-, -, rfl, -⟩ := Stage.inside.inj same
    rfl
  have recorded : (start.put 0 claimed
      (.inside channel cast 0 (moderateCast deployment channel cast false))).IsRecorded :=
    fresh.recorded.put (by simp)
  -- Moderation likes it and returns.
  have read : Json.read ownerText = .ok (leadAnswer cast.author.fid) := by
    rw [author]
    exact read_ownerText
  obtain ⟨_, liked, answered⟩ := owner_is_liked deployment claimed "1" Moment.epoch read (by rwa [author]) rfl
  have moderated := Reaches.moderation (timely claimed rfl _) recorded (State.stage_put_self ..) liked
    (by rwa [State.desk_put_self])
  rw [State.put_put] at moderated
  -- That is recorded.
  let log := ownerEntry channel cast "1" Moment.epoch
  let data : Json := .obj [("actions", .arr [.str log.action])]
  let row : Store.CastRow := ⟨cast.hash, channel.id, 7, Store.processed, data.spaced, Moment.epoch.stored⟩
  let logged := claimed.kept (.addLog log)
  let settled := logged.kept (.cast row)
  have shape : Store.recordCast logged.tables Moment.epoch cast.hash channel.id cast.author.fid
      Store.processed data = row := by
    rw [author]
    rfl
  obtain ⟨_, recording, written⟩ := recordCast_runs logged channel cast Store.processed data Moment.epoch
    shape rfl
  have finished : Turn deployment
      ((start.put 0 logged (.inside channel cast 0 (.done [log]))).desk 0)
      ((start.put 0 logged (.inside channel cast 0 (.done [log]))).stage 0) settled (.processed cast) := by
    rw [State.desk_put_self, State.stage_put_self]
    exact .last (.succeed recording written) rfl
  have ended := Step.turn 0 finished
  rw [State.put_put] at ended
  have run : Reaches deployment start _ := .head ⟨.turn 0 entered, timely claimed rfl _, recorded⟩
    (moderated.tail ⟨ended, fresh.timely.put rfl (by simp), fresh.recorded.put (by simp)⟩)
  have processed : (start.put 0 settled (.processed cast)).HasProcessed "a" 0 :=
    ⟨cast, State.stage_put_self .., hash⟩
  exact ⟨fresh, memory, _, run, processed, rfl, (casts_are_moderated_once fresh memory run .refl).2.2 "a" 0
    processed 1 firstCast "c" channel cast rfl brings hash known active⟩

end Curation.Intake
