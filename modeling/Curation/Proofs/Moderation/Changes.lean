import Curation.Proofs.Moderation.Answering

/-! What an action writes, as a function of the tables and the time. Every action comes apart into a
part that reads and writes the store, and the call that it makes, if it makes one. The first part
makes one change, or none, or refuses before anything was written. -/
namespace Curation

open Store (Change Session Tables)

/-- Makes a change that was planned, if one was. -/
def Store.Session.make (session : Session) : Except Failure (Option Change) → Except Failure Unit × Session
  | .error failure => (.error failure, session)
  | .ok none => (.ok (), session)
  | .ok (some change) =>
    match session.write change with
    | (.ok (), after) => (.ok (), after)
    | (.error fault, after) => (.error (.store fault), after)

namespace Moderation

open Program (Runs runs_done runs_ofExcept runs_question answered_append runs_bind)

variable {α : Type} {deployment : Deployment} {case : Case} {action : Action}
  {transcript first second : Transcript} {before middle after : Session} {time : Moment}
  {outcome : Except Failure Unit}

/-- The option that puts the user of a case on a bypass list. -/
def Case.option (case : Case) : UserOption := ⟨case.user.fid, case.user.username, case.user.pictureUrl⟩

/-- What an action on a case is to change in the tables at a time. -/
def Case.change (case : Case) (tables : Tables) (time : Moment) : Action → Except Failure (Option Change)
  | .bypass | .like | .hideQuietly | .unlike | .warnAndHide => .ok none
  | .unhide =>
    match case.cast with
    | some _ => .ok none
    | none => .error (.action (.requiresCast "unhide"))
  | .ban | .mute => .ok (some (.cooldown (Store.suspend tables time case.channel.id case.user.fid none)))
  | .cooldown hours => do
    let expiresAt ← hoursFrom time (.real hours)
    return some (.cooldown (Store.suspend tables time case.channel.id case.user.fid (some expiresAt)))
  | .cooldownEnded | .unmuted => .ok ((Store.lift? tables case.channel.id case.user.fid).map .cooldown)
  | .addToBypass =>
    match tables.channelRow? case.channel.id with
    | some row => do return (← row.withBypass? case.option time).map .channel
    | none => .ok none
  | .grantRole role =>
    match tables.role? case.channel.id role with
    | some row =>
      .ok (some (.delegate (Store.grant row case.user.fid case.user.username case.user.pictureUrl)))
    | none => .error (.action (.noRole role case.channel.id))
  | .downvote voter =>
    match case.cast, (Json.str voter.fid).toWhole with
    | none, _ => .error (.action (.requiresCast "downvote"))
    | some _, .error cause => .error (.misuse cause)
    | some cast, .ok fid =>
      .ok (some (.downvote (Store.vote tables time case.channel.id cast.hash fid voter.username voter.avatarUrl)))

/-! ## An action in two parts -/

/-- What an action does in the store. -/
def inStore (case : Case) (action : Action) : Moderation Unit := do
  let id := case.channel.id
  let fid := case.user.fid
  match action with
  | .bypass | .like | .hideQuietly | .unlike | .warnAndHide => return ()
  | .unhide =>
    let _ ← castFor case action
  | .ban | .mute => suspend id fid none
  | .cooldown hours =>
    let expiresAt ← hoursFrom (← now) (.real hours)
    suspend id fid (some expiresAt)
  | .cooldownEnded | .unmuted =>
    let _ ← liftSuspension id fid
  | .addToBypass =>
    let _ ← addToBypass id case.option
  | .grantRole role => grantRole id role case.user
  | .downvote voter => voteDown case voter

/-- What an action does on the network. -/
def calling (deployment : Deployment) (case : Case) (action : Action) : Moderation Unit :=
  match callFor? deployment case action with
  | some call => onNetwork deployment call
  | none => return ()

theorem carryOut_eq (deployment : Deployment) (case : Case) (action : Action) :
    carryOut deployment case action =
      (inStore case action).bind fun _ => calling deployment case action := by
  cases action with
  | bypass | ban => rfl
  | like | hideQuietly | unlike | warnAndHide =>
    simp only [carryOut, inStore, calling, callFor?]
    cases case.cast with
    | none | some cast => rfl
  | unhide =>
    simp only [carryOut, inStore, calling, callFor?, castFor]
    cases case.cast with
    | none | some cast => rfl
  | mute | cooldown | cooldownEnded | unmuted | addToBypass | grantRole | downvote =>
    exact (Program.bind_done _).symm

/-! ## Programs that make a change -/

/-- Every time that the clock shows is this one. -/
def ShowsOnly (time : Moment) (transcript : Transcript) : Prop :=
  ∀ shown, (⟨.clock, shown⟩ : (ask : Ask) × Answer ask) ∈ transcript → shown = some time

theorem showsOnly_append : ShowsOnly time (first ++ second) ↔ ShowsOnly time first ∧ ShowsOnly time second := by
  simp only [ShowsOnly, List.mem_append, or_imp, forall_and]

/-- From a session, at a time, the program makes the change that is planned. -/
def Makes (time : Moment) (before : Session) (program : Moderation Unit)
    (planned : Except Failure (Option Change)) : Prop :=
  ∀ transcript outcome after, Runs program transcript outcome → Answered before transcript after →
    ShowsOnly time transcript → (outcome, after) = before.make planned

section Makes

variable {planned : Except Failure (Option Change)}

theorem makes_done : Makes time before (.done ()) (.ok none) := by
  intro transcript outcome after run answered _
  cases run
  cases answered
  rfl

theorem makes_failed (failure : Failure) : Makes time before (.failed failure) (.error failure) := by
  intro transcript outcome after run answered _
  cases run
  cases answered
  rfl

theorem makes_tables {rest : Tables → Moderation Unit} (makes : Makes time before (rest before.working) planned) :
    Makes time before (tables.bind rest) planned := by
  intro transcript outcome after run answered shows
  cases run with
  | ask seen run =>
  cases answered with
  | cons answers answered =>
  obtain ⟨rfl, rfl⟩ := answers
  exact makes _ _ _ run answered fun shown listed => shows shown (.tail _ listed)

theorem makes_now {rest : Moment → Moderation Unit} (makes : Makes time before (rest time) planned) :
    Makes time before (now.bind rest) planned := by
  intro transcript outcome after run answered shows
  cases run with
  | ask shown run =>
  cases answered with
  | cons answers answered =>
  obtain rfl := answers
  obtain rfl : shown = some time := shows shown (.head _)
  exact makes _ _ _ run answered fun shown listed => shows shown (.tail _ listed)

theorem makes_ofExcept {result : Except Failure α} {rest : α → Moderation Unit}
    {planning : α → Except Failure (Option Change)}
    (makes : ∀ value, Makes time before (rest value) (planning value)) :
    Makes time before (Program.bind (.ofExcept result) rest) (result.bind planning) := by
  cases result with
  | ok value => exact makes value
  | error failure => exact makes_failed failure

theorem makes_write (change : Change) : Makes time before (write change) (.ok (some change)) := by
  intro transcript outcome after run answered _
  cases run with
  | ask written run =>
  cases answered with
  | @cons _ middle _ _ _ _ answers answered =>
  have wrote : (written, middle) = before.write change := answers
  simp only [Session.make, ← wrote]
  cases written with
  | ok | error =>
    cases run
    cases answered
    rfl

/-- What a program says of the change that it made does not matter. -/
theorem makes_write_saying (change : Change) (value : α) :
    Makes time before (((write change).bind fun _ => .done value).bind fun _ => .done ())
      (.ok (some change)) := by
  have same : ((write change).bind fun _ => .done value).bind (fun _ => .done ()) = write change := by
    rw [Program.bind_assoc]
    exact Program.bind_done (write change)
  rw [same]
  exact makes_write change

end Makes

/-- What an action does in the store is to make its change. -/
theorem inStore_makes (case : Case) (action : Action) (before : Session) (time : Moment) :
    Makes time before (inStore case action) (case.change before.working time action) := by
  cases action with
  | bypass | like | hideQuietly | unlike | warnAndHide => exact makes_done
  | unhide =>
    simp only [inStore, castFor, Case.change]
    cases case.cast with
    | none => exact makes_failed _
    | some cast => exact makes_done
  | ban | mute => exact makes_tables (makes_now (makes_write _))
  | cooldown hours =>
    exact makes_now (makes_ofExcept fun expiresAt => makes_tables (makes_now (makes_write _)))
  | cooldownEnded | unmuted =>
    simp only [inStore, liftSuspension, Program.bind_eq, Program.bind_assoc, Case.change]
    refine makes_tables ?_
    cases Store.lift? before.working case.channel.id case.user.fid with
    | none => exact makes_done
    | some row => exact makes_write_saying _ true
  | addToBypass =>
    simp only [inStore, addToBypass, Program.bind_eq, Program.bind_assoc, Case.change]
    refine makes_tables ?_
    cases before.working.channelRow? case.channel.id with
    | none => exact makes_done
    | some row =>
      simp only [Program.bind_assoc]
      refine makes_now (makes_ofExcept fun added => ?_)
      cases added with
      | none => exact makes_done
      | some row' => exact makes_write_saying _ true
  | grantRole role =>
    simp only [inStore, grantRole, Program.bind_eq, Case.change]
    refine makes_tables ?_
    cases before.working.role? case.channel.id role with
    | none => exact makes_failed _
    | some row => exact makes_write _
  | downvote voter =>
    simp only [inStore, voteDown, castFor, Case.change]
    cases case.cast with
    | none => exact makes_failed _
    | some cast =>
      simp only [Program.pure_eq, Program.bind_eq, Program.bind]
      cases (Json.str voter.fid).toWhole with
      | error cause => exact makes_failed _
      | ok fid => exact makes_tables (makes_now (makes_write _))

end Moderation

end Curation
