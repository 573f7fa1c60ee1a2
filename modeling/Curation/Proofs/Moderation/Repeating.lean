import Curation.Proofs.Moderation.Changes
import Curation.Proofs.Moderation.Helping
import Curation.Proofs.Moderation.Suspensions
import Curation.Proofs.Store.BypassLists

/-! Actions that are carried out twice. Each writes its row under a key that it finds again, so the
second time it plans the change that was made, or none, and a change that was made changes nothing
any more. Only a timed suspension looks at the clock again: it then ends later. -/
namespace Curation

namespace Store

/-- A change that comes again changes nothing any more. -/
theorem Change.apply_again {change : Change} (effect : change.isEffect = true) (tables : Tables) :
    change.apply (change.apply tables) = change.apply tables := by
  cases change with
  | channel row => simp [apply, upsert_again, ChannelRow.sameKey]
  | delegate row => simp [apply, upsert_again, DelegateRow.sameKey]
  | cooldown row => simp [apply, upsert_again, CooldownRow.sameKey]
  | downvote row => simp [apply, upsert_again, DownvoteRow.sameKey]
  | role | cast | addLog | updateLog | deleteLogs => cases effect

/-- What an action may write is refused for its integers alone. -/
theorem Change.fault?_eq {change : Change} (effect : change.isEffect = true) (tables other : Tables) :
    change.fault? tables = change.fault? other := by
  cases change with
  | channel | delegate | cooldown | downvote => rfl
  | role | cast | addLog | updateLog | deleteLogs => cases effect

/-! ## Rows that are found again -/

section Rows

variable {tables : Tables} {time later : Moment} {channel hash username : String} {fid : Int}
  {avatarUrl : Option String} {expiresAt expiresAt' : Option Moment}

/-- A suspension that is written again keeps all but its end. -/
theorem suspend_again :
    suspend ((Change.cooldown (suspend tables time channel fid expiresAt)).apply tables) later channel fid expiresAt' =
      { suspend tables time channel fid expiresAt with expiresAt := expiresAt'.map .stored } := by
  rw [suspend, cooldown?_written, if_pos ⟨rfl, rfl⟩]
  rfl

theorem lift?_again {row : CooldownRow} (lifted : lift? tables channel fid = some row) :
    lift? ((Change.cooldown row).apply tables) channel fid = some row := by
  obtain ⟨old, found, rfl⟩ := Option.map_eq_some_iff.mp lifted
  rw [lift?, cooldown?_written, if_pos (cooldown?_key found)]
  rfl

/-- A vote stands under its own key, in the words that it was given. -/
theorem vote_stands (tables : Tables) (time : Moment) (channel hash : String) (fid : Int) (username : String)
    (avatarUrl : Option String) :
    let row := vote tables time channel hash fid username avatarUrl
    row.fid = toString fid ∧ row.castHash = hash ∧ { row with username, avatarUrl } = row := by
  unfold vote
  cases found : tables.downvote? (toString fid) hash with
  | none => exact ⟨rfl, rfl, rfl⟩
  | some row => exact ⟨(downvote?_key found).1, (downvote?_key found).2, rfl⟩

theorem vote_again :
    vote ((Change.downvote (vote tables time channel hash fid username avatarUrl)).apply tables) later channel hash
      fid username avatarUrl = vote tables time channel hash fid username avatarUrl := by
  obtain ⟨own, cast, words⟩ := vote_stands tables time channel hash fid username avatarUrl
  conv_lhs => rw [vote, downvote?_written, if_pos ⟨own, cast⟩]
  exact words

end Rows

end Store

namespace Moderation

open Program (Completes Runs runs_bind runs_bind_ok answered_append)
open Store (Change ChannelRow Session Tables)

variable {deployment : Deployment} {case : Case} {action : Action} {transcript first second : Transcript}
  {before middle after : Session} {tables : Tables} {time later : Moment} {change : Change}
  {outcome : Except Failure Unit}

/-! ## What is planned the second time -/

/-- An action that changes nothing changes nothing at any other time. -/
theorem change_none (none_ : case.change tables time action = .ok none) (later : Moment) :
    case.change tables later action = .ok none := by
  cases action with
  | bypass | like | hideQuietly | unlike | warnAndHide | unhide | cooldownEnded | unmuted | grantRole => exact none_
  | ban | mute => cases none_
  | cooldown hours =>
    simp only [Case.change, bind, Except.bind] at none_
    cases ends : hoursFrom time (.real hours) with
    | ok | error => rw [ends] at none_; cases none_
  | addToBypass =>
    simp only [Case.change, bind, Except.bind] at none_ ⊢
    cases found : tables.channelRow? case.channel.id with
    | none => rfl
    | some row =>
      rw [found] at none_
      cases added : row.withBypass? case.option time with
      | error failure => simp [added] at none_
      | ok added' =>
        cases added' with
        | some row' => simp [added, pure, Except.pure] at none_
        | none => simp [ChannelRow.withBypass?_none added later, pure, Except.pure]
  | downvote voter =>
    simp only [Case.change] at none_
    split at none_ <;> cases none_

/-- The change that an action made is what it plans again, or it plans none. -/
theorem change_again (planned : case.change tables time action = .ok (some change)) (later : Moment)
    (apart : later = time ∨ ∀ hours, action ≠ .cooldown hours) :
    change.isEffect = true ∧ (case.change (change.apply tables) later action = .ok none ∨
      case.change (change.apply tables) later action = .ok (some change)) := by
  cases action with
  | bypass | like | hideQuietly | unlike | warnAndHide => cases planned
  | unhide =>
    simp only [Case.change] at planned
    split at planned <;> cases planned
  | ban | mute =>
    cases planned
    refine ⟨rfl, .inr ?_⟩
    simp only [Case.change, Store.suspend_again]
    rfl
  | cooldown hours =>
    obtain rfl : later = time := apart.resolve_right fun none_ => none_ hours rfl
    simp only [Case.change, bind, Except.bind] at planned ⊢
    cases ends : hoursFrom later (.real hours) with
    | error failure => rw [ends] at planned; cases planned
    | ok expiresAt =>
      rw [ends] at planned
      cases planned
      refine ⟨rfl, .inr ?_⟩
      simp only [Store.suspend_again]
      rfl
  | cooldownEnded | unmuted =>
    simp only [Case.change, Except.ok.injEq, Option.map_eq_some_iff] at planned
    obtain ⟨row, lifted, rfl⟩ := planned
    refine ⟨rfl, .inr ?_⟩
    simp only [Case.change, Store.lift?_again lifted, Option.map_some]
  | addToBypass =>
    simp only [Case.change, bind, Except.bind] at planned ⊢
    cases found : tables.channelRow? case.channel.id with
    | none => rw [found] at planned; cases planned
    | some row =>
      rw [found] at planned
      cases added : row.withBypass? case.option time with
      | error failure => simp [added] at planned
      | ok added' =>
        cases added' with
        | none => simp [added, pure, Except.pure] at planned
        | some row' =>
          obtain rfl : .channel row' = change := by simpa [added, pure, Except.pure] using planned
          have own : row'.id = Text.lower case.channel.id := by
            obtain ⟨entries, -, -, rfl⟩ := ChannelRow.withBypass?_added added
            exact (Store.channel?_key found : row.id = _)
          have still : ((Change.channel row').apply tables).channelRow? case.channel.id = some row' := by
            rw [Store.Tables.channelRow?, Store.channel?_written, if_pos own]
          exact ⟨rfl, .inl (by simp [still, ChannelRow.withBypass?_again added later, pure, Except.pure])⟩
  | grantRole role =>
    simp only [Case.change] at planned
    cases found : tables.role? case.channel.id role with
    | none => rw [found] at planned; cases planned
    | some row =>
      rw [found] at planned
      cases planned
      refine ⟨rfl, .inr ?_⟩
      have still : ((Change.delegate (Store.grant row case.user.fid case.user.username case.user.pictureUrl)).apply
          tables).role? case.channel.id role = some row := found
      simp only [Case.change, still]
  | downvote voter =>
    simp only [Case.change] at planned ⊢
    split at planned
    · cases planned
    · cases planned
    · cases planned
      exact ⟨rfl, .inr (by simp only [Store.vote_again])⟩

/-! ## The second time -/

theorem make_ok {planned : Except Failure (Option Change)} (made : (.ok (), after) = before.make planned) :
    (planned = .ok none ∧ after = before) ∨
      ∃ change, planned = .ok (some change) ∧ change.fault? before.working = none ∧
        after = { before with working := change.apply before.working } := by
  match planned with
  | .error failure => cases made
  | .ok none =>
    cases made
    exact .inl ⟨rfl, rfl⟩
  | .ok (some change) =>
    refine .inr ⟨change, rfl, ?_⟩
    simp only [Session.make, Session.write] at made
    cases refused : change.fault? before.working with
    | some fault => simp [refused] at made
    | none =>
      rw [refused] at made
      cases made
      exact ⟨rfl, rfl⟩

/-- A change that was made is made again without effect. -/
theorem make_again (effect : change.isEffect = true) (allowed : change.fault? tables = none)
    (committed : Tables) :
    (Session.mk committed (change.apply tables)).make (.ok (some change)) =
      (.ok (), ⟨committed, change.apply tables⟩) := by
  rw [Change.fault?_eq effect tables (change.apply tables)] at allowed
  simp [Session.make, Session.write, allowed, Change.apply_again effect]

/-- What was made is not made again. -/
theorem change_settled (made : (.ok (), middle) = before.make (case.change before.working time action))
    (apart : later = time ∨ ∀ hours, action ≠ .cooldown hours) :
    middle.make (case.change middle.working later action) = (.ok (), middle) := by
  rcases make_ok made with ⟨none_, rfl⟩ | ⟨change, planned, allowed, rfl⟩
  · rw [change_none none_ later]
    rfl
  · obtain ⟨effect, none_ | again⟩ := change_again planned later apart
    · rw [none_]
      rfl
    · rw [again]
      exact make_again effect allowed before.committed

/-- A timed suspension is in place, and planned again with another end. -/
theorem cooldown_again {hours : Binary64} (made : (.ok (), middle) = before.make
      (case.change before.working time (.cooldown hours))) (later : Moment) :
    ∃ row, case.suspension? middle.working = some row ∧ case.change middle.working later (.cooldown hours) =
      (hoursFrom later (.real hours)).map fun expiresAt =>
        some (.cooldown { row with expiresAt := some expiresAt.stored }) := by
  obtain ⟨none_, -⟩ | ⟨change, planned, -, rfl⟩ := make_ok made
  · cases ends : hoursFrom time (.real hours) with
    | ok | error => simp [Case.change, bind, Except.bind, ends, pure, Except.pure] at none_
  · simp only [Case.change, bind, Except.bind] at planned ⊢
    cases ends : hoursFrom time (.real hours) with
    | error failure => rw [ends] at planned; cases planned
    | ok expiresAt =>
      rw [ends] at planned
      cases planned
      refine ⟨_, by rw [Case.suspension?, Store.cooldown?_written, if_pos ⟨rfl, rfl⟩], ?_⟩
      simp only [Store.suspend_again]
      cases hoursFrom later (.real hours) with
      | ok | error => rfl

/-! ## Calls -/

/-- Calls of the network go through. -/
def CallsGoThrough (transcript : Transcript) : Prop :=
  ∀ ask answer, (⟨.remote ask, answer⟩ : (ask : Ask) × Answer ask) ∈ transcript → ask.Helps answer

/-- An answer is no obstacle to a call. -/
def HelpsCalls : (ask : Ask) → Answer ask → Prop
  | .remote ask, answer => ask.Helps answer
  | _, _ => True

theorem calling_completes (deployment : Deployment) (case : Case) (action : Action) :
    (calling deployment case action).Completes HelpsCalls fun _ => True := by
  have sent (path : String) (body : Json) :
      (onNetwork deployment (Remote.Channels.write deployment.directory path body)).Completes HelpsCalls
        fun _ => True := by
    unfold onNetwork
    split
    · exact (Remote.Channels.write_completes _ path body).within (fun _ _ helped => helped) fun _ _ => trivial
    · exact .done ()
  unfold calling callFor?
  cases action with
  | like =>
    cases case.cast with
    | none => exact sent _ _
    | some cast => exact .done ()
  | hideQuietly | unlike | warnAndHide | unhide =>
    cases case.cast with
    | none => exact .done ()
    | some cast => exact sent _ _
  | ban => exact sent _ _
  | bypass | addToBypass | downvote | mute | cooldown | cooldownEnded | unmuted | grantRole => exact .done ()

/-- Where calls go through, and where the action returns anyway, it ends as its change does. -/
theorem carryOut_made (run : Runs (carryOut deployment case action) transcript outcome)
    (answered : Answered before transcript after) (shows : ShowsOnly time transcript)
    (returns : outcome = .ok () ∨ CallsGoThrough transcript) :
    (outcome, after) = before.make (case.change before.working time action) := by
  rw [carryOut_eq] at run
  rcases runs_bind.mp run with ⟨failure, rfl, wrote⟩ | ⟨first, _, second, rfl, wrote, called⟩
  · exact inStore_makes case action before time _ _ _ wrote answered shows
  · obtain ⟨between, for_change, for_call⟩ := answered_append.mp answered
    obtain rfl : after = between := by
      unfold calling at called
      split at called
      · exact onNetwork_answered called for_call
      · cases called
        cases for_call
        rfl
    have made := inStore_makes case action before time _ _ _ wrote for_change (showsOnly_append.mp shows).1
    obtain rfl : outcome = .ok () := by
      rcases returns with returned | calls
      · exact returned
      · refine ((calling_completes deployment case action).returns (P := fun _ => True) called for_call trivial
          fun ask answer listed _ _ _ _ _ => ⟨?_, trivial⟩).choose_spec
        cases ask with
        | remote ask => exact calls ask answer (List.mem_append_right _ listed)
        | evaluate | tables | write | commit | rollback | clock | newId | claim | release => trivial
    exact made

/-- Surroundings in which calls go through and the clock stands still. -/
def attend (time : Moment) : (ask : Ask) → Session → Answer ask × Session
  | .remote (.isHeldBack _), session => (false, session)
  | .remote (.send _), session => (.answered ⟨200, "\x7b\x7d"⟩, session)
  | .remote (.report ..), session | .release _, session => ((), session)
  | .evaluate .., session => (.error .noTimeLeft, session)
  | .tables, session => (session.working, session)
  | .write change, session => session.write change
  | .commit, session => ((), session.commit)
  | .rollback, session => ((), session.rollback)
  | .clock, session => (some time, session)
  | .newId, session => ("", session)
  | .claim .., session => (true, session)

theorem attend_answers {ask : Ask} {answer : Answer ask} (attended : attend time ask before = (answer, after)) :
    Answers before ask answer after ∧ (∀ shown, (⟨ask, answer⟩ : (ask : Ask) × Answer ask) = ⟨.clock, shown⟩ →
      shown = some time) ∧ HelpsCalls ask answer := by
  cases ask with
  | remote ask =>
    cases ask with
    | isHeldBack | report =>
      cases attended
      exact ⟨rfl, nofun, by trivial⟩
    | send request =>
      cases attended
      exact ⟨rfl, nofun, _, .obj [], rfl, by decide, by rfl⟩
  | tables =>
    cases attended
    exact ⟨⟨rfl, rfl⟩, nofun, trivial⟩
  | clock =>
    cases attended
    exact ⟨rfl, fun _ same => by cases same; rfl, trivial⟩
  | write change => exact ⟨attended.symm, nofun, trivial⟩
  | evaluate | commit | rollback | newId | claim | release =>
    cases attended
    exact ⟨rfl, nofun, trivial⟩

/-- At every time, and from every session, a program can be run where calls go through. -/
theorem exists_run {α : Type} (program : Moderation α) (time : Moment) (before : Session) :
    ∃ transcript outcome after, Runs program transcript outcome ∧ Answered before transcript after ∧
      ShowsOnly time transcript ∧ CallsGoThrough transcript := by
  obtain ⟨transcript, run, attended⟩ := Program.runs_run_answered (attend time) program before
  refine ⟨transcript, _, _, run, attended.mono fun _ _ _ _ attends => (attend_answers attends).1, ?_, ?_⟩
  · intro shown listed
    obtain ⟨here, next, attends⟩ := attended.of_mem listed
    exact (attend_answers attends).2.1 shown rfl
  · intro ask answer listed
    obtain ⟨here, next, attends⟩ := attended.of_mem listed
    exact (attend_answers attends).2.2

/-- An action that was carried out is carried out again without effect: as long as its calls go
through it returns, and it leaves every table as it was. Only a suspension for some hours ends, when it
comes later, as many hours after that; where the calendar has no such time, it fails and changes
nothing. -/
theorem repeated_action_changes_nothing
    (run : Runs (carryOut deployment case action) first (.ok ())) (answered : Answered before first middle)
    (shows : ShowsOnly time first) (rerun : Runs (carryOut deployment case action) second outcome)
    (reanswered : Answered middle second after) (reshows : ShowsOnly later second)
    (calls : CallsGoThrough second) :
    (later = time ∨ (∀ hours, action ≠ .cooldown hours) → outcome = .ok () ∧ after = middle) ∧
    ∀ hours, action = .cooldown hours → ∃ row, case.suspension? middle.working = some row ∧
      (∀ expiresAt, hoursFrom later (.real hours) = .ok expiresAt → outcome = .ok () ∧ after = { middle with
        working := (Change.cooldown { row with expiresAt := some expiresAt.stored }).apply middle.working }) ∧
      ∀ failure, hoursFrom later (.real hours) = .error failure → outcome = .error failure ∧ after = middle := by
  have made := carryOut_made run answered shows (.inl rfl)
  have remade := carryOut_made rerun reanswered reshows (.inr calls)
  refine ⟨fun apart => ?_, ?_⟩
  · rw [change_settled made apart] at remade
    exact Prod.mk.inj remade
  · rintro hours rfl
    obtain ⟨row, stands, planned⟩ := cooldown_again made later
    rw [planned] at remade
    refine ⟨row, stands, fun expiresAt ends => ?_, fun failure ends => ?_⟩
    · rw [ends] at remade
      exact Prod.mk.inj remade
    · rw [ends] at remade
      exact Prod.mk.inj remade

/-- One hour. -/
def hour : Binary64 := .finite false 4503599627370496 (-52)

/-- A user who is suspended for an hour, and when that is over once more. -/
theorem suspension_ends_an_hour_later :
    let deployment : Deployment := ⟨default, Check.registry, true, 60, 1⟩
    let case : Case := ⟨default, { fid := 7, username := "alice" }, none, false⟩
    let row : Store.CooldownRow := ⟨"7", "", true, some ⟨3600000000, none⟩, ⟨0, none⟩⟩
    let ended : Session := ⟨{}, { cooldowns := [row] }⟩
    ∃ first second after,
      Runs (carryOut deployment case (.cooldown hour)) first (.ok ()) ∧ Answered {} first ended ∧
      Runs (carryOut deployment case (.cooldown hour)) second (.ok ()) ∧ Answered ended second after ∧
      after.working = { cooldowns := [{ row with expiresAt := some ⟨7200000000, none⟩ }] } := by
  intro deployment case row ended
  have once : hoursFrom ⟨0, some 0⟩ (.real hour) = .ok ⟨3600000000, some 0⟩ :=
    Program.ok_of_toOption (by decide +kernel)
  have twice : hoursFrom ⟨3600000000, some 0⟩ (.real hour) = .ok ⟨7200000000, some 0⟩ :=
    Program.ok_of_toOption (by decide +kernel)
  have planned : case.change {} ⟨0, some 0⟩ (.cooldown hour) = .ok (some (.cooldown row)) := by
    rw [Case.change, once]
    rfl
  obtain ⟨first, outcome, middle, run, answered, shows, calls⟩ :=
    exists_run (carryOut deployment case (.cooldown hour)) ⟨0, some 0⟩ {}
  have made : (outcome, middle) = (.ok (), ended) := by
    rw [carryOut_made run answered shows (.inr calls), planned]
    rfl
  obtain ⟨rfl, rfl⟩ := Prod.mk.inj made
  obtain ⟨second, outcome, after, rerun, reanswered, reshows, recalls⟩ :=
    exists_run (carryOut deployment case (.cooldown hour)) ⟨3600000000, some 0⟩ ended
  obtain ⟨row', stands, prolonged, -⟩ :=
    (repeated_action_changes_nothing run answered shows rerun reanswered reshows recalls).2 hour rfl
  obtain rfl : row = row' := Option.some.inj stands
  obtain ⟨rfl, rfl⟩ := prolonged _ twice
  exact ⟨first, second, _, run, answered, rerun, reanswered, rfl⟩

end Moderation

end Curation
