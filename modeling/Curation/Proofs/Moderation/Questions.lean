import Curation.Moderation.Deciding
import Curation.Proofs.Program.Runs

/-! Which questions the parts of moderation may ask. A program of a part asks what the
part is for and nothing else, so a statement about the questions of a run can be
read off the parts that the run went through. -/
namespace Curation

namespace Store.Change

/-- What an action may write of itself: bypass entries, role holders, suspensions and
votes, but no log and nothing about events. -/
def isEffect : Change → Bool
  | .channel _ | .delegate _ | .cooldown _ | .downvote _ => true
  | _ => false

/-- Every change but that of what became of a cast. -/
def sparesCasts : Change → Bool
  | .cast _ => false
  | _ => true

end Store.Change

namespace Action

/-- The changes that an action may write, all to the one table that it is about. -/
def mayWrite : Action → Store.Change → Bool
  | .addToBypass, .channel _ | .grantRole _, .delegate _ | .downvote _, .downvote _ => true
  | .ban, .cooldown _ | .mute, .cooldown _ | .cooldown _, .cooldown _ => true
  | .cooldownEnded, .cooldown _ | .unmuted, .cooldown _ => true
  | _, _ => false

end Action

namespace Moderation

open Program (Asks Runs)

/-- What a run asked and was answered. -/
abbrev Transcript := Program.Exchanges Ask Answer

variable {α : Type}

/-! ## Carrying out -/

/-- The store and the clock may be looked at. -/
structure AllowsLooking (allowed : Ask → Prop) : Prop where
  tables : allowed .tables
  clock : allowed .clock

/-- Whatever changes nothing in the store may be asked on the way to an effect. -/
structure AllowsReading (allowed : Ask → Prop) : Prop where
  remote : ∀ ask, allowed (.remote ask)
  tables : allowed .tables
  clock : allowed .clock

theorem AllowsReading.looks {allowed : Ask → Prop} (reads : AllowsReading allowed) :
    AllowsLooking allowed := ⟨reads.tables, reads.clock⟩

/-- The call that carrying out an action makes, if it makes one. -/
def callFor? (deployment : Deployment) (case : Case) : Action → Option (Remote.Fetch Unit)
  | .like =>
    match case.cast with
    | some _ => none
    | none => some (Remote.Channels.invite deployment.directory case.channel.id case.user.fid)
  | .hideQuietly | .unlike | .warnAndHide =>
    case.cast.map fun cast => Remote.Channels.hide deployment.directory cast.hash
  | .unhide => case.cast.map fun cast => Remote.Channels.unhide deployment.directory cast.hash
  | .ban => some (Remote.Channels.ban deployment.directory case.channel.id case.user.fid)
  | _ => none

section Carrying

variable {allowed : Ask → Prop} (looks : AllowsLooking allowed) (reads : AllowsReading allowed)

include reads in
theorem ofFetch_asks (fetch : Remote.Fetch α) : Asks allowed (ofFetch fetch) := by
  unfold ofFetch
  induction fetch with
  | done value => exact .done value
  | failed fault => exact .failed fault
  | ask question next ih => exact .ask (reads.remote question) fun answer => ih answer

theorem ofExcept_asks (result : Except Failure α) :
    Asks allowed (.ofExcept result : Moderation α) := by
  cases result with
  | ok value => exact .done value
  | error failure => exact .failed failure

include looks in
private theorem tables_asks : Asks allowed tables := .ask looks.tables .done

theorem now_asks (clock : allowed .clock) : Asks allowed now := by
  refine .ask clock fun time => ?_
  cases time with
  | none => exact .failed _
  | some moment => exact .done moment

/-- What the clock says is all that comes up. -/
theorem runs_now {transcript : Transcript} {time : Moment} (run : Runs now transcript (.ok time)) :
    transcript = [⟨.clock, some time⟩] := by
  cases run with
  | ask answer run =>
    cases answer with
    | some moment => cases run; rfl
    | none => cases run

theorem write_asks {change : Store.Change} (ok : allowed (.write change)) :
    Asks allowed (write change) := by
  refine .ask ok fun outcome => ?_
  cases outcome with
  | ok => exact .done ()
  | error fault => exact .failed _

include looks in
theorem suspend_asks (writes : ∀ row, allowed (.write (.cooldown row))) (channel : String)
    (fid : Int) (expiresAt : Option Moment) : Asks allowed (suspend channel fid expiresAt) :=
  (tables_asks looks).bind fun _ => (now_asks looks.clock).bind fun _ => write_asks (writes _)

/-- What needs a cast asks what it asks for the cast that there is. -/
private theorem castFor_asks {case : Case} {action : Action} {rest : Cast → Moderation α}
    (each : ∀ cast, case.cast = some cast → Asks allowed (rest cast)) :
    Asks allowed ((castFor case action).bind rest) := by
  unfold castFor
  split
  · rename_i cast given
    exact each cast given
  · exact .failed _

include reads in
theorem onNetwork_asks (deployment : Deployment) (call : Remote.Fetch Unit) :
    Asks allowed (onNetwork deployment call) := by
  unfold onNetwork
  split
  · exact ofFetch_asks reads call
  · exact .done ()

include looks in
private theorem liftSuspension_asks (writes : ∀ row, allowed (.write (.cooldown row)))
    (channel : String) (fid : Int) : Asks allowed (liftSuspension channel fid) := by
  refine (tables_asks looks).bind fun tables => ?_
  split
  · exact (write_asks (writes _)).bind fun _ => .done true
  · exact .done false

include looks in
private theorem addToBypass_asks (writes : ∀ row, allowed (.write (.channel row)))
    (channel : String) (option : UserOption) : Asks allowed (addToBypass channel option) := by
  refine (tables_asks looks).bind fun tables => ?_
  split
  · refine (now_asks looks.clock).bind fun time => (ofExcept_asks _).bind fun added => ?_
    split
    · exact (write_asks (writes _)).bind fun _ => .done true
    · exact .done false
  · exact .done false

include looks in
private theorem grantRole_asks (writes : ∀ row, allowed (.write (.delegate row)))
    (channel role : String) (user : User) : Asks allowed (grantRole channel role user) := by
  refine (tables_asks looks).bind fun tables => ?_
  split
  · exact .failed _
  · exact write_asks (writes _)

include looks in
private theorem voteDown_asks (writes : ∀ row, allowed (.write (.downvote row))) (case : Case)
    (voter : Voter) : Asks allowed (voteDown case voter) := by
  refine castFor_asks fun cast _ => ?_
  split
  · exact .failed _
  · exact (tables_asks looks).bind fun _ => (now_asks looks.clock).bind fun _ => write_asks (writes _)

include looks in
/-- An action looks, makes the call that it is for, and writes what it is for. -/
theorem carryOut_asks_calling {deployment : Deployment} {case : Case} {action : Action}
    (calls : ∀ call, callFor? deployment case action = some call →
      Asks allowed (onNetwork deployment call))
    (writes : ∀ change, action.mayWrite change = true → allowed (.write change)) :
    Asks allowed (carryOut deployment case action) := by
  cases action with
  | bypass => exact .done ()
  | like =>
    simp only [carryOut]
    split
    · exact .done ()
    · rename_i none_
      exact calls _ (by simp [callFor?, none_])
  | hideQuietly | unlike | warnAndHide =>
    simp only [carryOut]
    split
    · rename_i given
      exact calls _ (by simp [callFor?, given])
    · exact .done ()
  | unhide => exact castFor_asks fun cast given => calls _ (by simp [callFor?, given])
  | ban =>
    refine (suspend_asks looks (fun row => writes _ rfl) _ _ _).bind fun _ => ?_
    exact calls _ rfl
  | mute => exact suspend_asks looks (fun row => writes _ rfl) _ _ _
  | cooldown hours =>
    refine (now_asks looks.clock).bind fun _ => (ofExcept_asks _).bind fun _ => ?_
    exact suspend_asks looks (fun row => writes _ rfl) _ _ _
  | cooldownEnded | unmuted =>
    exact (liftSuspension_asks looks (fun row => writes _ rfl) _ _).bind fun _ => .done ()
  | addToBypass => exact (addToBypass_asks looks (fun row => writes _ rfl) _ _).bind fun _ => .done ()
  | grantRole role => exact grantRole_asks looks (fun row => writes _ rfl) _ _ _
  | downvote voter => exact voteDown_asks looks (fun row => writes _ rfl) case voter

include reads in
/-- An action reads, and writes what it is for. -/
theorem carryOut_asks_only (deployment : Deployment) (case : Case) (action : Action)
    (writes : ∀ change, action.mayWrite change = true → allowed (.write change)) :
    Asks allowed (carryOut deployment case action) :=
  carryOut_asks_calling reads.looks (fun call _ => onNetwork_asks reads deployment call) writes

include looks in
/-- An entry has an id and a time and is written, and a failed one is undone. -/
theorem logAction_asks_only (newId : allowed .newId) (writes : ∀ log, allowed (.write (.addLog log)))
    (commits : allowed .commit) (undoes : allowed .rollback) (case : Case) (grounds : Grounds)
    (action : String) : Asks allowed (logAction case grounds action) := by
  unfold logAction
  split
  · exact (now_asks looks.clock).bind fun _ => .ask newId fun _ => .done _
  · refine .ask newId fun id => (now_asks looks.clock).bind fun time => ?_
    have written := (write_asks (writes (entry case grounds action id time.stored))).recover
      fun failure => .ask undoes fun _ => .failed failure
    exact written.bind fun _ => .ask commits fun _ => .done _

end Carrying

/-- What carrying out an action may ask: it calls the network, and reads and changes
the store, but neither keeps nor undoes its changes. -/
def Ask.isCarrying : Ask → Bool
  | .remote _ | .tables | .clock => true
  | .write change => change.isEffect
  | _ => false

theorem isCarrying_reads : AllowsReading (·.isCarrying = true) := ⟨fun _ => rfl, rfl, rfl⟩

theorem carryOut_asks (deployment : Deployment) (case : Case) (action : Action) :
    Asks (·.isCarrying = true) (carryOut deployment case action) := by
  refine carryOut_asks_only isCarrying_reads deployment case action fun change may => ?_
  cases change with
  | channel | delegate | cooldown | downvote => rfl
  | role | cast | addLog | updateLog | deleteLogs =>
    cases action with
    | _ => cases may

/-! ## Logging as well -/

/-- What carrying out and logging actions may ask: everything but to evaluate a rule,
to claim a cast, and to write what became of one. -/
def Ask.isActing : Ask → Bool
  | .evaluate .. | .claim .. | .release _ => false
  | .write change => change.sparesCasts
  | _ => true

theorem isActing_reads : AllowsReading (·.isActing = true) := ⟨fun _ => rfl, rfl, rfl⟩

theorem carrying_acts {program : Moderation α} (asks : Asks (·.isCarrying = true) program) :
    Asks (·.isActing = true) program := by
  refine asks.mono fun ask carrying => ?_
  cases ask with
  | evaluate | claim | release => cases carrying
  | remote | tables | commit | rollback | clock | newId => rfl
  | write change =>
    cases change with
    | cast => cases carrying
    | channel | role | delegate | cooldown | downvote | addLog | updateLog | deleteLogs => rfl

private theorem undone_asks {program : Moderation α} (asks : Asks (·.isActing = true) program) :
    Asks (·.isActing = true) (tryCatch program fun failure => do
      rollback
      throw failure) :=
  asks.recover fun failure => .ask rfl fun _ => .failed failure

theorem perform_asks (deployment : Deployment) (case : Case) (action : Action) :
    Asks (·.isActing = true) (perform deployment case action) := by
  unfold perform
  split
  · exact .done ()
  · exact undone_asks (carrying_acts (carryOut_asks deployment case action))

theorem logAction_asks (case : Case) (grounds : Grounds) (action : String) :
    Asks (·.isActing = true) (logAction case grounds action) :=
  logAction_asks_only isActing_reads.looks rfl (fun _ => rfl) rfl rfl case grounds action

theorem runActions_asks (deployment : Deployment) (case : Case) (grounds : Grounds)
    (actions : List Action) :
    Asks (·.isActing = true) (runActions deployment case grounds actions) := by
  induction actions with
  | nil => exact .done []
  | cons action rest ih =>
    refine (perform_asks deployment case action).bind fun _ => ?_
    exact (logAction_asks case grounds action.name).bind fun log => ih.bind fun logs => .done _

theorem startSlowMode_asks (case : Case) : Asks (·.isActing = true) (startSlowMode case) := by
  refine (now_asks isActing_reads.clock).bind fun time => (ofExcept_asks _).bind fun expiresAt => ?_
  exact (suspend_asks isActing_reads.looks (fun _ => rfl) _ _ _).bind fun _ => .ask rfl .done

end Moderation

end Curation
