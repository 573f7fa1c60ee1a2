import Curation.Proofs.Moderation.Units
import Curation.Proofs.Program.Endings
import Curation.Proofs.Store.Configurations

/-! Surroundings that help: calls go through, changes are made, the clock can be read, and
the store has what the actions of a channel count on. The parts of an action that do not
depend on its arguments return in such surroundings, and they leave the store as helpful as
it was. -/
namespace Curation

/-! ## Calls that go through -/

namespace Remote

/-- A service is not held back, and it answers with a success that can be read. -/
def Ask.Helps : (ask : Ask) → Answer ask → Prop
  | .isHeldBack _, heldBack => heldBack = false
  | .send _, reply => ∃ response value,
    reply = .answered response ∧ response.status < 400 ∧ Json.read response.text = .ok value
  | .report .., _ => True

theorem Service.json_completes (service : Service) (call : Call) :
    (service.json call).Completes Ask.Helps fun _ => True := by
  refine .ask trivial fun heldBack free => ?_
  cases free
  refine .ask trivial fun reply answered => ?_
  obtain ⟨response, value, rfl, success, read⟩ := answered
  have running : ¬ 500 ≤ response.status := by omega
  have accepted : ¬ 400 ≤ response.status := by omega
  simp only [Program.bind, Program.bind_eq, if_neg running]
  refine .ask trivial fun _ _ => ?_
  show Program.Completes _ _ (if 400 ≤ response.status then _ else _)
  rw [if_neg accepted, read]
  exact .done value

theorem Channels.write_completes (directory : Directory) (path : String) (body : Json) :
    (write directory path body).Completes Ask.Helps fun _ => True :=
  (Service.json_completes _ _).bind fun _ => .done ()

end Remote

namespace Store.ChannelRow

/-! ## Bypass lists -/

/-- The bypass list is the text of some entries. -/
def KeepsList (row : ChannelRow) : Prop := ∃ options, row.bypassed = bypassText options

theorem configured_keepsList (old : Option ChannelRow) (channel : Channel) (now : Moment) :
    (configured old channel now).KeepsList :=
  ⟨channel.bypassed, congrArg (·.2.2) (configured_texts old channel now)⟩

theorem lists_options (fid : Int) (options : List UserOption) :
    lists fid (options.map UserOption.toJson) = .ok (options.any fun option => option.value == fid) := by
  induction options with
  | nil => rfl
  | cons option rest ih =>
    have value : option.toJson.entry "value" = .ok (.int option.value) := rfl
    have whole : (Json.int option.value).toWhole = .ok option.value := rfl
    simp only [List.map_cons, lists, List.any_cons, value, whole, bind, Except.bind, ih]
    by_cases same : option.value = fid
    · simp [same, pure, Except.pure]
    · simp [same]

/-- A list can be read, and with one more entry it still can. -/
theorem withBypass?_kept {row : ChannelRow} (kept : row.KeepsList) (option : UserOption) (now : Moment) :
    ∃ added, row.withBypass? option now = .ok added ∧ ∀ row', added = some row' → row'.KeepsList := by
  obtain ⟨options, text⟩ := kept
  simp only [withBypass?, text, stored_bypassText, bind, Except.bind, arr_orElse, Json.items, lists_options]
  cases options.any fun other => other.value == option.value with
  | true =>
    refine ⟨none, rfl, ?_⟩
    rintro row' ⟨⟩
  | false =>
    refine ⟨_, rfl, ?_⟩
    rintro row' ⟨⟩
    exact ⟨options ++ [option], by simp [bypassText]⟩

end Store.ChannelRow

namespace Moderation

open Program (Completes)
open Store (Change ChannelRow Session Tables)

variable {deployment : Deployment} {case : Case} {actions : List Action}

/-! ## Surroundings that help -/

/-- The store has what the actions for a channel count on: the channel's bypass list can be
read, and the roles that they grant are there. -/
structure Equipped (channel : String) (actions : List Action) (tables : Tables) : Prop where
  listed : ∀ row, tables.channelRow? channel = some row → row.KeepsList
  roles : ∀ role, .grantRole role ∈ actions → (tables.role? channel role).isSome = true

/-- An answer that is no obstacle: calls go through, changes are made, and what the clock
shows and the store holds is as it should be. -/
def Helps (times : Moment → Prop) (equipped : Tables → Prop) : (ask : Ask) → Answer ask → Prop
  | .remote ask, answer => ask.Helps answer
  | .tables, tables => equipped tables
  | .write _, written => written = .ok ()
  | .clock, shown => ∃ time, shown = some time ∧ times time
  | .evaluate .., _ | .commit, _ | .rollback, _ | .newId, _ | .claim .., _ | .release _, _ => True

/-- What may be asked of a store that is to stay equipped. -/
def SparesEquipment : Ask → Prop
  | .write (.channel row) => row.KeepsList
  | .write (.role _) | .evaluate .. | .rollback => False
  | _ => True

/-- Such a question leaves the store equipped. -/
theorem Equipped.kept {channel : String} {before after : Session} {ask : Ask} {answer : Answer ask}
    (equipped : Equipped channel actions before.working) (spares : SparesEquipment ask)
    (answers : Answers before ask answer after) : Equipped channel actions after.working := by
  cases ask with
  | remote | clock | newId | claim | release =>
    obtain rfl : after = before := answers
    exact equipped
  | tables =>
    obtain ⟨-, rfl⟩ := answers
    exact equipped
  | commit =>
    obtain rfl : after = before.commit := answers
    exact equipped
  | evaluate | rollback => exact spares.elim
  | write change =>
    have wrote : (answer, after) = before.write change := answers
    unfold Session.write at wrote
    split at wrote
    · cases wrote
      exact equipped
    cases wrote
    cases change with
    | role => exact spares.elim
    | delegate | cooldown | downvote | cast | addLog | updateLog | deleteLogs =>
      exact ⟨equipped.listed, equipped.roles⟩
    | channel row =>
      refine ⟨fun row' found => ?_, equipped.roles⟩
      rw [Store.Tables.channelRow?, Store.channel?_written] at found
      split at found
      · cases found
        exact spares
      · exact equipped.listed row' found

/-! ## Parts that go through -/

section Helping

variable {times : Moment → Prop}

/-- The program returns where everything helps. -/
abbrev GoesThrough (case : Case) (actions : List Action) (times : Moment → Prop) {α : Type}
    (program : Moderation α) : Prop :=
  program.Completes (Helps times (Equipped case.channel.id actions)) SparesEquipment

theorem ofFetch_goesThrough {α : Type} {fetch : Remote.Fetch α}
    (completes : fetch.Completes Remote.Ask.Helps fun _ => True) :
    GoesThrough case actions times (ofFetch fetch) :=
  completes.within (fun _ _ helped => helped) fun _ _ => trivial

theorem onNetwork_goesThrough (deployment : Deployment) {call : Remote.Fetch Unit}
    (completes : call.Completes Remote.Ask.Helps fun _ => True) :
    GoesThrough case actions times (onNetwork deployment call) := by
  unfold onNetwork
  split
  · exact ofFetch_goesThrough completes
  · exact .done ()

theorem write_goesThrough {change : Change} (spares : SparesEquipment (.write change)) :
    GoesThrough case actions times (write change) := by
  refine .ask spares fun written made => ?_
  obtain rfl : written = .ok () := made
  exact .done ()

/-- What follows a reading of the clock goes through if it does at the times that are shown. -/
theorem now_goesThrough {α : Type} {rest : Moment → Moderation α}
    (each : ∀ time, times time → GoesThrough case actions times (rest time)) :
    GoesThrough case actions times (now.bind rest) := by
  refine .ask trivial fun shown helped => ?_
  obtain ⟨time, rfl, shows⟩ := helped
  exact each time shows

/-- What follows a look at the store goes through if it does for a store that is equipped. -/
theorem tables_goesThrough {α : Type} {rest : Tables → Moderation α}
    (each : ∀ tables, Equipped case.channel.id actions tables →
      GoesThrough case actions times (rest tables)) :
    GoesThrough case actions times (tables.bind rest) :=
  .ask trivial each

theorem suspend_goesThrough (channel : String) (fid : Int) (expiresAt : Option Moment) :
    GoesThrough case actions times (suspend channel fid expiresAt) :=
  tables_goesThrough fun _ _ => now_goesThrough fun _ _ => write_goesThrough trivial

theorem addToBypass_goesThrough (option : UserOption) :
    GoesThrough case actions times (addToBypass case.channel.id option) := by
  refine tables_goesThrough fun tables equipped => ?_
  cases found : tables.channelRow? case.channel.id with
  | none => exact .done false
  | some row =>
    refine now_goesThrough fun time _ => ?_
    obtain ⟨added, read, kept⟩ := ChannelRow.withBypass?_kept (equipped.listed row found) option time
    simp only [read]
    cases added with
    | none => exact .done false
    | some row' =>
      have spares : SparesEquipment (.write (.channel row')) := kept row' rfl
      exact (write_goesThrough spares).bind fun _ => .done true

theorem liftSuspension_goesThrough (channel : String) (fid : Int) :
    GoesThrough case actions times (liftSuspension channel fid) := by
  refine tables_goesThrough fun tables _ => ?_
  split
  · rename_i row _
    have spares : SparesEquipment (.write (.cooldown row)) := trivial
    exact (write_goesThrough spares).bind fun _ => .done true
  · exact .done false

theorem grantRole_goesThrough {role : String} (granted : .grantRole role ∈ actions) :
    GoesThrough case actions times (grantRole case.channel.id role case.user) := by
  refine tables_goesThrough fun tables equipped => ?_
  obtain ⟨row, found⟩ := Option.isSome_iff_exists.mp (equipped.roles role granted)
  simp only [found]
  exact write_goesThrough trivial

theorem castFor_goesThrough (given : case.cast.isSome = true) (action : Action) :
    GoesThrough case actions times (castFor case action) := by
  obtain ⟨cast, given⟩ := Option.isSome_iff_exists.mp given
  rw [castFor, given]
  exact .done cast

theorem logAction_goesThrough (grounds : Grounds) (action : String) :
    GoesThrough case actions times (logAction case grounds action) := by
  unfold logAction
  split
  · exact now_goesThrough fun time _ => .ask trivial fun _ _ => .done _
  · refine .ask trivial fun id _ => now_goesThrough fun time _ => ?_
    have spares : SparesEquipment (.write (.addLog (entry case grounds action id time.stored))) := trivial
    exact (write_goesThrough spares).recover.bind fun _ => .ask trivial fun _ _ => .done _

end Helping

end Moderation

end Curation
