import Curation.Moderation.Carrying
import Curation.Proofs.Program.Runs
import Mathlib.Data.List.Forall2

/-! The entries that a run returns: one for each action, in the order of the actions.
Only the id and the time of an entry come from the surroundings. -/
namespace Curation

/-- Two entries agree on everything but their ids and times. -/
def Log.AgreesWith (log other : Log) : Prop :=
  { log with id := other.id, createdAt := other.createdAt, updatedAt := other.updatedAt } = other

namespace Moderation

open Program (Runs runs_bind_ok)

/-- A case for a simulation or for the real run. -/
def Case.when (simulation : Bool) (case : Case) : Case := { case with simulation }

/-- A case in another channel of the same id. -/
def Case.amid (channel : Channel) (case : Case) : Case :=
  { case with channel := { channel with id := case.channel.id } }

variable {deployment : Deployment} {case : Case} {grounds : Grounds}
  {exchanges : Program.Exchanges Ask Answer}

/-- An entry for an action, with some id and some time. -/
def Enters (case : Case) (grounds : Grounds) (action : Action) (log : Log) : Prop :=
  ∃ id time, log = entry case grounds action.name id time

theorem logAction_enters {action : Action} {log : Log}
    (run : Runs (logAction case grounds action.name) exchanges (.ok log)) :
    Enters case grounds action log := by
  unfold logAction at run
  split at run
  · obtain ⟨_, time, _, rfl, _, run⟩ := runs_bind_ok.mp run
    obtain ⟨_, id, _, rfl, _, run⟩ := runs_bind_ok.mp run
    cases run
    exact ⟨Log.simulatedStart ++ id, time, rfl⟩
  · obtain ⟨_, id, _, rfl, _, run⟩ := runs_bind_ok.mp run
    obtain ⟨_, time, _, rfl, _, run⟩ := runs_bind_ok.mp run
    obtain ⟨_, _, _, rfl, _, run⟩ := runs_bind_ok.mp run
    obtain ⟨_, _, _, rfl, _, run⟩ := runs_bind_ok.mp run
    cases run
    exact ⟨id, time.stored, rfl⟩

/-- A run of actions that returns has logged each of them. -/
theorem runActions_enters {actions : List Action} {logs : List Log}
    (run : Runs (runActions deployment case grounds actions) exchanges (.ok logs)) :
    List.Forall₂ (Enters case grounds) actions logs := by
  induction actions generalizing exchanges logs with
  | nil =>
    cases run
    exact .nil
  | cons action rest ih =>
    obtain ⟨_, _, _, rfl, _, run⟩ := runs_bind_ok.mp run
    obtain ⟨_, log, _, rfl, logged, run⟩ := runs_bind_ok.mp run
    obtain ⟨_, others, _, rfl, later, run⟩ := runs_bind_ok.mp run
    cases run
    exact .cons (logAction_enters logged) (ih later)

/-- Of its channel actions read the id alone. -/
theorem runActions_amid (channel : Channel) (grounds : Grounds) (actions : List Action) :
    runActions deployment (case.amid channel) grounds actions = runActions deployment case grounds actions := by
  induction actions with
  | nil => rfl
  | cons action rest ih =>
    simp only [runActions, ih]
    rfl

/-- The entries of a simulation agree with those of the real run. -/
theorem entries_agree {simulation simulation' : Bool} {actions : List Action}
    {logs logs' : List Log} (entered : List.Forall₂ (Enters (case.when simulation) grounds) actions logs)
    (entered' : List.Forall₂ (Enters (case.when simulation') grounds) actions logs') :
    List.Forall₂ Log.AgreesWith logs logs' := by
  induction entered generalizing logs' with
  | nil =>
    cases entered'
    exact .nil
  | cons first _ ih =>
    cases entered' with
    | cons first' later' =>
      obtain ⟨id, time, rfl⟩ := first
      obtain ⟨id', time', rfl⟩ := first'
      exact .cons rfl (ih later')

end Moderation

end Curation
