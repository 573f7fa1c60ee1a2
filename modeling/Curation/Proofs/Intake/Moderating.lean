import Curation.Proofs.Intake.Rows
import Curation.Proofs.Rehearsal.Untouched

/-! Moderation at a desk. Whatever it is answered, and whatever its checks do, it
neither claims nor frees a cast and leaves the rows about casts as they are. -/
namespace Curation.Intake

open Moderation
open Program (Asks)
open Store (Change)

variable {deployment : Deployment} {desk after : Desk}

/-- What moderation may ask: it neither claims nor frees a cast, and writes no row about
one. -/
def IsModerating : Ask → Prop
  | .claim .. | .release _ => False
  | .write change => change.sparesCasts = true
  | _ => True

theorem moderate_asks (deployment : Deployment) (case : Case) :
    Asks IsModerating (moderate deployment case) := by
  rw [moderate_eq]
  have judging : (judge deployment case).Asks IsModerating := by
    refine (Rehearsal.IsHarmless.judge deployment case).mono fun ask harmless => ?_
    cases ask with
    | remote | evaluate | tables | clock | newId => trivial
    | write | commit | rollback | claim | release => exact harmless.elim
  refine judging.bind fun (gate, grounds) => (enact_asks deployment case gate grounds).mono
    fun ask acting => ?_
  cases ask with
  | remote | tables | commit | rollback | clock | newId => trivial
  | write change => exact acting
  | evaluate | claim | release => cases acting

/-- A desk after moderation was at work there: nothing that others rely on has changed
but the cache. -/
structure Desk.Works (desk after : Desk) : Prop where
  now : after.now = desk.now
  casts : after.committed.casts = desk.committed.casts
  spares : after.Spares

theorem Desk.Works.refl (spares : desk.Spares) : desk.Works desk := ⟨rfl, rfl, spares⟩

private theorem spares_append {change : Change} (spares : desk.Spares)
    (other : change.sparesCasts = true) :
    ({ desk with pending := desk.pending ++ [change] } : Desk).Spares := by
  intro listed member
  rcases List.mem_append.mp member with member | member
  · exact spares listed member
  · rwa [List.mem_singleton.mp member]

/-- An answer leaves the cache alone as well. -/
theorem answers_works {ask : Ask} {answer : Answer ask} (spares : desk.Spares)
    (moderating : IsModerating ask) (answers : desk.Answers ask answer after) :
    desk.Works after ∧ after.cache = desk.cache := by
  cases ask with
  | remote | evaluate | clock | newId =>
    obtain rfl : after = desk := answers
    exact ⟨.refl spares, rfl⟩
  | tables =>
    obtain ⟨-, rfl⟩ := answers
    exact ⟨.refl spares, rfl⟩
  | write change =>
    simp only [Desk.Answers] at answers
    split at answers
    · obtain ⟨-, rfl⟩ := answers
      exact ⟨.refl spares, rfl⟩
    · obtain ⟨-, rfl⟩ := answers
      exact ⟨⟨rfl, rfl, spares_append spares moderating⟩, rfl⟩
  | commit =>
    obtain rfl := answers
    exact ⟨⟨rfl, Desk.tables_casts spares, List.forall_mem_nil _⟩, rfl⟩
  | rollback =>
    obtain rfl := answers
    exact ⟨⟨rfl, rfl, List.forall_mem_nil _⟩, rfl⟩
  | claim | release => exact moderating.elim

theorem letting_works (spares : desk.Spares) (question : Check.Ask) :
    desk.Works (desk.letting question) := by
  cases question with
  | clearLogs => exact ⟨rfl, rfl, spares_append spares rfl⟩
  | remote | together | cached | keep | timeLeft | pause => exact ⟨rfl, rfl, spares⟩

end Curation.Intake
