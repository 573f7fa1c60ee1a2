import Curation.Proofs.Check.Looking
import Curation.Proofs.Rehearsal.Orders

/-! What a rehearsal of looking leaves behind: the store as it was, and behind the
requests that had been sent only some that read. Calls that nobody waits for go on by
themselves, so they have to be reading ones to begin with, and are so again in the
end. -/
namespace Curation.Rehearsal

open Check (Looks)
open Evaluation (EachCall Slot)
open Evaluation.Node (At Path)
open Remote (Fetch Reads)

variable {ε α : Type} {world : World}

/-- The calls that nobody waits for only read. -/
def World.IsCalm (world : World) : Prop := ∀ entry ∈ world.adrift, Reads entry.2

/-- A calm world that another one comes to without a change to the store and without a
writing request. -/
structure ComesTo (before after : World) : Prop where
  session : after.session = before.session
  calm : after.IsCalm
  sent : ∃ requests, after.sent = requests ++ before.sent ∧
    ∀ request ∈ requests, request.isReading = true

namespace ComesTo

/-- A world that differs in neither its store nor its traffic. -/
theorem of_same {before after : World} (calm : before.IsCalm) (session : after.session = before.session)
    (adrift : after.adrift = before.adrift) (sent : after.sent = before.sent) :
    ComesTo before after where
  session := session
  calm := by
    unfold World.IsCalm
    rw [adrift]
    exact calm
  sent := ⟨[], sent, List.forall_mem_nil _⟩

theorem refl (calm : world.IsCalm) : ComesTo world world := of_same calm rfl rfl rfl

theorem trans {before middle after : World} (first : ComesTo before middle)
    (second : ComesTo middle after) : ComesTo before after where
  session := second.session.trans first.session
  calm := second.calm
  sent := by
    obtain ⟨earlier, sent, reading⟩ := first.sent
    obtain ⟨later, sent', reading'⟩ := second.sent
    refine ⟨later ++ earlier, by rw [sent', sent, List.append_assoc], fun request listed => ?_⟩
    rcases List.mem_append.mp listed with late | early
    · exact reading' request late
    · exact reading request early

end ComesTo

/-! ## Calls -/

theorem send_comes (calm : world.IsCalm) {request : Remote.Request}
    (reading : request.isReading = true) : ComesTo world (world.send request).2 where
  session := rfl
  calm := calm
  sent := ⟨[request], rfl, fun other listed => by
    obtain rfl := List.mem_singleton.mp listed
    exact reading⟩

/-- A call that has ended, or goes on with reading. -/
def FetchProgress.Reads : FetchProgress α → Prop
  | .ended _ => True
  | .waits _ rest => Remote.Reads rest

theorem advanceFetch_comes {call : Fetch α} (reads : Reads call) (calm : world.IsCalm) :
    ComesTo world (advanceFetch call world).2 ∧ (advanceFetch call world).1.Reads := by
  induction reads generalizing world with
  | done value | failed failure => exact ⟨.refl calm, trivial⟩
  | @ask question next reading rest ih =>
    cases question with
    | isHeldBack service =>
      have asked : ComesTo world (world.isHeldBack service).2 := .of_same calm rfl rfl rfl
      obtain ⟨comes, reads⟩ := ih (world.isHeldBack service).1 asked.calm
      exact ⟨asked.trans comes, reads⟩
    | report service success =>
      have told : ComesTo world (world.report service success) := .of_same calm rfl rfl rfl
      obtain ⟨comes, reads⟩ := ih () told.calm
      exact ⟨told.trans comes, reads⟩
    | send request =>
      have sent := send_comes calm reading
      simp only [advanceFetch]
      split
      · exact ⟨sent, rest _⟩
      · obtain ⟨comes, reads⟩ := ih (world.send request).1.2 sent.calm
        exact ⟨sent.trans comes, reads⟩

theorem carryOn_comes (adrift : List (Number × Fetch Int)) (reads : ∀ entry ∈ adrift, Reads entry.2)
    (calm : world.IsCalm) : ComesTo world (World.carryOn adrift world) := by
  induction adrift generalizing world with
  | nil => exact .refl calm
  | cons entry rest ih =>
    obtain ⟨due, call⟩ := entry
    have later : ComesTo world { world with now := due } := .of_same calm rfl rfl rfl
    obtain ⟨comes, goesOn⟩ := advanceFetch_comes (reads (due, call) (.head _)) later.calm
    have reads : ∀ entry ∈ rest, Reads entry.2 := fun entry listed => reads entry (.tail _ listed)
    simp only [World.carryOn]
    generalize advanceFetch call { world with now := due } = advanced at comes goesOn ⊢
    obtain ⟨progress, after⟩ := advanced
    have comes := later.trans comes
    cases progress with
    | ended outcome => exact comes.trans (ih reads comes.calm)
    | waits due call =>
      -- What still waits goes back among the calls that nobody waits for.
      have back : ComesTo after { after with adrift := after.adrift ++ [(due, call)] } := by
        refine ⟨rfl, fun entry listed => ?_, [], rfl, List.forall_mem_nil _⟩
        rcases List.mem_append.mp listed with before | this
        · exact comes.calm entry before
        · obtain rfl := List.mem_singleton.mp this
          exact goesOn
      exact (comes.trans back).trans (ih reads back.calm)

theorem passTo_comes (time : Number) (calm : world.IsCalm) : ComesTo world (world.passTo time) := by
  let later := world.adrift.filter fun call => !call.1.le time
  have left : ComesTo world { world with adrift := later } :=
    ⟨rfl, fun entry listed => calm entry (List.mem_filter.mp listed).1, [], rfl,
      List.forall_mem_nil _⟩
  have carried := carryOn_comes
    ((world.adrift.filter fun call => call.1.le time).mergeSort fun a b => a.1.le b.1)
    (fun entry listed => calm entry (List.mem_filter.mp (List.mem_mergeSort.mp listed)).1) left.calm
  have comes := left.trans carried
  exact comes.trans (.of_same comes.calm rfl rfl rfl)

/-! ## Calls made at the same time -/

def Branch.Reads : Branch → Prop
  | .ended _ => True
  | .waits _ rest => Remote.Reads rest

theorem startCalls_comes (calls : List (Fetch Int)) (reads : ∀ call ∈ calls, Reads call)
    (calm : world.IsCalm) :
    ComesTo world (startCalls calls world).2 ∧
      ∀ progress ∈ (startCalls calls world).1, progress.Reads := by
  induction calls generalizing world with
  | nil => exact ⟨.refl calm, List.forall_mem_nil _⟩
  | cons call rest ih =>
    obtain ⟨comes, goesOn⟩ := advanceFetch_comes (reads call (.head _)) calm
    obtain ⟨others, reading⟩ := ih (fun call listed => reads call (.tail _ listed)) comes.calm
    exact ⟨comes.trans others, List.forall_mem_cons.mpr ⟨goesOn, reading⟩⟩

theorem resumeCalls_comes (branches : List Branch) (reads : ∀ branch ∈ branches, branch.Reads)
    (calm : world.IsCalm) :
    ComesTo world (resumeCalls branches world).2 ∧
      ∀ progress ∈ (resumeCalls branches world).1, progress.Reads := by
  induction branches generalizing world with
  | nil => exact ⟨.refl calm, List.forall_mem_nil _⟩
  | cons branch rest ih =>
    have first := reads branch (.head _)
    have later : ∀ branch ∈ rest, branch.Reads := fun branch listed => reads branch (.tail _ listed)
    cases branch with
    | ended value =>
      obtain ⟨others, reading⟩ := ih later calm
      exact ⟨others, List.forall_mem_cons.mpr ⟨trivial, reading⟩⟩
    | waits due call =>
      simp only [resumeCalls]
      split
      · obtain ⟨comes, goesOn⟩ := advanceFetch_comes first calm
        obtain ⟨others, reading⟩ := ih later comes.calm
        exact ⟨comes.trans others, List.forall_mem_cons.mpr ⟨goesOn, reading⟩⟩
      · obtain ⟨others, reading⟩ := ih later calm
        exact ⟨others, List.forall_mem_cons.mpr ⟨first, reading⟩⟩

private theorem branches_read (calls : List (FetchProgress Int)) (reads : ∀ call ∈ calls, call.Reads) :
    ∀ branch ∈ branches calls, branch.Reads := by
  induction calls with
  | nil => exact List.forall_mem_nil _
  | cons call rest ih =>
    have first := reads call (.head _)
    have others := ih fun call listed => reads call (.tail _ listed)
    cases call with
    | ended outcome =>
      cases outcome with
      | ok value => exact List.forall_mem_cons.mpr ⟨trivial, others⟩
      | error failure => exact others
    | waits due call => exact List.forall_mem_cons.mpr ⟨first, others⟩

private theorem waiting_read {branches : List Branch} (reads : ∀ branch ∈ branches, branch.Reads) :
    ∀ entry ∈ waiting branches, Reads entry.2 := by
  intro entry listed
  obtain ⟨branch, among, waits⟩ := List.mem_filterMap.mp listed
  have reads := reads branch among
  cases branch with
  | ended value => cases waits
  | waits due call =>
    cases waits
    exact reads

/-- Calls that have come to an end, or go on with reading. -/
def Gathered.Reads : Gathered → Prop
  | .ended _ => True
  | .waits branches => ∀ branch ∈ branches, branch.Reads

theorem gather_comes (calls : List (FetchProgress Int)) (reads : ∀ call ∈ calls, call.Reads)
    (calm : world.IsCalm) :
    ComesTo world (gather calls world).2 ∧ (gather calls world).1.Reads := by
  have reading := branches_read calls reads
  simp only [gather]
  split
  · refine ⟨⟨rfl, fun entry listed => ?_, [], rfl, List.forall_mem_nil _⟩, trivial⟩
    rcases List.mem_append.mp listed with before | left
    · exact calm entry before
    · exact waiting_read reading entry left
  · split
    · exact ⟨.refl calm, trivial⟩
    · exact ⟨.refl calm, reading⟩

/-! ## Checks -/

/-- A check under way that only looks from now on. -/
inductive Progress.Looks : Progress ε α → Prop where
  | ended (outcome : Except ε α) : Looks (.ended outcome)
  | waits {due : Number} {rest : Task ε α} : Check.Looks rest → Looks (.waits due rest)
  | gathers {branches : List Branch} {rest : Except Failure (List Int) → Task ε α} :
    (∀ branch ∈ branches, branch.Reads) → (∀ outcome, Check.Looks (rest outcome)) →
    Looks (.gathers branches rest)

theorem advance_comes {task : Task ε α} (looks : Looks task) (budget : Budget) (around : Surroundings)
    (calm : around.world.IsCalm) :
    ComesTo around.world (advance budget task around).2.world ∧ (advance budget task around).1.Looks := by
  induction looks generalizing around with
  | done value | failed fault => exact ⟨.refl calm, .ended _⟩
  | @ask question next looking rest ih =>
    -- Where the world stays calm and is no other store, the check goes on from there.
    have goesOn (answer : Check.Answer question) (around' : Surroundings)
        (comes : ComesTo around.world around'.world) :
        ComesTo around.world (advance budget (next answer) around').2.world ∧
          (advance budget (next answer) around').1.Looks := by
      obtain ⟨later, looks⟩ := ih answer around' comes.calm
      exact ⟨comes.trans later, looks⟩
    cases question with
    | remote question =>
      cases question with
      | isHeldBack service => exact goesOn _ _ (.of_same calm rfl rfl rfl)
      | report service success => exact goesOn _ _ (.of_same calm rfl rfl rfl)
      | send request =>
        have sent := send_comes calm looking
        simp only [advance]
        split
        · exact ⟨sent, .waits (rest _)⟩
        · exact goesOn _ _ sent
    | together calls =>
      obtain ⟨started, reads⟩ := startCalls_comes calls looking calm
      obtain ⟨gathered, reading⟩ := gather_comes (startCalls calls around.world).1 reads started.calm
      simp only [advance]
      split
      · rename_i outcome after same
        rw [same] at gathered
        exact goesOn outcome _ (started.trans gathered)
      · rename_i branches after same
        rw [same] at gathered reading
        exact ⟨started.trans gathered, .gathers reading rest⟩
    | cached key | keep key value ttl => exact goesOn _ _ (.of_same calm rfl rfl rfl)
    | timeLeft wanted => exact goesOn _ _ (.refl calm)
    | pause seconds =>
      simp only [advance]
      split
      · exact ⟨.refl calm, .waits (rest _)⟩
      · exact goesOn _ _ (.refl calm)
    | clearLogs channel fid => exact looking.elim

theorem Progress.resume_comes {progress : Progress ε α} (looks : progress.Looks) (budget : Budget)
    (around : Surroundings) (calm : around.world.IsCalm) :
    ComesTo around.world (progress.resume budget around).2.world ∧
      (progress.resume budget around).1.Looks := by
  cases looks with
  | ended outcome => exact ⟨.refl calm, .ended outcome⟩
  | waits rest => exact advance_comes rest budget around calm
  | @gathers branches rest reads looks =>
    obtain ⟨resumed, goesOn⟩ := resumeCalls_comes branches reads calm
    obtain ⟨gathered, reading⟩ :=
      gather_comes (resumeCalls branches around.world).1 goesOn resumed.calm
    simp only [Progress.resume]
    split
    · rename_i outcome after same
      rw [same] at gathered
      have here := resumed.trans gathered
      obtain ⟨later, looks⟩ := advance_comes (looks outcome) budget { around with world := after } here.calm
      exact ⟨here.trans later, looks⟩
    · rename_i branches' after same
      rw [same] at gathered reading
      exact ⟨resumed.trans gathered, .gathers reading looks⟩

/-! ## Evaluations -/

/-- Each check at work is in such a state. -/
abbrev State.Each (good : Progress ε Verdict → Prop) (state : State ε) : Prop :=
  EachCall (fun _ _ (call : Call ε) => good call.progress) state.evaluation

private theorem State.take_each {good : Progress ε Verdict → Prop} {state : State ε} (each : state.Each good)
    {slot : Slot (Call ε)} {path : Path} {leaf : Condition} (at_ : At leaf slot path state.evaluation.tree)
    (ticket : Nat) (start : Number) {progress : Progress ε Verdict} (goesOn : good progress)
    (around : Surroundings) : (state.take path ticket leaf start progress around).Each good := by
  cases progress with
  | waits | gathers => exact each.putSlot at_ goesOn
  | ended outcome =>
    cases outcome with
    | ok verdict | error fault => exact each.finish at_ _

private theorem State.take_world (state : State ε) (path : Path) (ticket : Nat) (leaf : Condition)
    (start : Number) (progress : Progress ε Verdict) (around : Surroundings) :
    (state.take path ticket leaf start progress around).world = around.world := by
  cases progress with
  | waits | gathers => rfl
  | ended outcome =>
    cases outcome with
    | ok verdict | error fault => rfl

/-- The checks of a plan and the clock lead from worlds of a kind to such worlds again, where
the checks at work are in such states. -/
structure Plan.Leads (plan : Plan ε) (holds : World → Prop) (good : Progress ε Verdict → Prop)
    (R : World → World → Prop) : Prop where
  refl : ∀ {world}, holds world → R world world
  trans : ∀ {first second third}, R first second → R second third → R first third
  still : ∀ {before after}, R before after → holds after
  begins : ∀ leaf budget (around : Surroundings), holds around.world →
    R around.world (advance budget (plan.task leaf) around).2.world ∧
      good (advance budget (plan.task leaf) around).1
  resumes : ∀ {progress : Progress ε Verdict}, good progress → ∀ budget (around : Surroundings),
    holds around.world →
    R around.world (progress.resume budget around).2.world ∧ good (progress.resume budget around).1
  passes : ∀ time {world : World}, holds world → R world (world.passTo time)

namespace Plan.Leads

variable {plan : Plan ε} {holds : World → Prop} {good : Progress ε Verdict → Prop}
  {R : World → World → Prop}

/-- The rounds of an evaluation lead where its checks and the clock do. -/
theorem carryOn (leads : plan.Leads holds good R) (budget : Budget) (deadline : Number) (rounds : Nat)
    (state : State ε) (each : state.Each good) (start : holds state.world) :
    R state.world (plan.carryOn budget deadline rounds state).2.world := by
  induction rounds generalizing state with
  | zero => exact leads.passes deadline start
  | succ rounds ih =>
    have linedUp : EachCall _ state.evaluation.lineUp := each.lineUp
    -- A round that begins in another world goes on from there.
    have goesOn (state' : State ε) (each : state'.Each good) (comes : R state.world state'.world) :
        R state.world (plan.carryOn budget deadline rounds state').2.world :=
      leads.trans comes (ih state' each (leads.still comes))
    unfold Plan.carryOn
    simp only
    split
    · exact leads.refl start
    split
    · rename_i path ticket leaf next
      obtain ⟨comes, good⟩ := leads.begins leaf budget { world := state.world } start
      refine goesOn _ (State.take_each linedUp (Evaluation.next?_some next).1 _ _ good _) ?_
      rw [State.take_world]
      exact comes
    split
    · rename_i working due
      have at_ := Evaluation.mem_working.mp (List.mem_of_find?_eq_some due)
      obtain ⟨comes, good⟩ := leads.resumes (linedUp _ _ _ _ at_) budget
        { world := state.world, granted := working.call.granted } start
      refine goesOn _ (State.take_each linedUp at_ _ _ good _) ?_
      rw [State.take_world]
      exact comes
    split
    · exact goesOn _ linedUp.settle (leads.refl start)
    split
    · exact leads.passes deadline start
    split
    · exact goesOn _ linedUp (leads.passes _ start)
    · exact leads.passes deadline start

theorem evaluate (leads : plan.Leads holds good R) (rule : Rule) (start : holds world) :
    R world (plan.evaluate rule world).2.2 := by
  unfold Plan.evaluate
  split
  · exact leads.refl start
  · exact leads.carryOn _ _ rounds { evaluation := .begin_ plan.manner rule, world } (.start rule) start

end Plan.Leads

/-- Checks that look leave the store and send nothing that writes. -/
theorem Plan.evaluate_comes (plan : Plan ε) (looking : ∀ leaf, Looks (plan.task leaf)) (rule : Rule)
    (calm : world.IsCalm) : ComesTo world (plan.evaluate rule world).2.2 := by
  have leads : plan.Leads World.IsCalm Progress.Looks ComesTo :=
    { refl := .refl
      trans := .trans
      still := ComesTo.calm
      begins := fun leaf budget around calm => advance_comes (looking leaf) budget around calm
      resumes := fun looks budget around calm => Progress.resume_comes looks budget around calm
      passes := fun time _ calm => passTo_comes time calm }
  exact leads.evaluate rule calm

end Curation.Rehearsal
