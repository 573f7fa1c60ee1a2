import Curation.Program

/-! What programs do whatever their surroundings answer. `Runs` pairs every question
that was asked with the answer that came, so that a statement about all runs is one
about all surroundings. `Ensures` speaks of the results alone, `Asks` of the
questions alone. -/
namespace Curation.Program

variable {Q Q' : Type} {Answer : Q → Type} {Answer' : Q' → Type} {ε ε' α β : Type}

/-- Questions with their answers, in the order in which they were asked. -/
abbrev Exchanges (Q : Type) (Answer : Q → Type) := List ((question : Q) × Answer question)

/-- The program may come to this result after these exchanges. -/
inductive Runs : Program Q Answer ε α → Exchanges Q Answer → Except ε α → Prop where
  | done (value : α) : Runs (.done value) [] (.ok value)
  | failed (fault : ε) : Runs (.failed fault) [] (.error fault)
  | ask {question : Q} {next : Answer question → Program Q Answer ε α}
      {exchanges : Exchanges Q Answer} {outcome : Except ε α} (answer : Answer question) :
    Runs (next answer) exchanges outcome →
    Runs (.ask question next) (⟨question, answer⟩ :: exchanges) outcome

/-- Whatever is answered, the result is of this kind. -/
inductive Ensures (post : Except ε α → Prop) : Program Q Answer ε α → Prop where
  | done {value : α} : post (.ok value) → Ensures post (.done value)
  | failed {fault : ε} : post (.error fault) → Ensures post (.failed fault)
  | ask {question : Q} {next : Answer question → Program Q Answer ε α} :
    (∀ answer, Ensures post (next answer)) → Ensures post (.ask question next)

@[simp] theorem bind_eq (program : Program Q Answer ε α) (rest : α → Program Q Answer ε β) :
    program >>= rest = program.bind rest := rfl

@[simp] theorem pure_eq (value : α) : (pure value : Program Q Answer ε α) = .done value := rfl

@[simp] theorem bind_done (program : Program Q Answer ε α) : program.bind .done = program := by
  induction program with
  | done value => rfl
  | failed fault => rfl
  | ask question next ih => simp only [bind, ih]

variable {program : Program Q Answer ε α} {rest : α → Program Q Answer ε β}
  {exchanges : Exchanges Q Answer}

theorem within_bind (widen : Q → Q') (narrow : ∀ question, Answer' (widen question) → Answer question) :
    (program.bind rest).within widen narrow =
      (program.within widen narrow).bind fun value => (rest value).within widen narrow := by
  induction program with
  | done value => rfl
  | failed fault => rfl
  | ask question next ih => simp only [bind, within, ih]

/-- A run of one program after another is a run of the first that fails, or a run of
the first and then one of the second. -/
theorem runs_bind {outcome : Except ε β} :
    Runs (program.bind rest) exchanges outcome ↔
      (∃ fault, outcome = .error fault ∧ Runs program exchanges (.error fault)) ∨
      ∃ before value after, exchanges = before ++ after ∧ Runs program before (.ok value) ∧
        Runs (rest value) after outcome := by
  induction program generalizing exchanges with
  | done value =>
    constructor
    · intro run
      exact .inr ⟨[], value, exchanges, rfl, .done value, run⟩
    · rintro (⟨fault, -, first⟩ | ⟨before, value', after, rfl, first, second⟩)
      · cases first
      · cases first
        exact second
  | failed fault =>
    constructor
    · intro run
      cases run
      exact .inl ⟨fault, rfl, .failed fault⟩
    · rintro (⟨fault', rfl, first⟩ | ⟨before, value, after, rfl, first, second⟩)
      · cases first
        exact .failed fault
      · cases first
  | ask question next ih =>
    constructor
    · intro run
      cases run with
      | ask answer run =>
        rcases (ih answer).mp run with ⟨fault, rfl, first⟩ | ⟨before, value, after, rfl, first, second⟩
        · exact .inl ⟨fault, rfl, .ask answer first⟩
        · exact .inr ⟨⟨question, answer⟩ :: before, value, after, rfl, .ask answer first, second⟩
    · rintro (⟨fault, rfl, first⟩ | ⟨before, value, after, rfl, first, second⟩)
      · cases first with
        | ask answer first => exact .ask answer ((ih answer).mpr (.inl ⟨fault, rfl, first⟩))
      · cases first with
        | ask answer first =>
          exact .ask answer ((ih answer).mpr (.inr ⟨_, value, after, rfl, first, second⟩))

/-- Where both programs have come to an end, each had its exchanges. -/
theorem runs_bind_ok {value : β} :
    Runs (program.bind rest) exchanges (.ok value) ↔
      ∃ before middle after, exchanges = before ++ after ∧ Runs program before (.ok middle) ∧
        Runs (rest middle) after (.ok value) := by
  rw [runs_bind]
  constructor
  · rintro (⟨fault, same, -⟩ | both)
    · cases same
    · exact both
  · exact .inr

/-- A single question is answered, and that is all. -/
theorem runs_question {question : Q} {outcome : Except ε (Answer question)} :
    Runs (.ask question .done) exchanges outcome ↔
      ∃ answer, outcome = .ok answer ∧ exchanges = [⟨question, answer⟩] := by
  constructor
  · intro run
    cases run with
    | ask answer run =>
      cases run
      exact ⟨answer, rfl, rfl⟩
  · rintro ⟨answer, rfl, rfl⟩
    exact .ask answer (.done answer)

theorem runs_done {value : α} {outcome : Except ε α} :
    Runs (.done value : Program Q Answer ε α) exchanges outcome ↔
      outcome = .ok value ∧ exchanges = [] := by
  constructor
  · intro run
    cases run
    exact ⟨rfl, rfl⟩
  · rintro ⟨rfl, rfl⟩
    exact .done value

theorem runs_ofExcept {result outcome : Except ε α} :
    Runs (.ofExcept result : Program Q Answer ε α) exchanges outcome ↔
      outcome = result ∧ exchanges = [] := by
  constructor
  · intro run
    cases result with
    | ok | error =>
      cases run
      exact ⟨rfl, rfl⟩
  · rintro ⟨rfl, rfl⟩
    cases outcome with
    | ok value => exact .done value
    | error fault => exact .failed fault

/-- A run that goes on after a failure is a run without one, or a run up to the failure
and then one of what comes after it. -/
theorem runs_recover {rest : ε → Program Q Answer ε' α} {outcome : Except ε' α} :
    Runs (program.recover rest) exchanges outcome ↔
      (∃ value, outcome = .ok value ∧ Runs program exchanges (.ok value)) ∨
      ∃ before fault after, exchanges = before ++ after ∧ Runs program before (.error fault) ∧
        Runs (rest fault) after outcome := by
  induction program generalizing exchanges with
  | done value =>
    constructor
    · intro run
      cases run
      exact .inl ⟨value, rfl, .done value⟩
    · rintro (⟨value', rfl, first⟩ | ⟨before, fault, after, rfl, first, second⟩)
      · cases first
        exact .done value
      · cases first
  | failed fault =>
    constructor
    · intro run
      exact .inr ⟨[], fault, exchanges, rfl, .failed fault, run⟩
    · rintro (⟨value, rfl, first⟩ | ⟨before, fault', after, rfl, first, second⟩)
      · cases first
      · cases first
        exact second
  | ask question next ih =>
    constructor
    · intro run
      cases run with
      | ask answer run =>
        rcases (ih answer).mp run with ⟨value, rfl, first⟩ | ⟨before, fault, after, rfl, first, second⟩
        · exact .inl ⟨value, rfl, .ask answer first⟩
        · exact .inr ⟨⟨question, answer⟩ :: before, fault, after, rfl, .ask answer first, second⟩
    · rintro (⟨value, rfl, first⟩ | ⟨before, fault, after, rfl, first, second⟩)
      · cases first with
        | ask answer first => exact .ask answer ((ih answer).mpr (.inl ⟨value, rfl, first⟩))
      · cases first with
        | ask answer first =>
          exact .ask answer ((ih answer).mpr (.inr ⟨_, fault, after, rfl, first, second⟩))

/-- What is answered decides how a run goes on: of two runs neither is longer as far as
their answers are the same. -/
theorem Runs.same {others later later' : Exchanges Q Answer} {outcome outcome' : Except ε α}
    (run : Runs program exchanges outcome) (run' : Runs program others outcome')
    (answers : exchanges ++ later = others ++ later') : exchanges = others ∧ outcome = outcome' := by
  induction run generalizing others with
  | done | failed =>
    cases run'
    exact ⟨rfl, rfl⟩
  | ask answer _ ih =>
    cases run' with
    | ask answer' run' =>
      obtain ⟨head, tail⟩ := List.cons.inj answers
      cases head
      obtain ⟨rfl, rfl⟩ := ih run' tail
      exact ⟨rfl, rfl⟩

/-- Where the first program has come to an end, the run is one of the second from there
on. -/
theorem Runs.after {later : Exchanges Q Answer} {outcome : Except ε β} {value : α}
    (run : Runs (program.bind rest) (exchanges ++ later) outcome)
    (first : Runs program exchanges (.ok value)) : Runs (rest value) later outcome := by
  rcases runs_bind.mp run with ⟨fault, -, failed⟩ | ⟨before, value', after, whole, ended, second⟩
  · have whole : exchanges ++ later = (exchanges ++ later) ++ [] := (List.append_nil _).symm
    cases (first.same failed whole).2
  · obtain ⟨rfl, same⟩ := first.same ended whole
    cases same
    rwa [List.append_cancel_left whole]

/-- Programs run alike that first run alike and then go on alike. -/
theorem run_bind_congr {σ : Type} {answer : (question : Q) → σ → Answer question × σ}
    {program' : Program Q Answer ε α} {rest' : α → Program Q Answer ε β} {state : σ}
    (first : program.run answer state = program'.run answer state)
    (later : ∀ value state, (rest value).run answer state = (rest' value).run answer state) :
    (program.bind rest).run answer state = (program'.bind rest').run answer state := by
  simp only [run_bind, first, later]

/-- A program that returns has run its parts, the second from where the first has left off. -/
theorem run_bind_eq_ok {σ : Type} {answer : (question : Q) → σ → Answer question × σ} {state : σ}
    {value : β} :
    ((program.bind rest).run answer state).1 = .ok value ↔
      ∃ middle, (program.run answer state).1 = .ok middle ∧
        ((rest middle).run answer (program.run answer state).2).1 = .ok value := by
  rw [run_bind]
  cases ended : program.run answer state with
  | mk outcome after =>
    cases outcome with
    | ok middle => simp
    | error fault => simp

theorem ok_of_toOption {outcome : Except ε α} {value : α} (there : outcome.toOption = some value) :
    outcome = .ok value := by
  cases outcome with
  | ok reached => exact congrArg Except.ok (Option.some.inj there)
  | error fault => cases there

/-- A run in surroundings that answer from a state is one of the runs. -/
theorem runs_run {σ : Type} (answer : (question : Q) → σ → Answer question × σ)
    (program : Program Q Answer ε α) (state : σ) :
    ∃ exchanges, Runs program exchanges (program.run answer state).1 := by
  induction program generalizing state with
  | done value => exact ⟨[], .done value⟩
  | failed fault => exact ⟨[], .failed fault⟩
  | ask question next ih =>
    obtain ⟨exchanges, run⟩ := ih (answer question state).1 (answer question state).2
    exact ⟨_, .ask _ run⟩

/-- The questions of a run are among those that can come up. -/
theorem Asks.of_runs {allowed : Q → Prop} {outcome : Except ε α} (asks : program.Asks allowed)
    (run : Runs program exchanges outcome) : ∀ exchange ∈ exchanges, allowed exchange.1 := by
  induction run with
  | done | failed => intro exchange member; cases member
  | ask answer _ ih =>
    cases asks with
    | ask ok each =>
      intro exchange member
      rcases List.mem_cons.mp member with rfl | later
      · exact ok
      · exact ih (each answer) exchange later

/-- What no answer to a question that can come up changes, a run leaves as it is. -/
theorem Asks.run_keeps {allowed : Q → Prop} {σ κ : Type} {part : σ → κ}
    {answer : (question : Q) → σ → Answer question × σ} (asks : program.Asks allowed)
    (keeps : ∀ question, allowed question → ∀ state, part (answer question state).2 = part state)
    (state : σ) : part (program.run answer state).2 = part state := by
  induction asks generalizing state with
  | done | failed => rfl
  | @ask question next ok _ ih =>
    have later := ih (answer question state).1 (answer question state).2
    exact later.trans (keeps question ok state)

/-- What every answer keeps true of the state, a run does. -/
theorem run_invariant {σ : Type} {holds : σ → Prop} {answer : (question : Q) → σ → Answer question × σ}
    (keeps : ∀ question state, holds state → holds (answer question state).2)
    (program : Program Q Answer ε α) {state : σ} (start : holds state) :
    holds (program.run answer state).2 := by
  induction program generalizing state with
  | done | failed => exact start
  | ask question next ih => exact ih _ (keeps question state start)

/-! ## Answers from a state -/

section Answered

variable {σ : Type} {answers : σ → (question : Q) → Answer question → σ → Prop}

/-- The exchanges lead from one state to another, each answered as it may be there. -/
inductive Answered (answers : σ → (question : Q) → Answer question → σ → Prop) :
    σ → Exchanges Q Answer → σ → Prop where
  | nil (state : σ) : Answered answers state [] state
  | cons {before middle after : σ} {question : Q} {answer : Answer question}
      {later : Exchanges Q Answer} :
    answers before question answer middle → Answered answers middle later after →
    Answered answers before (⟨question, answer⟩ :: later) after

theorem answered_question {before after : σ} {question : Q} {answer : Answer question} :
    Answered answers before [⟨question, answer⟩] after ↔ answers before question answer after := by
  constructor
  · intro answered
    cases answered with
    | cons head tail =>
      cases tail
      exact head
  · exact fun head => .cons head (.nil after)

theorem answered_append {before after : σ} {first second : Exchanges Q Answer} :
    Answered answers before (first ++ second) after ↔
      ∃ middle, Answered answers before first middle ∧ Answered answers middle second after := by
  induction first generalizing before with
  | nil =>
    constructor
    · intro answered
      exact ⟨before, .nil before, answered⟩
    · rintro ⟨middle, first, second⟩
      cases first
      exact second
  | cons exchange rest ih =>
    constructor
    · intro answered
      cases answered with
      | cons head tail =>
        obtain ⟨middle, first, second⟩ := ih.mp tail
        exact ⟨middle, .cons head first, second⟩
    · rintro ⟨middle, first, second⟩
      cases first with
      | cons head tail => exact .cons head (ih.mpr ⟨middle, tail, second⟩)

/-- Where every answer to a question of a program leads on, so do its exchanges. -/
theorem Answered.leads {R : σ → σ → Prop} {allowed : Q → Prop} {outcome : Except ε α}
    {before after : σ} (refl : ∀ state, R state state)
    (trans : ∀ {first second third}, R first second → R second third → R first third)
    (run : Runs program exchanges outcome) (asks : program.Asks allowed)
    (step : ∀ question, allowed question → ∀ before answer after,
      answers before question answer after → R before after)
    (answered : Answered answers before exchanges after) : R before after := by
  induction run generalizing before with
  | done | failed =>
    cases answered
    exact refl _
  | ask answer _ ih =>
    cases asks with
    | ask ok each =>
      cases answered with
      | cons head tail => exact trans (step _ ok _ _ _ head) (ih (each answer) tail)

/-- What no answer to a question of a program changes, its exchanges leave as it is. -/
theorem Answered.keeps {κ : Type} (part : σ → κ) {allowed : Q → Prop} {outcome : Except ε α}
    {before after : σ} (run : Runs program exchanges outcome) (asks : program.Asks allowed)
    (keeps : ∀ question, allowed question → ∀ before answer after,
      answers before question answer after → part after = part before)
    (answered : Answered answers before exchanges after) : part after = part before := by
  exact answered.leads (R := fun before after => part after = part before) (fun _ => rfl)
    (fun first second => second.trans first) run asks keeps

/-- Every exchange was answered somewhere on the way. -/
theorem Answered.of_mem {before after : σ} {exchange : (question : Q) × Answer question}
    (answered : Answered answers before exchanges after) (member : exchange ∈ exchanges) :
    ∃ here next, answers here exchange.1 exchange.2 next := by
  induction answered with
  | nil => cases member
  | cons head _ ih =>
    rcases List.mem_cons.mp member with rfl | later
    · exact ⟨_, _, head⟩
    · exact ih later

/-- A run in surroundings that answer from a state has their answers. -/
theorem runs_run_answered (answer : (question : Q) → σ → Answer question × σ)
    (program : Program Q Answer ε α) (state : σ) :
    ∃ exchanges, Runs program exchanges (program.run answer state).1 ∧
      Answered (fun before question reply after => answer question before = (reply, after)) state
        exchanges (program.run answer state).2 := by
  induction program generalizing state with
  | done value => exact ⟨[], .done value, .nil state⟩
  | failed fault => exact ⟨[], .failed fault, .nil state⟩
  | ask question next ih =>
    obtain ⟨exchanges, run, answered⟩ := ih (answer question state).1 (answer question state).2
    exact ⟨_, .ask _ run, .cons rfl answered⟩

/-- What may be answered in one way may be answered in another that allows as much. -/
theorem Answered.mono {answers' : σ → (question : Q) → Answer question → σ → Prop} {before after : σ}
    (widen : ∀ before question answer after,
      answers before question answer after → answers' before question answer after)
    (answered : Answered answers before exchanges after) : Answered answers' before exchanges after := by
  induction answered with
  | nil state => exact .nil state
  | cons head _ ih => exact .cons (widen _ _ _ _ head) ih

end Answered

/-! ## Answers that stay the same -/

/-- The result of a program whose questions are always answered alike. -/
def result (answer : (question : Q) → Answer question) : Program Q Answer ε α → Except ε α
  | .done value => .ok value
  | .failed fault => .error fault
  | .ask question next => (next (answer question)).result answer

theorem result_bind (answer : (question : Q) → Answer question) :
    (program.bind rest).result answer =
      (program.result answer).bind fun value => (rest value).result answer := by
  induction program with
  | done | failed => rfl
  | ask question next ih => exact ih _

/-! ## Wider and narrower questions -/

theorem Asks.mono {allowed wider : Q → Prop} (asks : program.Asks allowed)
    (widen : ∀ question, allowed question → wider question) : program.Asks wider := by
  induction asks with
  | done value => exact .done value
  | failed fault => exact .failed fault
  | ask ok _ ih => exact .ask (widen _ ok) ih

theorem Asks.recover {allowed : Q → Prop} {rest : ε → Program Q Answer ε' α}
    (first : Asks allowed program) (then_ : ∀ fault, Asks allowed (rest fault)) :
    Asks allowed (program.recover rest) := by
  induction first with
  | done value => exact .done value
  | failed fault => exact then_ fault
  | ask ok _ ih => exact .ask ok fun answer => ih answer

/-! ## Questions that can come up -/

/-- The program asks this question in some of its runs. -/
inductive MayAsk (question : Q) : Program Q Answer ε α → Prop where
  | now {next : Answer question → Program Q Answer ε α} : MayAsk question (.ask question next)
  | later {other : Q} {next : Answer other → Program Q Answer ε α} (answer : Answer other) :
    MayAsk question (next answer) → MayAsk question (.ask other next)

theorem Asks.of_mayAsk {allowed : Q → Prop} {question : Q} (asks : program.Asks allowed)
    (may : program.MayAsk question) : allowed question := by
  induction may with
  | now =>
    cases asks with
    | ask ok _ => exact ok
  | later answer _ ih =>
    cases asks with
    | ask _ each => exact ih (each answer)

theorem Asks.within {allowed : Q' → Prop} {widen : Q → Q'}
    {narrow : ∀ question, Answer' (widen question) → Answer question}
    (asks : program.Asks fun question => allowed (widen question)) :
    Asks allowed (program.within widen narrow) := by
  induction asks with
  | done value => exact .done value
  | failed fault => exact .failed fault
  | ask ok _ ih => exact .ask ok fun answer => ih (narrow _ answer)

theorem Asks.mapM {allowed : Q → Prop} {each : β → Program Q Answer ε α}
    (asks : ∀ item, Asks allowed (each item)) (items : List β) :
    Asks allowed (items.mapM each) := by
  -- The items are gathered from behind, so the induction is for any that were gathered before.
  have gathering (items : List β) : ∀ gathered, Asks allowed (List.mapM.loop each items gathered) := by
    induction items with
    | nil => exact fun gathered => .done _
    | cons item rest ih => exact fun gathered => (asks item).bind fun value => ih (value :: gathered)
  exact gathering items []

/-! ## Questions that come up on the way -/

section Meets

variable {σ : Type} {answer : (question : Q) → σ → Answer question × σ} {state : σ}

/-- A program that is run from a state comes to ask a question of a kind, in a state that it is
answered from. -/
def Meets (answer : (question : Q) → σ → Answer question × σ) (kind : Q → σ → Prop) :
    Program Q Answer ε α → σ → Prop
  | .done _, _ | .failed _, _ => False
  | .ask question next, state =>
    kind question state ∨ Meets answer kind (next (answer question state).1) (answer question state).2

instance decidableMeets {kind : Q → σ → Prop} [∀ question state, Decidable (kind question state)] :
    (program : Program Q Answer ε α) → (state : σ) → Decidable (program.Meets answer kind state)
  | .done _, _ | .failed _, _ => .isFalse id
  | .ask question next, state =>
    have : Decidable ((next (answer question state).1).Meets answer kind (answer question state).2) :=
      decidableMeets _ _
    inferInstanceAs (Decidable (_ ∨ _))

variable {kind : Q → σ → Prop}

/-- What one program after another comes to, one of them comes to. -/
theorem meets_bind {rest : α → Program Q Answer ε β} :
    (program.bind rest).Meets answer kind state ↔
      program.Meets answer kind state ∨
        ∃ value, (program.run answer state).1 = .ok value ∧
          (rest value).Meets answer kind (program.run answer state).2 := by
  induction program generalizing state with
  | done value => simp [bind, Meets, run]
  | failed fault => simp [bind, Meets, run]
  | ask question next ih => simp only [bind, Meets, run, ih, or_assoc]

/-- What is asked is among the questions that can come up. -/
theorem Asks.of_meets {allowed : Q → Prop} (asks : program.Asks allowed)
    (meets : program.Meets answer kind state) : ∃ question here, allowed question ∧ kind question here := by
  induction asks generalizing state with
  | done | failed => exact meets.elim
  | @ask question next ok _ ih =>
    rcases meets with here | later
    · exact ⟨question, state, ok, here⟩
    · exact ih _ later

/-- What no answer to a question that can come up makes untrue, is true after a run. -/
theorem Asks.run_holds {allowed : Q → Prop} {holds : σ → Prop} (asks : program.Asks allowed)
    (keeps : ∀ question, allowed question → ∀ state, holds state → holds (answer question state).2)
    (start : holds state) : holds (program.run answer state).2 := by
  induction asks generalizing state with
  | done | failed => exact start
  | @ask question next ok _ ih => exact ih _ (keeps question ok state start)

/-- What the answer to a question of a kind makes true, and no later answer makes untrue, is true
in the end. -/
theorem Asks.meets_holds {allowed : Q → Prop} {holds : σ → Prop} (asks : program.Asks allowed)
    (keeps : ∀ question, allowed question → ∀ state, holds state → holds (answer question state).2)
    (makes : ∀ question, allowed question → ∀ state, kind question state → holds (answer question state).2)
    (meets : program.Meets answer kind state) : holds (program.run answer state).2 := by
  induction asks generalizing state with
  | done | failed => exact meets.elim
  | @ask question next ok each ih =>
    rcases meets with here | later
    · exact (each _).run_holds keeps (makes question ok state here)
    · exact ih _ later

end Meets

/-! ## Programs that follow others

Programs may go on alike though they ask otherwise. A retelling says what each question becomes, and
each of its answers with it. A program that follows another asks what the other one asks, retold, and
comes to the same result after the retold answers; so its runs are those of the other one, retold. -/

section Following

/-- Another question for each question, and another answer for each of its answers. -/
structure Retelling (Answer : Q → Type) where
  question : Q → Q
  answer : (asked : Q) → Answer asked → Answer (question asked)

/-- Exchanges, retold. -/
def Retelling.tell (retelling : Retelling Answer) (exchanges : Exchanges Q Answer) : Exchanges Q Answer :=
  exchanges.map fun exchange =>
    ⟨retelling.question exchange.1, retelling.answer exchange.1 exchange.2⟩

/-- The second program asks what the first asks, retold, and they come to the same results. -/
inductive Follows (retelling : Retelling Answer) :
    Program Q Answer ε α → Program Q Answer ε α → Prop where
  | done (value : α) : Follows retelling (.done value) (.done value)
  | failed (fault : ε) : Follows retelling (.failed fault) (.failed fault)
  | ask {question : Q} {next : Answer question → Program Q Answer ε α}
      {next' : Answer (retelling.question question) → Program Q Answer ε α} :
    (∀ answer, Follows retelling (next answer) (next' (retelling.answer question answer))) →
    Follows retelling (.ask question next) (.ask (retelling.question question) next')

variable {σ : Type} {retelling : Retelling Answer} {program' : Program Q Answer ε α}

theorem Follows.bind {rest rest' : α → Program Q Answer ε β} (first : Follows retelling program program')
    (later : ∀ value, Follows retelling (rest value) (rest' value)) :
    Follows retelling (program.bind rest) (program'.bind rest') := by
  induction first with
  | done value => exact later value
  | failed fault => exact .failed fault
  | ask _ ih => exact .ask ih

theorem Follows.recover {rest rest' : ε → Program Q Answer ε' α} (first : Follows retelling program program')
    (later : ∀ fault, Follows retelling (rest fault) (rest' fault)) :
    Follows retelling (program.recover rest) (program'.recover rest') := by
  induction first with
  | done value => exact .done value
  | failed fault => exact later fault
  | ask _ ih => exact .ask ih

theorem Follows.ite {condition : Prop} [Decidable condition] {other other' : Program Q Answer ε α}
    (where_ : Follows retelling program program') (else_ : Follows retelling other other') :
    Follows retelling (if condition then program else other) (if condition then program' else other') := by
  split
  · exact where_
  · exact else_

theorem Follows.ofExcept (result : Except ε α) :
    Follows retelling (.ofExcept result : Program Q Answer ε α) (.ofExcept result) := by
  cases result with
  | ok value => exact .done value
  | error fault => exact .failed fault

/-- A run, retold, is a run of the program that follows. -/
theorem Follows.runs {exchanges : Exchanges Q Answer} {outcome : Except ε α}
    (follows : Follows retelling program program') (run : Runs program exchanges outcome) :
    Runs program' (retelling.tell exchanges) outcome := by
  induction run generalizing program' with
  | done value =>
    cases follows
    exact .done value
  | failed fault =>
    cases follows
    exact .failed fault
  | ask answer _ ih =>
    cases follows with
    | ask each => exact .ask _ (ih (each answer))

/-- Where each retold answer may be given in the image of a state, so may all of them, one after the
other. -/
theorem Answered.retold {answers : σ → (question : Q) → Answer question → σ → Prop} {image : σ → σ}
    {allowed : Q → Prop} {before after : σ} {exchanges : Exchanges Q Answer}
    (answered : Answered answers before exchanges after)
    (asked : ∀ exchange ∈ exchanges, allowed exchange.1)
    (step : ∀ question, allowed question → ∀ before answer after, answers before question answer after →
      answers (image before) (retelling.question question) (retelling.answer question answer) (image after)) :
    Answered answers (image before) (retelling.tell exchanges) (image after) := by
  induction answered with
  | nil state => exact .nil _
  | cons head _ ih =>
    have later := ih fun exchange listed => asked exchange (.tail _ listed)
    exact .cons (step _ (asked _ (.head _)) _ _ _ head) later

end Following

end Curation.Program
