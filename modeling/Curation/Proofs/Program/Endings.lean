import Curation.Proofs.Program.Runs

/-! How programs end where every answer fits its question. What fits is a condition on single
answers, so the endings of a program are put together from those of its parts. Some programs return
as long as their surroundings help. Another condition on questions says what such a program may ask
meanwhile, so that where the answers come from a state, what is asked can keep the state helpful. -/
namespace Curation.Program

variable {Q Q' : Type} {Answer : Q → Type} {Answer' : Q' → Type} {ε ε' α β : Type}

/-! ## Returning -/

/-- As long as all answers help, the program asks what it may and does not fail. -/
inductive Completes (helps : (question : Q) → Answer question → Prop) (may : Q → Prop) :
    Program Q Answer ε α → Prop where
  | done (value : α) : Completes helps may (.done value)
  | ask {question : Q} {next : Answer question → Program Q Answer ε α} :
    may question → (∀ answer, helps question answer → Completes helps may (next answer)) →
    Completes helps may (.ask question next)

namespace Completes

variable {helps : (question : Q) → Answer question → Prop} {may : Q → Prop}
  {program : Program Q Answer ε α} {rest : α → Program Q Answer ε β}

theorem bind (first : Completes helps may program) (second : ∀ value, Completes helps may (rest value)) :
    Completes helps may (program.bind rest) := by
  induction first with
  | done value => exact second value
  | ask ok _ ih => exact .ask ok ih

/-- What does not fail needs no recovery. -/
theorem recover {rest : ε → Program Q Answer ε' α} (first : Completes helps may program) :
    Completes helps may (program.recover rest) := by
  induction first with
  | done value => exact .done value
  | ask ok _ ih => exact .ask ok ih

theorem within {helps' : (question : Q') → Answer' question → Prop} {may' : Q' → Prop}
    {widen : Q → Q'} {narrow : ∀ question, Answer' (widen question) → Answer question}
    (helpful : ∀ question answer, helps' (widen question) answer → helps question (narrow question answer))
    (allowed : ∀ question, may question → may' (widen question)) (first : Completes helps may program) :
    Completes helps' may' (program.within widen narrow) := by
  induction first with
  | done value => exact .done value
  | ask ok _ ih => exact .ask (allowed _ ok) fun answer helped => ih _ (helpful _ answer helped)

/-- Where a sound state helps, and is left sound by what the program may ask, every run from
there returns. -/
theorem returns {σ : Type} {P : σ → Prop} {before after : σ} {outcome : Except ε α}
    {answers : σ → (question : Q) → Answer question → σ → Prop} {exchanges : Exchanges Q Answer}
    (completes : Completes helps may program) (run : Runs program exchanges outcome)
    (answered : Answered answers before exchanges after) (start : P before)
    (step : ∀ question answer, ⟨question, answer⟩ ∈ exchanges → may question →
      ∀ before after, P before → answers before question answer after →
        helps question answer ∧ P after) :
    ∃ value, outcome = .ok value := by
  induction run generalizing before with
  | done value => exact ⟨value, rfl⟩
  | failed fault => cases completes
  | ask answer _ ih =>
    cases completes with
    | ask ok each =>
      cases answered with
      | cons head tail =>
        obtain ⟨helped, kept⟩ := step _ answer (.head _) ok _ _ start head
        exact ih (each answer helped) tail kept fun question answer listed =>
          step question answer (.tail _ listed)

end Completes

/-! ## Ending -/

theorem ok_eq_mapError {widen : ε → ε'} {result : Except ε α} {value : α} :
    .ok value = result.mapError widen ↔ result = .ok value := by
  constructor
  · intro same
    cases result with
    | ok other => exact congrArg Except.ok (Except.ok.inj same).symm
    | error fault => cases same
  · rintro rfl
    rfl

theorem error_eq_mapError {widen : ε → ε'} {result : Except ε α} {fault' : ε'} :
    .error fault' = result.mapError widen ↔ ∃ fault, result = .error fault ∧ fault' = widen fault := by
  constructor
  · intro same
    cases result with
    | ok value => cases same
    | error fault => exact ⟨fault, rfl, Except.error.inj same⟩
  · rintro ⟨fault, rfl, rfl⟩
    rfl

/-- With answers that fit their questions, the program may end like this. -/
inductive MayEnd (fits : (question : Q) → Answer question → Prop) :
    Program Q Answer ε α → Except ε α → Prop where
  | done (value : α) : MayEnd fits (.done value) (.ok value)
  | failed (fault : ε) : MayEnd fits (.failed fault) (.error fault)
  | ask {question : Q} {next : Answer question → Program Q Answer ε α} {outcome : Except ε α}
      {answer : Answer question} :
    fits question answer → MayEnd fits (next answer) outcome → MayEnd fits (.ask question next) outcome

variable {fits : (question : Q) → Answer question → Prop} {program : Program Q Answer ε α}
  {rest : α → Program Q Answer ε β}

theorem mayEnd_done {value : α} {outcome : Except ε α} :
    MayEnd fits (.done value) outcome ↔ outcome = .ok value := by
  constructor
  · rintro ⟨⟩
    rfl
  · rintro rfl
    exact .done value

theorem mayEnd_failed {fault : ε} {outcome : Except ε α} :
    MayEnd fits (.failed fault) outcome ↔ outcome = .error fault := by
  constructor
  · rintro ⟨⟩
    rfl
  · rintro rfl
    exact .failed fault

theorem mayEnd_ask {question : Q} {next : Answer question → Program Q Answer ε α} {outcome : Except ε α} :
    MayEnd fits (.ask question next) outcome ↔
      ∃ answer, fits question answer ∧ MayEnd fits (next answer) outcome := by
  constructor
  · rintro ⟨⟩
    exact ⟨_, ‹_›, ‹_›⟩
  · rintro ⟨answer, fit, later⟩
    exact .ask fit later

/-- One program after another ends as the first where that fails, and else as the second. -/
theorem mayEnd_bind {outcome : Except ε β} :
    MayEnd fits (program.bind rest) outcome ↔
      (∃ fault, outcome = .error fault ∧ MayEnd fits program (.error fault)) ∨
      ∃ value, MayEnd fits program (.ok value) ∧ MayEnd fits (rest value) outcome := by
  induction program with
  | done value =>
    constructor
    · exact fun second => .inr ⟨value, .done value, second⟩
    · rintro (⟨_, -, ⟨⟩⟩ | ⟨_, ⟨⟩, second⟩)
      exact second
  | failed fault =>
    constructor
    · exact fun ends => .inl ⟨fault, mayEnd_failed.mp ends, .failed fault⟩
    · rintro (⟨_, rfl, ⟨⟩⟩ | ⟨_, ⟨⟩, -⟩)
      exact .failed fault
  | ask question next ih =>
    constructor
    · intro ends
      obtain ⟨answer, fit, later⟩ := mayEnd_ask.mp ends
      rcases (ih answer).mp later with ⟨fault, same, first⟩ | ⟨value, first, second⟩
      · exact .inl ⟨fault, same, .ask fit first⟩
      · exact .inr ⟨value, .ask fit first, second⟩
    · rintro (⟨fault, same, first⟩ | ⟨value, first, second⟩)
      · obtain ⟨answer, fit, first⟩ := mayEnd_ask.mp first
        exact .ask fit ((ih answer).mpr (.inl ⟨fault, same, first⟩))
      · obtain ⟨answer, fit, first⟩ := mayEnd_ask.mp first
        exact .ask fit ((ih answer).mpr (.inr ⟨value, first, second⟩))

theorem mayEnd_bind_error {fault : ε} :
    MayEnd fits (program.bind rest) (.error fault) ↔ MayEnd fits program (.error fault) ∨
      ∃ value, MayEnd fits program (.ok value) ∧ MayEnd fits (rest value) (.error fault) := by
  simp [mayEnd_bind]

theorem mayEnd_bind_ok {value : β} :
    MayEnd fits (program.bind rest) (.ok value) ↔
      ∃ middle, MayEnd fits program (.ok middle) ∧ MayEnd fits (rest middle) (.ok value) := by
  simp [mayEnd_bind]

/-- In wider surroundings a program ends as it does in its own. -/
theorem mayEnd_within {fits' : (question : Q') → Answer' question → Prop} {widen : Q → Q'}
    {narrow : ∀ question, Answer' (widen question) → Answer question}
    (same : ∀ question answer,
      (∃ answer', narrow question answer' = answer ∧ fits' (widen question) answer') ↔ fits question answer)
    {outcome : Except ε α} :
    MayEnd fits' (program.within widen narrow) outcome ↔ MayEnd fits program outcome := by
  induction program with
  | done value => exact mayEnd_done.trans mayEnd_done.symm
  | failed fault => exact mayEnd_failed.trans mayEnd_failed.symm
  | ask question next ih =>
    simp only [within, mayEnd_ask, ih, ← same]
    constructor
    · rintro ⟨answer, fit, later⟩
      exact ⟨narrow question answer, ⟨answer, rfl, fit⟩, later⟩
    · rintro ⟨_, ⟨answer, rfl, fit⟩, later⟩
      exact ⟨answer, fit, later⟩

/-- Surroundings that answer from a state, and whose answers fit, let a program end as it may. -/
theorem mayEnd_run {σ : Type} {answer : (question : Q) → σ → Answer question × σ}
    (fit : ∀ question state, fits question (answer question state).1) (program : Program Q Answer ε α)
    (state : σ) :
    MayEnd fits program (program.run answer state).1 := by
  induction program generalizing state with
  | done value => exact .done value
  | failed fault => exact .failed fault
  | ask question next ih => exact .ask (fit question state) (ih _ _)

end Curation.Program
