/-!
Programs that ask questions of their surroundings. A program either has its result, or has failed,
or waits for the answer to a question; nothing is assumed about who answers or when. Main
statements: running one program after another, and what holds of every question that a program can
ask whatever the answers were.
-/
namespace Curation

/-- A program over questions `Q`, each with its type of answers, that gives an `α` or fails. -/
inductive Program (Q : Type) (Answer : Q → Type) (ε α : Type) where
  | done (value : α)
  | failed (fault : ε)
  | ask (question : Q) (next : Answer question → Program Q Answer ε α)

namespace Program

variable {Q Q' : Type} {Answer : Q → Type} {Answer' : Q' → Type} {ε ε' α β : Type}

instance [Inhabited α] : Inhabited (Program Q Answer ε α) := ⟨.done default⟩

/-- Goes on with the result. -/
def bind : Program Q Answer ε α → (α → Program Q Answer ε β) → Program Q Answer ε β
  | .done value, rest => rest value
  | .failed fault, _ => .failed fault
  | .ask question next, rest => .ask question fun answer => (next answer).bind rest

/-- Goes on after a failure. -/
def recover : Program Q Answer ε α → (ε → Program Q Answer ε' α) → Program Q Answer ε' α
  | .done value, _ => .done value
  | .failed fault, rest => rest fault
  | .ask question next, rest => .ask question fun answer => (next answer).recover rest

instance : Monad (Program Q Answer ε) where
  pure := .done
  bind := bind

instance : MonadExcept ε (Program Q Answer ε) where
  throw := .failed
  tryCatch := recover

/-- A result that was worked out without asking. -/
def ofExcept : Except ε α → Program Q Answer ε α
  | .ok value => .done value
  | .error fault => .failed fault

/-- The same program over wider surroundings. -/
def within (widen : Q → Q') (narrow : ∀ q, Answer' (widen q) → Answer q) :
    Program Q Answer ε α → Program Q' Answer' ε α
  | .done value => .done value
  | .failed fault => .failed fault
  | .ask question next =>
    .ask (widen question) fun answer => (next (narrow question answer)).within widen narrow

/-- Every question that can come up satisfies a condition. -/
inductive Asks (allowed : Q → Prop) : Program Q Answer ε α → Prop where
  | done (value : α) : Asks allowed (.done value)
  | failed (fault : ε) : Asks allowed (.failed fault)
  | ask {question : Q} {next : Answer question → Program Q Answer ε α} :
    allowed question → (∀ answer, Asks allowed (next answer)) → Asks allowed (.ask question next)

theorem Asks.bind {allowed : Q → Prop} {program : Program Q Answer ε α}
    {rest : α → Program Q Answer ε β} (first : Asks allowed program)
    (then_ : ∀ value, Asks allowed (rest value)) : Asks allowed (program.bind rest) := by
  induction first with
  | done value => exact then_ value
  | failed fault => exact .failed fault
  | ask ok _ ih => exact .ask ok fun answer => ih answer

theorem bind_assoc {γ : Type} (program : Program Q Answer ε α) (f : α → Program Q Answer ε β)
    (g : β → Program Q Answer ε γ) :
    (program.bind f).bind g = program.bind fun value => (f value).bind g := by
  induction program with
  | done value => rfl
  | failed fault => rfl
  | ask question next ih => simp only [bind]; congr; funext answer; exact ih answer

/-- Runs a program in surroundings that answer each question from a state. -/
def run {σ : Type} (answer : (q : Q) → σ → Answer q × σ) : Program Q Answer ε α → σ → Except ε α × σ
  | .done value, state => (.ok value, state)
  | .failed fault, state => (.error fault, state)
  | .ask question next, state =>
    let (reply, state) := answer question state
    (next reply).run answer state

theorem run_bind {σ : Type} (answer : (q : Q) → σ → Answer q × σ) (program : Program Q Answer ε α)
    (rest : α → Program Q Answer ε β) (state : σ) :
    (program.bind rest).run answer state =
      match program.run answer state with
      | (.ok value, state) => (rest value).run answer state
      | (.error fault, state) => (.error fault, state) := by
  induction program generalizing state with
  | done value => rfl
  | failed fault => rfl
  | ask question next ih => simp only [bind, run]; exact ih _ _

end Program

end Curation
