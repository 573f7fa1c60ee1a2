import Curation.Proofs.Check.Looking

/-! What checks read of their contexts. Of its channel a check reads the id alone. A
simulated check asks what the real one asks, except that it clears no logs; so whatever
else they are answered alike, they come to the same verdict. -/
namespace Curation.Check

open Program (Asks)

variable {ε α : Type}

/-- A check without its requests to clear logs, which always succeed. -/
def spare : Program Ask Answer ε α → Program Ask Answer ε α
  | .done value => .done value
  | .failed fault => .failed fault
  | .ask (.clearLogs _ _) next => spare (next ())
  | .ask question next => .ask question fun answer => spare (next answer)

theorem spare_of_quiet {check : Program Ask Answer ε α} (quiet : Quiet check) :
    spare check = check := by
  induction quiet with
  | done value | failed fault => rfl
  | @ask question next allowed _ ih =>
    cases question with
    | clearLogs channel fid => cases allowed
    | remote | together | cached | keep | timeLeft | pause =>
      simp only [spare]
      congr 1
      funext answer
      exact ih answer

/-- A context for a simulation or for the real run. -/
def Context.when (simulation : Bool) (ctx : Context) : Context := { ctx with simulation }

/-- A context in another channel of the same id, for a simulation or for the real run. -/
def Context.amid (channel : Channel) (simulation : Bool) (ctx : Context) : Context :=
  { ctx with channel := { channel with id := ctx.channel.id }, simulation }

variable (ctx : Context) (channel : Channel) (simulation : Bool)

/-- An entry whose check is the same, simulated or not, in any channel of the same id. -/
abbrev Unaffected (entry : Entry) : Prop := entry.run (ctx.amid channel simulation) = entry.run ctx

theorem Profile.entries_unaffected :
    ∀ entry ∈ Profile.entries, Unaffected ctx channel simulation entry := by
  simp only [Profile.entries, List.forall_mem_cons]
  exact ⟨rfl, rfl, rfl, rfl, rfl, rfl, List.forall_mem_nil _⟩

theorem Following.entries_unaffected :
    ∀ entry ∈ Following.entries, Unaffected ctx channel simulation entry := by
  simp only [Following.entries, List.forall_mem_cons]
  exact ⟨rfl, rfl, rfl, rfl, List.forall_mem_nil _⟩

theorem Content.entries_unaffected :
    ∀ entry ∈ Content.entries, Unaffected ctx channel simulation entry := by
  simp only [Content.entries, List.forall_mem_cons]
  exact ⟨rfl, rfl, rfl, rfl, rfl, rfl, List.forall_mem_nil _⟩

theorem Standing.entries_unaffected :
    ∀ entry ∈ Standing.entries, Unaffected ctx channel simulation entry := by
  simp only [Standing.entries, List.forall_mem_cons]
  exact ⟨rfl, rfl, rfl, rfl, rfl, List.forall_mem_nil _⟩

theorem Credentials.entries_unaffected :
    ∀ entry ∈ Credentials.entries, Unaffected ctx channel simulation entry := by
  simp only [Credentials.entries, List.forall_mem_cons]
  exact ⟨rfl, rfl, rfl, rfl, rfl, rfl, rfl, List.forall_mem_nil _⟩

theorem Hook.entries_unaffected :
    ∀ entry ∈ Hook.entries, Unaffected ctx channel simulation entry := by
  simp only [Hook.entries, List.forall_mem_cons]
  exact ⟨rfl, List.forall_mem_nil _⟩

namespace Holdings

private theorem anyBalance_amid (chain contract start : String) (standard : Remote.Tokens.Standard)
    (token : Option Int) (addresses : List String) :
    anyBalance (ctx.amid channel simulation) chain contract start standard token addresses =
      anyBalance ctx chain contract start standard token addresses := by
  induction addresses with
  | nil => rfl
  | cons address rest ih =>
    simp only [anyBalance, ih]
    rfl

private theorem anyBalanceNow_amid (chain contract : String) (addresses : List String) :
    anyBalanceNow (ctx.amid channel simulation) chain contract addresses =
      anyBalanceNow ctx chain contract addresses := by
  induction addresses with
  | nil => rfl
  | cons address rest ih =>
    simp only [anyBalanceNow, ih]
    rfl

theorem entries_unaffected : ∀ entry ∈ entries, Unaffected ctx channel simulation entry := by
  simp only [entries, List.forall_mem_cons]
  refine ⟨rfl, ?_, ?_, ?_, rfl, rfl, List.forall_mem_nil _⟩
  · simp only [Unaffected, erc721, anyBalance_amid]
    rfl
  · simp only [Unaffected, erc1155, anyBalance_amid]
    rfl
  · simp only [Unaffected, hypersub, anyBalanceNow_amid]
    rfl

end Holdings

/-- Admission by hand simulated is admission by hand without clearing logs. -/
private theorem manuallyApprove_simulated :
    Admission.manuallyApprove.run (ctx.when true) =
      spare (Admission.manuallyApprove.run (ctx.when false)) := by
  simp only [Admission.manuallyApprove, Context.when]
  cases ctx.hasLogs with
  | true | false => rfl

private theorem simulated_of_unaffected {entries : List Entry}
    (same : ∀ entry ∈ entries, Unaffected (ctx.when false) ctx.channel true entry)
    (look : ∀ entry ∈ entries, Looks (entry.run (ctx.when false))) :
    ∀ entry ∈ entries, entry.run (ctx.when true) = spare (entry.run (ctx.when false)) := by
  intro entry listed
  rw [spare_of_quiet (look entry listed).quiet]
  exact same entry listed

private theorem admission_simulated : ∀ entry ∈ Admission.entries,
    entry.run (ctx.when true) = spare (entry.run (ctx.when false)) := by
  simp only [Admission.entries, List.forall_mem_cons]
  exact ⟨rfl, rfl, rfl, manuallyApprove_simulated ctx, List.forall_mem_nil _⟩

/-- A simulated check is the real one without clearing logs. -/
theorem run_simulated : ∀ entry ∈ catalogue,
    entry.run (ctx.when true) = spare (entry.run (ctx.when false)) := by
  simp only [catalogue, List.forall_mem_append]
  refine ⟨⟨⟨⟨⟨⟨⟨admission_simulated ctx, ?_⟩, ?_⟩, ?_⟩, ?_⟩, ?_⟩, ?_⟩, ?_⟩
  · exact simulated_of_unaffected ctx (Profile.entries_unaffected _ _ _) (Profile.entries_look _)
  · exact simulated_of_unaffected ctx (Following.entries_unaffected _ _ _) (Following.entries_look _)
  · exact simulated_of_unaffected ctx (Content.entries_unaffected _ _ _) (Content.entries_look _)
  · exact simulated_of_unaffected ctx (Holdings.entries_unaffected _ _ _) (Holdings.entries_look _)
  · exact simulated_of_unaffected ctx (Standing.entries_unaffected _ _ _) (Standing.entries_look _)
  · exact simulated_of_unaffected ctx (Credentials.entries_unaffected _ _ _)
      (Credentials.entries_look _)
  · exact simulated_of_unaffected ctx (Hook.entries_unaffected _ _ _) (Hook.entries_look _)

/-- Of its channel a check reads the id alone: it is the same check in any channel of the same id. -/
theorem run_amid : ∀ entry ∈ catalogue, Unaffected ctx channel ctx.simulation entry := by
  have admission : ∀ entry ∈ Admission.entries, Unaffected ctx channel ctx.simulation entry := by
    simp only [Admission.entries, List.forall_mem_cons]
    exact ⟨rfl, rfl, rfl, rfl, List.forall_mem_nil _⟩
  simp only [catalogue, List.forall_mem_append]
  exact ⟨⟨⟨⟨⟨⟨⟨admission, Profile.entries_unaffected ctx _ _⟩, Following.entries_unaffected ctx _ _⟩,
    Content.entries_unaffected ctx _ _⟩, Holdings.entries_unaffected ctx _ _⟩,
    Standing.entries_unaffected ctx _ _⟩, Credentials.entries_unaffected ctx _ _⟩,
    Hook.entries_unaffected ctx _ _⟩

end Curation.Check
