import Curation.Proofs.Check.Inquiries

/-! Checks only look. A check calls services for what they know, keeps answers under
keys of its own, and leaves the store alone. The only one that changes the store is
admission by hand, which clears the user's logs, and in a simulation it does not
either. -/
namespace Curation.Check

open Program (Asks)
open Remote (Reads)

variable {ε α : Type}

/-- How the keys of the answers that checks keep begin. -/
def keyStarts : List String :=
  ["erc721-balance:", "erc1155-balance:", "erc721-owner:", "powerbadge", "airstack:far-rank:",
    "openrank:global-rank:", "openrank:channel-rank:"]

/-- A key under which checks keep answers. -/
def IsOwnKey (key : String) : Prop := ∃ start ∈ keyStarts, start.toList <+: key.toList

theorem IsOwnKey.of_start {start : String} (listed : start ∈ keyStarts) : IsOwnKey start :=
  ⟨start, listed, List.prefix_rfl⟩

theorem IsOwnKey.append {key : String} (own : IsOwnKey key) (rest : String) :
    IsOwnKey (key ++ rest) := by
  obtain ⟨start, listed, starts⟩ := own
  refine ⟨start, listed, ?_⟩
  rw [String.toList_append]
  exact starts.trans (List.prefix_append _ _)

/-- A question that changes nothing but what the checks keep for themselves. -/
def Ask.IsLooking : Ask → Prop
  | .remote ask => ask.isReading = true
  | .together calls => ∀ call ∈ calls, Reads call
  | .keep key _ _ => IsOwnKey key
  | .clearLogs .. => False
  | .cached _ | .timeLeft _ | .pause _ => True

/-- A check that only looks, whatever it is answered. -/
abbrev Looks (check : Program Ask Answer ε α) : Prop := check.Asks Ask.IsLooking

/-- A question that leaves the store alone. -/
def Ask.isQuiet : Ask → Bool
  | .clearLogs .. => false
  | _ => true

/-- A check that leaves the store alone, whatever it is answered. -/
abbrev Quiet (check : Program Ask Answer ε α) : Prop := check.Asks (·.isQuiet = true)

theorem Looks.quiet {check : Program Ask Answer ε α} (looks : Looks check) : Quiet check := by
  refine looks.mono fun question looking => ?_
  cases question with
  | clearLogs => exact looking.elim
  | remote | together | cached | keep | timeLeft | pause => rfl

theorem Ask.IsPlain.looks {question : Ask} (plain : question.IsPlain) : question.IsLooking := by
  cases question with
  | remote | together | timeLeft | pause => exact plain
  | cached | keep | clearLogs => exact plain.elim

theorem Plain.looks {check : Check α} (plain : Plain check) : Looks check :=
  plain.mono fun _ => Ask.IsPlain.looks

theorem Inquiry.start_listed (inquiry : Inquiry) : inquiry.start ∈ keyStarts := by
  cases inquiry with
  | badges | farRank | globalRank | channelRank | owner | balance | tokenBalance =>
    simp [Inquiry.start, keyStarts]

theorem Inquiry.key_own (inquiry : Inquiry) : IsOwnKey inquiry.key := by
  rw [inquiry.key_eq]
  exact (IsOwnKey.of_start inquiry.start_listed).append _

/-- A check that only looks but for its inquiries only looks. -/
theorem Consults.looks {directory : Remote.Directory} {inquires : Inquiry → Prop} {check : Check α}
    (consults : Consults Ask.IsPlain directory inquires check) : Looks check := by
  induction consults with
  | done value => exact .done value
  | failed failure => exact .failed failure
  | ask ok _ ih => exact .ask ok.looks ih
  | @inquire inquiry _ _ own _ ih =>
    refine Asks.bind (.ask trivial fun found => ?_) ih
    cases found with
    | some value => exact .done value
    | none =>
      exact (inquiry.fresh_plain directory).looks.bind fun value => .ask inquiry.key_own fun _ => .done value

/-! ## The catalogue -/

variable (ctx : Context)

theorem Profile.entries_look : ∀ entry ∈ Profile.entries, Looks (entry.run ctx) :=
  fun entry listed => (Profile.entries_consult ctx entry listed).looks

theorem Following.entries_look : ∀ entry ∈ Following.entries, Looks (entry.run ctx) :=
  fun entry listed => (Following.entries_plain ctx entry listed).looks

theorem Content.entries_look : ∀ entry ∈ Content.entries, Looks (entry.run ctx) :=
  fun entry listed => (Content.entries_plain ctx entry listed).looks

theorem Holdings.entries_look : ∀ entry ∈ Holdings.entries, Looks (entry.run ctx) :=
  fun entry listed => (Holdings.entries_consult ctx entry listed).looks

theorem Standing.entries_look : ∀ entry ∈ Standing.entries, Looks (entry.run ctx) :=
  fun entry listed => (Standing.entries_consult ctx entry listed).looks

theorem Credentials.entries_look : ∀ entry ∈ Credentials.entries, Looks (entry.run ctx) :=
  fun entry listed => (Credentials.entries_plain ctx entry listed).looks

theorem Hook.entries_look : ∀ entry ∈ Hook.entries, Looks (entry.run ctx) :=
  fun entry listed => (Hook.entries_plain ctx entry listed).looks

namespace Admission

/-- Admission by hand clears logs, but not in a simulation. -/
theorem entries_clear : ∀ entry ∈ entries,
    (entry.run ctx).Asks fun ask =>
      ask = .clearLogs ctx.channel.id (toString ctx.user.fid) ∧ ctx.simulation = false := by
  simp only [entries, List.forall_mem_cons]
  refine ⟨.done _, .done _, .done _, ?_, List.forall_mem_nil _⟩
  simp only [manuallyApprove]
  cases real : ctx.simulation with
  | true => exact .done _
  | false =>
    cases ctx.hasLogs with
    | true => exact .ask ⟨rfl, rfl⟩ fun _ => .done _
    | false => exact .done _

end Admission

/-- A check of the catalogue looks, or clears the logs of its user where it is not
simulated. -/
theorem catalogue_asks : ∀ entry ∈ catalogue, (entry.run ctx).Asks fun ask =>
    ask.IsLooking ∨ ask = .clearLogs ctx.channel.id (toString ctx.user.fid) ∧ ctx.simulation = false := by
  have looking {entries : List Entry} (look : ∀ entry ∈ entries, Looks (entry.run ctx)) :
      ∀ entry ∈ entries, (entry.run ctx).Asks fun ask =>
        ask.IsLooking ∨ ask = .clearLogs ctx.channel.id (toString ctx.user.fid) ∧ ctx.simulation = false :=
    fun entry listed => (look entry listed).mono fun _ => .inl
  simp only [catalogue, List.forall_mem_append]
  refine ⟨⟨⟨⟨⟨⟨⟨fun entry listed => ?_, ?_⟩, ?_⟩, ?_⟩, ?_⟩, ?_⟩, ?_⟩, ?_⟩
  · exact (Admission.entries_clear ctx entry listed).mono fun _ => .inr
  · exact looking (Profile.entries_look ctx)
  · exact looking (Following.entries_look ctx)
  · exact looking (Content.entries_look ctx)
  · exact looking (Holdings.entries_look ctx)
  · exact looking (Standing.entries_look ctx)
  · exact looking (Credentials.entries_look ctx)
  · exact looking (Hook.entries_look ctx)

end Curation.Check
