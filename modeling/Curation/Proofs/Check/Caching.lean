import Curation.Proofs.Cache.Claims
import Curation.Proofs.Check.Looking
import Curation.Proofs.Text

/-! Answers that are kept. A key of the cache names the kind of the inquiry that it stands for, and then
the user, the channel, the contract, the wallet and the token, with colons in between. It does not
name the chain of a contract, and of a token id it has the text only.

Where services answer the same question always alike, a check that finds an answer in the cache
comes to the result that it has with an empty cache, as long as nothing else was kept under a key of
its own. -/
namespace Curation.Check

open Text (IsUnbroken toString_inj toString_unbroken colon_first colon_last)

/-! ## Keys -/

/-- The contract of an inquiry, if it has one, is called by a text without a colon. -/
def Inquiry.HasPlainContract : Inquiry → Prop
  | .owner _ contract _ | .balance _ contract _ | .tokenBalance _ contract _ _ => IsUnbroken contract
  | .badges | .farRank _ | .globalRank _ | .channelRank .. => True

/-- Two inquiries about the same contract that differ in the chain, or in what token the
text of an id stands for. -/
inductive Inquiry.Resembles : Inquiry → Inquiry → Prop
  | owner {chain chain' contract : String} {token token' : Json} : token.display = token'.display →
    Resembles (.owner chain contract token) (.owner chain' contract token')
  | balance {chain chain' contract address : String} :
    Resembles (.balance chain contract address) (.balance chain' contract address)
  | tokenBalance {chain chain' contract address : String} {token : Int} :
    Resembles (.tokenBalance chain contract address token) (.tokenBalance chain' contract address token)

theorem Inquiry.Resembles.key {inquiry other : Inquiry} (resembles : inquiry.Resembles other) :
    inquiry.key = other.key := by
  cases resembles with
  | @owner _ _ contract _ _ same => exact congrArg (fun text => s!"erc721-owner:{contract}:{text}") same
  | balance | tokenBalance => rfl

/-- No key begins in two ways. -/
private theorem starts_apart {start start' : String} (listed : start ∈ keyStarts)
    (listed' : start' ∈ keyStarts) (starts : start.toList <+: start'.toList) : start = start' := by
  have apart : ∀ start ∈ keyStarts, ∀ start' ∈ keyStarts, start.toList <+: start'.toList → start = start' := by
    decide
  exact apart start listed start' listed' starts

theorem Inquiry.start_of_key {inquiry other : Inquiry} (same : inquiry.key = other.key) :
    inquiry.start = other.start := by
  have whole := congrArg String.toList same
  rw [inquiry.key_eq, other.key_eq, String.toList_append, String.toList_append] at whole
  have first : inquiry.start.toList <+: other.start.toList ++ other.subject.toList :=
    ⟨_, whole⟩
  have second : other.start.toList <+: other.start.toList ++ other.subject.toList := List.prefix_append _ _
  rcases List.prefix_or_prefix_of_prefix first second with starts | starts
  · exact starts_apart inquiry.start_listed other.start_listed starts
  · exact (starts_apart other.start_listed inquiry.start_listed starts).symm

theorem Inquiry.subject_of_key {inquiry other : Inquiry} (same : inquiry.key = other.key) :
    inquiry.subject = other.subject := by
  have starts := start_of_key same
  rw [inquiry.key_eq, other.key_eq, starts] at same
  exact (String.append_right_inj _).mp same

/-- Two inquiries of one kind. -/
inductive Inquiry.SameKind : Inquiry → Inquiry → Prop
  | badges : SameKind .badges .badges
  | farRank {fid fid' : Int} : SameKind (.farRank fid) (.farRank fid')
  | globalRank {fid fid' : Int} : SameKind (.globalRank fid) (.globalRank fid')
  | channelRank {channel channel' : String} {fid fid' : Int} :
    SameKind (.channelRank channel fid) (.channelRank channel' fid')
  | owner {chain chain' contract contract' : String} {token token' : Json} :
    SameKind (.owner chain contract token) (.owner chain' contract' token')
  | balance {chain chain' contract contract' address address' : String} :
    SameKind (.balance chain contract address) (.balance chain' contract' address')
  | tokenBalance {chain chain' contract contract' address address' : String} {token token' : Int} :
    SameKind (.tokenBalance chain contract address token) (.tokenBalance chain' contract' address' token')

/-- Inquiries of different kinds have keys that begin differently. -/
theorem Inquiry.sameKind_of_key {inquiry other : Inquiry} (same : inquiry.key = other.key) :
    inquiry.SameKind other := by
  have starts := start_of_key same
  cases inquiry with
  | badges =>
    cases other with
    | badges => exact .badges
    | _ => simp [Inquiry.start] at starts
  | farRank =>
    cases other with
    | farRank => exact .farRank
    | _ => simp [Inquiry.start] at starts
  | globalRank =>
    cases other with
    | globalRank => exact .globalRank
    | _ => simp [Inquiry.start] at starts
  | channelRank =>
    cases other with
    | channelRank => exact .channelRank
    | _ => simp [Inquiry.start] at starts
  | owner =>
    cases other with
    | owner => exact .owner
    | _ => simp [Inquiry.start] at starts
  | balance =>
    cases other with
    | balance => exact .balance
    | _ => simp [Inquiry.start] at starts
  | tokenBalance =>
    cases other with
    | tokenBalance => exact .tokenBalance
    | _ => simp [Inquiry.start] at starts

/-- A key tells its inquiry from all others but those that resemble it. -/
theorem Inquiry.resembles_of_key {inquiry other : Inquiry} (plain : inquiry.HasPlainContract)
    (plain' : other.HasPlainContract) (same : inquiry.key = other.key) :
    inquiry = other ∨ inquiry.Resembles other := by
  have subjects := subject_of_key same
  cases sameKind_of_key same with
  | badges => exact .inl rfl
  | farRank | globalRank =>
    obtain rfl := toString_inj subjects
    exact .inl rfl
  | channelRank =>
    obtain ⟨rfl, fids⟩ := colon_last (toString_unbroken _) (toString_unbroken _) subjects
    obtain rfl := toString_inj fids
    exact .inl rfl
  | owner =>
    obtain ⟨rfl, tokens⟩ := colon_first plain plain' subjects
    exact .inr (.owner tokens)
  | balance =>
    obtain ⟨rfl, rfl⟩ := colon_first plain plain' subjects
    exact .inr .balance
  | tokenBalance =>
    obtain ⟨wallets, tokens⟩ := colon_last (toString_unbroken _) (toString_unbroken _) subjects
    obtain ⟨rfl, rfl⟩ := colon_first plain plain' wallets
    obtain rfl := toString_inj tokens
    exact .inr .tokenBalance

open Program (Asks Exchanges Runs runs_bind answered_append)

variable {α β : Type} {directory : Remote.Directory}

/-! ## A cache in the process -/

/-- What services answer, always the same to the same question. -/
abbrev Upstream := (question : Ask) → Answer question

/-- The answers where nothing is kept. -/
def Upstream.afresh (upstream : Upstream) : Upstream
  | .cached _ => none
  | .keep .. => ()
  | question => upstream question

/-- A question that leaves the cache alone. -/
def Ask.sparesCache : Ask → Bool
  | .cached _ | .keep .. => false
  | _ => true

theorem Ask.IsPlain.sparesCache {question : Ask} (plain : question.IsPlain) :
    question.sparesCache = true := by
  cases question with
  | remote | together | timeLeft | pause => rfl
  | cached | keep | clearLogs => exact plain.elim

theorem Plain.sparesCache {check : Check α} (plain : Plain check) : check.Asks (·.sparesCache = true) :=
  plain.mono fun _ => Ask.IsPlain.sparesCache

/-- A question may be answered so, at one of these times, and leaves this in the cache. -/
def Serves (upstream : Upstream) (during : Number → Prop) (before : Cache) :
    (question : Ask) → Answer question → Cache → Prop
  | .cached key, found, after => ∃ now, during now ∧ (found, after) = before.get key now
  | .keep key value ttl, _, after => ∃ now, during now ∧ after = before.put key value ttl now
  | question, answer, after => answer = upstream question ∧ after = before

abbrev Served (upstream : Upstream) (during : Number → Prop) : Cache → Exchanges Ask Answer → Cache → Prop :=
  Program.Answered (Serves upstream during)

variable {upstream : Upstream} {during : Number → Prop} {before after : Cache}

theorem Serves.spares {question : Ask} {answer : Answer question}
    (serves : Serves upstream during before question answer after) (spares : question.sparesCache = true) :
    answer = upstream.afresh question ∧ after = before := by
  cases question with
  | cached | keep => cases spares
  | remote | together | timeLeft | pause | clearLogs => exact serves

/-- With one cache the check may come to this result, and leaves the other. -/
def Concludes (upstream : Upstream) (during : Number → Prop) (before : Cache) (check : Check α)
    (outcome : Except Failure α) (after : Cache) : Prop :=
  ∃ exchanges, Runs check exchanges outcome ∧ Served upstream during before exchanges after

/-- A question can be answered at any time. -/
theorem Serves.total (upstream : Upstream) {now : Number} (at_ : during now) (before : Cache) (question : Ask) :
    ∃ answer after, Serves upstream during before question answer after := by
  cases question with
  | cached key => exact ⟨_, _, now, at_, rfl⟩
  | keep key value ttl => exact ⟨(), _, now, at_, rfl⟩
  | remote | together | timeLeft | pause | clearLogs => exact ⟨_, _, rfl, rfl⟩

/-- Every check comes to a result. -/
theorem Concludes.total (upstream : Upstream) {now : Number} (at_ : during now) (before : Cache)
    (check : Check α) : ∃ outcome after, Concludes upstream during before check outcome after := by
  induction check generalizing before with
  | done value => exact ⟨_, before, [], .done value, .nil before⟩
  | failed failure => exact ⟨_, before, [], .failed failure, .nil before⟩
  | ask question next ih =>
    obtain ⟨answer, middle, serves⟩ := Serves.total upstream at_ before question
    obtain ⟨outcome, after, exchanges, run, served⟩ := ih answer middle
    exact ⟨outcome, after, _, .ask answer run, .cons serves served⟩

theorem concludes_done {value : α} {outcome : Except Failure α} :
    Concludes upstream during before (.done value) outcome after ↔ outcome = .ok value ∧ after = before := by
  constructor
  · rintro ⟨_, run, served⟩
    cases run
    cases served
    exact ⟨rfl, rfl⟩
  · rintro ⟨rfl, rfl⟩
    exact ⟨[], .done value, .nil _⟩

theorem concludes_failed {failure : Failure} {outcome : Except Failure α} :
    Concludes upstream during before (.failed failure) outcome after ↔
      outcome = .error failure ∧ after = before := by
  constructor
  · rintro ⟨_, run, served⟩
    cases run
    cases served
    exact ⟨rfl, rfl⟩
  · rintro ⟨rfl, rfl⟩
    exact ⟨[], .failed failure, .nil _⟩

theorem concludes_ask {question : Ask} {next : Answer question → Check α} {outcome : Except Failure α} :
    Concludes upstream during before (.ask question next) outcome after ↔
      ∃ answer middle, Serves upstream during before question answer middle ∧
        Concludes upstream during middle (next answer) outcome after := by
  constructor
  · rintro ⟨_, run, served⟩
    cases run with
    | ask answer run =>
    cases served with
    | cons serves served => exact ⟨answer, _, serves, _, run, served⟩
  · rintro ⟨answer, middle, serves, _, run, served⟩
    exact ⟨_, .ask answer run, .cons serves served⟩

/-- A check that goes on fails at first, or comes to a result and goes on with it. -/
theorem concludes_bind {check : Check α} {rest : α → Check β} {outcome : Except Failure β} :
    Concludes upstream during before (check.bind rest) outcome after ↔
      (∃ failure, outcome = .error failure ∧ Concludes upstream during before check (.error failure) after) ∨
      ∃ value middle, Concludes upstream during before check (.ok value) middle ∧
        Concludes upstream during middle (rest value) outcome after := by
  constructor
  · rintro ⟨exchanges, run, served⟩
    rcases runs_bind.mp run with ⟨failure, rfl, failed⟩ | ⟨_, value, _, rfl, found, later⟩
    · exact .inl ⟨failure, rfl, _, failed, served⟩
    · obtain ⟨middle, for_found, for_later⟩ := answered_append.mp served
      exact .inr ⟨value, middle, ⟨_, found, for_found⟩, _, later, for_later⟩
  · rintro (⟨failure, rfl, _, failed, served⟩ | ⟨value, middle, ⟨_, found, for_found⟩, _, later, for_later⟩)
    · exact ⟨_, runs_bind.mpr (.inl ⟨failure, rfl, failed⟩), served⟩
    · exact ⟨_, runs_bind.mpr (.inr ⟨_, value, _, rfl, found, later⟩),
        answered_append.mpr ⟨middle, for_found, for_later⟩⟩

/-- A check that leaves the cache alone has the result that it always has. -/
theorem Concludes.spares {check : Check α} {outcome : Except Failure α}
    (concludes : Concludes upstream during before check outcome after)
    (spares : check.Asks (·.sparesCache = true)) :
    outcome = check.result upstream.afresh ∧ after = before := by
  induction spares with
  | done value => exact concludes_done.mp concludes
  | failed failure => exact concludes_failed.mp concludes
  | ask ok _ ih =>
    obtain ⟨answer, middle, serves, later⟩ := concludes_ask.mp concludes
    obtain ⟨rfl, rfl⟩ := serves.spares ok
    exact ih _ later

/-! ## Look-ups -/

/-- What may come of a look-up under a key. -/
inductive LookedUp (upstream : Upstream) (during : Number → Prop) (before : Cache) (key : String) (ttl : Number)
    (fresh : Check Json) : Except Failure Json → Cache → Prop
  | found {now : Number} {value : Json} {after : Cache} : during now →
    before.get key now = (some value, after) → LookedUp upstream during before key ttl fresh (.ok value) after
  | fault {now : Number} {failure : Failure} {after : Cache} : during now →
    before.get key now = (none, after) → fresh.result upstream.afresh = .error failure →
    LookedUp upstream during before key ttl fresh (.error failure) after
  | kept {now then_ : Number} {value : Json} {middle : Cache} : during now →
    before.get key now = (none, middle) → fresh.result upstream.afresh = .ok value → during then_ →
    LookedUp upstream during before key ttl fresh (.ok value) (middle.put key value ttl then_)

theorem cachedOr_lookedUp {key : String} {ttl : Number} {fresh : Check Json} {outcome : Except Failure Json}
    (spares : fresh.Asks (·.sparesCache = true))
    (concludes : Concludes upstream during before (cachedOr key ttl fresh) outcome after) :
    LookedUp upstream during before key ttl fresh outcome after := by
  obtain ⟨found, middle, ⟨now, at_, looks⟩, later⟩ := concludes_ask.mp concludes
  cases found with
  | some value =>
    obtain ⟨rfl, rfl⟩ := concludes_done.mp later
    exact .found at_ looks.symm
  | none =>
    have later : Concludes upstream during middle (fresh.bind fun value => .ask (.keep key value ttl) fun _ =>
      .done value) outcome after := later
    rcases concludes_bind.mp later with ⟨failure, rfl, failed⟩ | ⟨value, middle, found, keeping⟩
    · obtain ⟨same, rfl⟩ := failed.spares spares
      exact .fault at_ looks.symm same.symm
    · obtain ⟨same, rfl⟩ := found.spares spares
      obtain ⟨_, _, ⟨then_, at_', rfl⟩, ended⟩ := concludes_ask.mp keeping
      obtain ⟨rfl, rfl⟩ := concludes_done.mp ended
      exact .kept at_ looks.symm same.symm at_'

/-- All that is kept was found out for one of these inquiries. -/
structure IsFilled (upstream : Upstream) (directory : Remote.Directory) (known : Inquiry → Prop)
    (cache : Cache) : Prop where
  memory : cache.backend = .memory
  entries : ∀ pair ∈ cache.entries, ∃ inquiry, known inquiry ∧ pair.1 = Cache.keyStart ++ inquiry.key ∧
    (inquiry.fresh directory).result upstream.afresh = .ok pair.2.value

namespace IsFilled

variable {known : Inquiry → Prop} {cache : Cache}

theorem empty : IsFilled upstream directory known {} := ⟨rfl, List.forall_mem_nil _⟩

theorem mono {wider : Inquiry → Prop} (filled : IsFilled upstream directory known cache)
    (widen : ∀ inquiry, known inquiry → wider inquiry) : IsFilled upstream directory wider cache := by
  refine ⟨filled.memory, fun pair listed => ?_⟩
  obtain ⟨inquiry, asked, rest⟩ := filled.entries pair listed
  exact ⟨inquiry, widen inquiry asked, rest⟩

/-- A look-up leaves what was kept, and finds an answer to an inquiry with its key. -/
theorem get {key : String} {now : Number} {found : Option Json} {after : Cache}
    (filled : IsFilled upstream directory known cache) (looks : cache.get key now = (found, after)) :
    IsFilled upstream directory known after ∧
      ∀ value, found = some value → ∃ inquiry, known inquiry ∧ inquiry.key = key ∧
        (inquiry.fresh directory).result upstream.afresh = .ok value := by
  cases Cache.get_looked filled.memory looks with
  | none =>
    refine ⟨filled, fun value same => ?_⟩
    cases same
  | found stored =>
    refine ⟨filled, fun value same => ?_⟩
    cases same
    obtain ⟨inquiry, asked, same, answered⟩ := filled.entries _ (Cache.Table.mem_of_find? stored)
    exact ⟨inquiry, asked, ((String.append_right_inj _).mp same).symm, answered⟩
  | dropped =>
    refine ⟨⟨filled.memory, fun pair listed => filled.entries pair (List.mem_of_mem_filter listed)⟩,
      fun value same => ?_⟩
    cases same

theorem put (filled : IsFilled upstream directory known cache) {inquiry : Inquiry} (asked : known inquiry)
    {value : Json} (found : (inquiry.fresh directory).result upstream.afresh = .ok value)
    (ttl now : Number) : IsFilled upstream directory known (cache.put inquiry.key value ttl now) := by
  have memory := filled.memory
  simp only [Cache.put, Cache.write, Cache.settled_memory memory, memory, Bool.false_and, Bool.false_eq_true,
    if_false]
  refine ⟨rfl, fun pair listed => ?_⟩
  rcases Cache.Table.mem_insert listed with rfl | listed
  · exact ⟨inquiry, asked, rfl, found⟩
  · exact filled.entries pair (List.mem_of_mem_filter listed)

end IsFilled

/-! ## Checks with a cache -/

/-- What is kept for an inquiry was found out for it. Where nothing else stands under its
key, the answer is the one that is found out now. -/
theorem cachedOr_filled {known : Inquiry → Prop} {inquiry : Inquiry} {ttl : Number}
    {outcome : Except Failure Json} (filled : IsFilled upstream directory known before)
    (concludes : Concludes upstream during before (cachedOr inquiry.key ttl (inquiry.fresh directory)) outcome after) :
    IsFilled upstream directory (fun other => known other ∨ other = inquiry) after ∧
      ((∀ other, known other → other.key = inquiry.key → other.fresh directory = inquiry.fresh directory) →
        outcome = (inquiry.fresh directory).result upstream.afresh) := by
  cases cachedOr_lookedUp (inquiry.fresh_plain directory).sparesCache concludes with
  | found _ looks =>
    obtain ⟨kept, answers⟩ := filled.get looks
    refine ⟨kept.mono fun _ => .inl, fun coherent => ?_⟩
    obtain ⟨other, asked, same, answered⟩ := answers _ rfl
    rw [← coherent other asked same, answered]
  | fault _ looks same => exact ⟨(filled.get looks).1.mono fun _ => .inl, fun _ => same.symm⟩
  | @kept now then_ _ _ _ looks same =>
    exact ⟨((filled.get looks).1.mono fun _ => .inl).put (.inr rfl) same ttl then_, fun _ => same.symm⟩

theorem cachedOr_result (upstream : Upstream) (key : String) (ttl : Number) (fresh : Check Json) :
    (cachedOr key ttl fresh).result upstream.afresh = fresh.result upstream.afresh := by
  have kept : (cachedOr key ttl fresh).result upstream.afresh =
      (fresh.bind fun value => .ask (.keep key value ttl) fun _ => .done value).result upstream.afresh := rfl
  rw [kept, Program.result_bind]
  cases fresh.result upstream.afresh with
  | ok | error => rfl

/-- Nothing else stands under the keys of these inquiries. -/
def IsCoherent (directory : Remote.Directory) (known inquires : Inquiry → Prop) : Prop :=
  ∀ other own, known other → inquires own → other.key = own.key → other.fresh directory = own.fresh directory

/-- What a check keeps was found out for its inquiries. Where nothing else stands under
their keys, it comes to the result that it has where nothing is kept. -/
theorem Consults.filled {known inquires : Inquiry → Prop} {check : Check α} {outcome : Except Failure α}
    (consults : Consults (·.sparesCache = true) directory inquires check)
    (filled : IsFilled upstream directory known before)
    (concludes : Concludes upstream during before check outcome after) :
    IsFilled upstream directory (fun other => known other ∨ inquires other) after ∧
      (IsCoherent directory (fun other => known other ∨ inquires other) inquires →
        outcome = check.result upstream.afresh) := by
  induction consults generalizing before known with
  | done =>
    obtain ⟨rfl, rfl⟩ := concludes_done.mp concludes
    exact ⟨filled.mono fun _ => .inl, fun _ => rfl⟩
  | failed =>
    obtain ⟨rfl, rfl⟩ := concludes_failed.mp concludes
    exact ⟨filled.mono fun _ => .inl, fun _ => rfl⟩
  | ask ok _ ih =>
    obtain ⟨answer, middle, serves, later⟩ := concludes_ask.mp concludes
    obtain ⟨rfl, rfl⟩ := serves.spares ok
    exact ih _ filled later
  | @inquire inquiry ttl rest own _ ih =>
    have asked {other : Inquiry} (listed : (known other ∨ other = inquiry) ∨ inquires other) :
        known other ∨ inquires other := by
      rcases listed with (asked | rfl) | asked
      · exact .inl asked
      · exact .inr own
      · exact .inr asked
    have alike (coherent : IsCoherent directory (fun other => known other ∨ inquires other) inquires) :
        ∀ other, known other → other.key = inquiry.key → other.fresh directory = inquiry.fresh directory :=
      fun other asked => coherent other inquiry (.inl asked) own
    rw [Program.result_bind, cachedOr_result]
    rcases concludes_bind.mp concludes with ⟨failure, rfl, failed⟩ | ⟨value, middle, found, later⟩
    · obtain ⟨filled, same⟩ := cachedOr_filled filled failed
      refine ⟨filled.mono fun _ listed => asked (.inl listed), fun coherent => ?_⟩
      rw [← same (alike coherent)]
      rfl
    · obtain ⟨filled, same⟩ := cachedOr_filled filled found
      obtain ⟨filled, same'⟩ := ih value filled later
      refine ⟨filled.mono fun _ => asked, fun coherent => ?_⟩
      rw [← same (alike coherent)]
      exact same' fun other own listed => coherent other own (asked listed)

/-! ## Checks one after the other -/

/-- The checks of the catalogue ask the cache for their inquiries and for nothing else. -/
theorem catalogue_consults (ctx : Context) :
    ∀ entry ∈ catalogue, EntryConsults ctx (·.sparesCache = true) entry := by
  have spares {entries : List Entry} (consult : ∀ entry ∈ entries, EntryConsults ctx Ask.IsPlain entry) :
      ∀ entry ∈ entries, EntryConsults ctx (·.sparesCache = true) entry :=
    fun entry listed => (consult entry listed).mono fun _ => Ask.IsPlain.sparesCache
  have plainly {entries : List Entry} (plain : ∀ entry ∈ entries, Plain (entry.run ctx)) :
      ∀ entry ∈ entries, EntryConsults ctx (·.sparesCache = true) entry :=
    spares fun entry listed => .of_asks (plain entry listed)
  simp only [catalogue, List.forall_mem_append]
  refine ⟨⟨⟨⟨⟨⟨⟨fun entry listed => .of_asks ?_, ?_⟩, ?_⟩, ?_⟩, ?_⟩, ?_⟩, ?_⟩, ?_⟩
  · refine (Admission.entries_clear ctx entry listed).mono ?_
    rintro _ ⟨rfl, -⟩
    rfl
  · exact spares (Profile.entries_consult ctx)
  · exact plainly (Following.entries_plain ctx)
  · exact plainly (Content.entries_plain ctx)
  · exact spares (Holdings.entries_consult ctx)
  · exact spares (Standing.entries_consult ctx)
  · exact plainly (Credentials.entries_plain ctx)
  · exact plainly (Hook.entries_plain ctx)

/-- What checks ask with one context has a key of its own. -/
theorem Inquires.eq_of_key {ctx : Context} {entry entry' : Entry} {inquiry other : Inquiry}
    (inquires : Inquires ctx entry inquiry) (inquires' : Inquires ctx entry' other)
    (same : inquiry.key = other.key) : inquiry = other := by
  have subjects := Inquiry.subject_of_key same
  have kind := Inquiry.sameKind_of_key same
  cases inquires with
  | badges | farRank | globalRank | channelRank =>
    cases kind
    cases inquires'
    rfl
  | owner named =>
    cases kind
    cases inquires' with
    | owner named' =>
    rw [named] at named'
    cases named'
    rfl
  | balance named =>
    cases kind
    cases inquires' with
    | balance named' =>
    rw [named] at named'
    cases named'
    rw [(String.append_right_inj _).mp subjects]
  | tokenBalance named whole =>
    cases kind
    cases inquires' with
    | tokenBalance named' whole' =>
    rw [named] at named'
    rw [whole] at whole'
    cases named'
    cases whole'
    have wallets := (String.append_left_inj _).mp ((String.append_left_inj _).mp subjects)
    rw [(String.append_right_inj _).mp wallets]

/-- A check of the catalogue with what it looks at. -/
structure Occasion where
  entry : Entry
  ctx : Context

/-- Checks were evaluated one after the other, and shared a cache that was empty at first. -/
inductive Evaluated (upstream : Upstream) (during : Number → Prop) (directory : Remote.Directory) :
    List Occasion → Cache → Prop
  | start : Evaluated upstream during directory [] {}
  | next {earlier : List Occasion} {occasion : Occasion} {outcome : Except Failure Verdict} {before after : Cache} :
    Evaluated upstream during directory earlier before → occasion.entry ∈ catalogue →
    occasion.ctx.directory = directory →
    Concludes upstream during before (occasion.entry.run occasion.ctx) outcome after →
    Evaluated upstream during directory (earlier ++ [occasion]) after

/-- An inquiry came up on one of these occasions. -/
def CameUp (occasions : List Occasion) (inquiry : Inquiry) : Prop :=
  ∃ occasion ∈ occasions, Inquires occasion.ctx occasion.entry inquiry

theorem Evaluated.filled {occasions : List Occasion} {cache : Cache}
    (evaluated : Evaluated upstream during directory occasions cache) :
    IsFilled upstream directory (CameUp occasions) cache := by
  induction evaluated with
  | start => exact .empty
  | @next earlier occasion _ _ _ _ listed here concludes ih =>
    subst here
    obtain ⟨filled, -⟩ := (catalogue_consults occasion.ctx _ listed).filled ih concludes
    refine filled.mono fun inquiry asked => ?_
    rcases asked with ⟨occasion', listed, asked⟩ | asked
    · exact ⟨occasion', List.mem_append_left _ listed, asked⟩
    · exact ⟨occasion, List.mem_append_right _ (List.mem_singleton_self _), asked⟩

/-- A check has the same result after others as where nothing is kept, if no other inquiry
than its own came up under the keys of its own. -/
theorem Evaluated.result_afresh {occasions : List Occasion} {cache : Cache} {entry : Entry} {ctx : Context}
    {outcome : Except Failure Verdict} (evaluated : Evaluated upstream during ctx.directory occasions cache)
    (listed : entry ∈ catalogue) (coherent : IsCoherent ctx.directory (CameUp occasions) (Inquires ctx entry))
    (concludes : Concludes upstream during cache (entry.run ctx) outcome after) :
    outcome = (entry.run ctx).result upstream.afresh := by
  refine ((catalogue_consults ctx entry listed).filled evaluated.filled concludes).2 ?_
  rintro other own (asked | asked) inquires same
  · exact coherent other own asked inquires same
  · rw [asked.eq_of_key inquires same]

/-- With an empty cache a check has the result that it has where nothing is kept. -/
theorem result_afresh {entry : Entry} {ctx : Context} {outcome : Except Failure Verdict} (listed : entry ∈ catalogue)
    (concludes : Concludes upstream during {} (entry.run ctx) outcome after) :
    outcome = (entry.run ctx).result upstream.afresh := by
  refine Evaluated.result_afresh .start listed ?_ concludes
  rintro other own ⟨occasion, no, -⟩
  cases no

end Curation.Check
