import Curation.Proofs.Check.Caching

/-! Tokens of the same address on several chains. What was kept about a wallet or a token
on one chain is found again when the same contract is looked at on another one, since the
keys do not name the chain. -/
namespace Curation.Check

variable {α β : Type} {upstream : Upstream} {during : Number → Prop} {before after : Cache} {key : String}
  {value : Json}

/-! ## Entries that last -/

/-- All that is kept is alive at all these times. -/
structure IsLasting (during : Number → Prop) (cache : Cache) : Prop where
  memory : cache.backend = .memory
  live : ∀ pair ∈ cache.entries, ∀ now, during now → pair.2.isLive now = true

/-- A value is kept under a key. -/
def Stands (cache : Cache) (key : String) (value : Json) : Prop :=
  ∃ entry, cache.entries.find? (Cache.keyStart ++ key) = some entry ∧ entry.value = value

/-- What was kept is kept, and all of it is alive. -/
structure Grows (during : Number → Prop) (before after : Cache) : Prop where
  lasting : IsLasting during after
  stands : ∀ key value, Stands before key value → Stands after key value

theorem Grows.refl (lasting : IsLasting during before) : Grows during before before :=
  ⟨lasting, fun _ _ => id⟩

theorem Grows.trans {later : Cache} (first : Grows during before after) (second : Grows during after later) :
    Grows during before later :=
  ⟨second.lasting, fun key value stands => second.stands key value (first.stands key value stands)⟩

/-- These times are so close to one another that what is kept at one of them for a while
is alive at all. -/
def IsShort (during : Number → Prop) (ttl : Number) : Prop :=
  ∀ first second, during first → during second → second.lt (first.add ttl) = true

theorem IsLasting.get {now : Number} {found : Option Json} (lasting : IsLasting during before) (at_ : during now)
    (looks : before.get key now = (found, after)) :
    after = before ∧ ∀ value, found = some value ↔ Stands before key value := by
  unfold Stands
  cases Cache.get_looked lasting.memory looks with
  | none absent => simp [absent]
  | found stored => simp [stored]
  | dropped stored dead =>
    have live := lasting.live _ (Cache.Table.mem_of_find? stored) now at_
    rw [dead] at live
    cases live

theorem IsLasting.put {now ttl : Number} (lasting : IsLasting during before) (at_ : during now)
    (short : IsShort during ttl) (new : ∀ value, ¬ Stands before key value) (value : Json) :
    Grows during before (before.put key value ttl now) ∧ Stands (before.put key value ttl now) key value := by
  have memory := lasting.memory
  have kept : before.entries.evict now = before.entries :=
    List.filter_eq_self.mpr fun pair listed => lasting.live pair listed now at_
  simp only [Cache.put, Cache.write, Cache.settled_memory memory, memory, kept, Bool.false_and,
    Bool.false_eq_true, if_false]
  refine ⟨⟨⟨rfl, fun pair listed other at_' => ?_⟩, fun key' value' stands => ?_⟩,
    _, Cache.Table.find?_insert_self _ _ _, rfl⟩
  · rcases Cache.Table.mem_insert listed with rfl | listed
    · exact short now other at_ at_'
    · exact lasting.live pair listed other at_'
  · have apart : key' ≠ key := by
      rintro rfl
      exact new value' stands
    obtain ⟨entry, found, same⟩ := stands
    exact ⟨entry, (Cache.Table.find?_insert_other (Cache.key_apart apart) _ _).trans found, same⟩

/-! ## Results that are handed on -/

/-- The check comes to this result whatever services say, and keeps nothing else. -/
structure Decided (during : Number → Prop) (cache : Cache) (check : Check α) (value : α) : Prop where
  result : ∀ {upstream before after outcome}, Grows during cache before →
    Concludes upstream during before check outcome after → outcome = .ok value ∧ after = before

/-- Where the first check comes to a result, the second comes to the same one after it. -/
structure HandsOn (during : Number → Prop) (check next : Check α) : Prop where
  decides : ∀ {upstream before after value}, IsLasting during before →
    Concludes upstream during before check (.ok value) after →
    Grows during before after ∧ Decided during after next value

theorem Decided.bind {cache : Cache} {check : Check α} {rest : α → Check β} {value : α} {result : β}
    (first : Decided during cache check value) (then_ : Decided during cache (rest value) result) :
    Decided during cache (check.bind rest) result := by
  refine ⟨fun grows concludes => ?_⟩
  rcases concludes_bind.mp concludes with ⟨failure, -, failed⟩ | ⟨value', middle, found, later⟩
  · cases (first.result grows failed).1
  · obtain ⟨same, rfl⟩ := first.result grows found
    cases same
    exact then_.result grows later

namespace HandsOn

theorem failed (failure : Failure) (next : Check α) : HandsOn during (.failed failure) next := by
  refine ⟨fun lasting concludes => ?_⟩
  cases (concludes_failed.mp concludes).1

theorem done (value : α) : HandsOn during (.done value) (.done value) := by
  refine ⟨fun lasting concludes => ?_⟩
  obtain ⟨same, rfl⟩ := concludes_done.mp concludes
  cases same
  exact ⟨.refl lasting, ⟨fun grows => concludes_done.mp⟩⟩

theorem bind {check next : Check α} {rest rest' : α → Check β} (first : HandsOn during check next)
    (then_ : ∀ value, HandsOn during (rest value) (rest' value)) :
    HandsOn during (check.bind rest) (next.bind rest') := by
  refine ⟨fun lasting concludes => ?_⟩
  rcases concludes_bind.mp concludes with ⟨failure, same, -⟩ | ⟨value, middle, found, later⟩
  · cases same
  · obtain ⟨grows, decided⟩ := first.decides lasting found
    obtain ⟨grows', decided'⟩ := (then_ value).decides grows.lasting later
    exact ⟨grows.trans grows', .bind ⟨fun later => decided.result (grows'.trans later)⟩ decided'⟩

theorem misuse (result : Except Misuse α) : HandsOn during (liftM result) (liftM result) := by
  cases result with
  | ok value => exact done value
  | error cause => exact failed _ _

/-- What is kept under a key is handed on, however it would be found out next. -/
theorem cachedOr {ttl ttl' : Number} {fresh next : Check Json} (short : IsShort during ttl) (key : String)
    (spares : fresh.Asks (·.sparesCache = true)) (spares' : next.Asks (·.sparesCache = true)) :
    HandsOn during (Check.cachedOr key ttl fresh) (Check.cachedOr key ttl' next) := by
  have settled {cache : Cache} {value : Json} (stands : Stands cache key value) :
      Decided during cache (Check.cachedOr key ttl' next) value := by
    refine ⟨fun grows concludes => ?_⟩
    have stands := grows.stands key value stands
    cases cachedOr_lookedUp spares' concludes with
    | found at_ looks =>
      obtain ⟨rfl, known⟩ := grows.lasting.get at_ looks
      cases (known value).mpr stands
      exact ⟨rfl, rfl⟩
    | fault at_ looks | kept at_ looks =>
      obtain ⟨-, known⟩ := grows.lasting.get at_ looks
      cases (known value).mpr stands
  refine ⟨fun lasting concludes => ?_⟩
  cases cachedOr_lookedUp spares concludes with
  | found at_ looks =>
    obtain ⟨rfl, known⟩ := lasting.get at_ looks
    exact ⟨.refl lasting, settled ((known _).mp rfl)⟩
  | kept at_ looks _ at_' =>
    obtain ⟨rfl, known⟩ := lasting.get at_ looks
    have new (value : Json) : ¬ Stands _ key value := (known value).not.mp nofun
    obtain ⟨grows, stands⟩ := lasting.put at_' short new _
    exact ⟨grows, settled stands⟩

end HandsOn

/-! ## The same token on another chain -/

/-- The same context with the arguments of a rule for another chain. -/
def Context.onChain (ctx : Context) (chain : String) : Context :=
  { ctx with args := Json.Members.put "chainId" (.str chain) ctx.args }

namespace Context

variable (ctx : Context) (chain : String) {name : String}

theorem arg?_onChain (apart : name ≠ "chainId") : (ctx.onChain chain).arg? name = ctx.arg? name := by
  unfold arg? onChain
  rw [Json.Members.get?_put, if_neg apart.symm]

theorem arg_onChain (apart : name ≠ "chainId") : (ctx.onChain chain).arg name = ctx.arg name := by
  unfold arg
  rw [arg?_onChain ctx chain apart]

end Context

namespace Holdings

theorem label_onChain (ctx : Context) (chain : String) : labelText (ctx.onChain chain) = labelText ctx := by
  simp [labelText, label, Context.onChain, Json.member, Json.members, Json.entry, Json.Members.get?_put]

/-- Of a token the arguments for another chain change the chain alone. -/
theorem token_onChain {ctx : Context} {chain contract : String} (named : token ctx = .ok (chain, contract))
    (other : String) : token (ctx.onChain other) = .ok (other, contract) := by
  have there : (ctx.onChain other).needed "chainId" = .ok (.str other) := by
    simp [Context.needed, Context.onChain, Json.entry, Json.Members.get?_put]
  have elsewhere : (ctx.onChain other).needed "contractAddress" = ctx.needed "contractAddress" := by
    simp [Context.needed, Context.onChain, Json.entry, Json.Members.get?_put]
  unfold token at named ⊢
  rw [there, elsewhere]
  cases here : ctx.needed "chainId" with
  | error cause =>
    rw [here] at named
    cases named
  | ok chain =>
    cases text : ctx.needed "contractAddress" with
    | error cause =>
      rw [here, text] at named
      cases named
    | ok contract =>
      rw [here, text] at named
      cases named
      rfl

/-- Whether one of some wallets holds anything is handed on to any chain. -/
theorem anyBalance_handsOn (short : IsShort during balanceTtl) (ctx ctx' : Context)
    (chain chain' contract start : String) (standard : Remote.Tokens.Standard) (token : Option Int)
    (addresses : List String) :
    HandsOn during (anyBalance ctx chain contract start standard token addresses)
      (anyBalance ctx' chain' contract start standard token addresses) := by
  have spares (ctx : Context) (chain address : String) : Program.Asks (·.sparesCache = true) (do
      return .int (← Remote.Tokens.balance ctx.directory chain contract address standard token) : Check Json) :=
    Plain.sparesCache ((Plain.fetch (Remote.Tokens.balance_reads _ _ _ _ _ _)).bind fun _ => .done _)
  induction addresses with
  | nil => exact .done false
  | cons address rest ih =>
    refine .bind (.cachedOr short _ (spares ..) (spares ..)) fun balance => .bind (.misuse _) fun held => ?_
    split
    · exact .done true
    · exact ih

/-- The chain is all that can tell the tokens of two rules apart. -/
theorem token_handsOn (ctx : Context) (other : String) {rest rest' : String × String → Check α}
    (then_ : ∀ chain contract, HandsOn during (rest (chain, contract)) (rest' (other, contract))) :
    HandsOn during (Program.bind (liftM (token ctx)) rest) (Program.bind (liftM (token (ctx.onChain other))) rest') := by
  cases named : token ctx with
  | error cause => exact HandsOn.failed (.misuse cause) _
  | ok pair =>
    obtain ⟨chain, contract⟩ := pair
    rw [token_onChain named]
    exact then_ chain contract

theorem erc721_handsOn (short : IsShort during balanceTtl) (ctx : Context) (other : String) :
    HandsOn during (erc721.run ctx) (erc721.run (ctx.onChain other)) := by
  refine token_handsOn ctx other fun chain contract => ?_
  have labelled (holds : Bool) : HandsOn during
      (Program.bind (liftM (labelText ctx)) fun name =>
        .done (verdict holds s!"User holds ERC-721 ({name})" s!"User does not hold ERC-721 ({name})"))
      (Program.bind (liftM (labelText ctx)) fun name =>
        .done (verdict holds s!"User holds ERC-721 ({name})" s!"User does not hold ERC-721 ({name})")) :=
    .bind (.misuse _) fun _ => .done _
  have apart : "tokenId" ≠ "chainId" := by decide
  simp only [Context.arg_onChain ctx _ apart, label_onChain]
  split
  · exact .bind (anyBalance_handsOn short _ _ _ _ _ _ _ _ _) labelled
  · have spares (chain : String) :=
      (Inquiry.fresh_plain ctx.directory (.owner chain contract (ctx.arg "tokenId"))).sparesCache
    exact .bind (.cachedOr short _ (spares chain) (spares other)) fun owner => labelled _

theorem erc1155_handsOn (short : IsShort during balanceTtl) (ctx : Context) (other : String)
    (chosen : isOpen (ctx.arg "tokenId") = false) :
    HandsOn during (erc1155.run ctx) (erc1155.run (ctx.onChain other)) := by
  refine token_handsOn ctx other fun chain contract => ?_
  have apart : "tokenId" ≠ "chainId" := by decide
  simp only [Context.arg_onChain ctx _ apart, chosen]
  exact .bind (.misuse _) fun id => .bind (anyBalance_handsOn short _ _ _ _ _ _ _ _ _) fun held => .done _

end Holdings

/-! ## Whose answer decides -/

/-- But for the checks of tokens, what a check keeps has keys of its own. -/
theorem Inquires.alone {ctx : Context} {entry : Entry} {own other : Inquiry} (inquires : Inquires ctx entry own)
    (collection : entry ≠ Holdings.erc721) (multiToken : entry ≠ Holdings.erc1155)
    (same : other.key = own.key) : other = own := by
  have kind := Inquiry.sameKind_of_key same
  have plain : other.HasPlainContract ∧ own.HasPlainContract := by
    cases inquires with
    | owner | balance => exact absurd rfl collection
    | tokenBalance => exact absurd rfl multiToken
    | badges | farRank | globalRank | channelRank =>
      cases kind
      exact ⟨trivial, trivial⟩
  rcases Inquiry.resembles_of_key plain.1 plain.2 same with rfl | resembles
  · rfl
  · cases resembles with
    | owner | balance =>
      cases inquires
      exact absurd rfl collection
    | tokenBalance =>
      cases inquires
      exact absurd rfl multiToken

/-- A check after others, with the cache that they shared, has the result that it has with
an empty cache; only for a check of tokens something else may have come up under its keys.
That can only be the same question about another chain, or about a token whose id is
written alike; and that does decide: who holds a token on one chain is taken to hold it on
all others. -/
theorem caching_forgets_chains {occasions : List Occasion} {entry : Entry} {ctx : Context}
    {outcome : Except Failure Verdict} (evaluated : Evaluated upstream during ctx.directory occasions before)
    (listed : entry ∈ catalogue) (shared : Concludes upstream during before (entry.run ctx) outcome after) :
    ((entry = Holdings.erc721 ∨ entry = Holdings.erc1155 →
        IsCoherent ctx.directory (CameUp occasions) (Inquires ctx entry)) →
      ∀ alone left, Concludes upstream during {} (entry.run ctx) alone left → outcome = alone) ∧
    (∀ other own, CameUp occasions other → Inquires ctx entry own → other.HasPlainContract →
      own.HasPlainContract → (other.key = own.key ↔ other = own ∨ other.Resembles own)) ∧
    (∀ verdict, outcome = .ok verdict →
      entry = Holdings.erc721 ∨ entry = Holdings.erc1155 ∧ Holdings.isOpen (ctx.arg "tokenId") = false →
      IsShort during Holdings.balanceTtl → IsLasting during before →
      ∀ (upstream' : Upstream) (chain : String) (next : Except Failure Verdict) (left : Cache),
        Concludes upstream' during after (entry.run (ctx.onChain chain)) next left →
        next = .ok verdict ∧ left = after) := by
  refine ⟨fun coherent alone left apart => ?_, fun other own _ _ plain plain' => ⟨?_, ?_⟩, ?_⟩
  · rw [result_afresh listed apart]
    refine evaluated.result_afresh listed ?_ shared
    by_cases about : entry = Holdings.erc721 ∨ entry = Holdings.erc1155
    · exact coherent about
    · rw [not_or] at about
      intro other own _ inquires same
      rw [inquires.alone about.1 about.2 same]
  · exact Inquiry.resembles_of_key plain plain'
  · rintro (rfl | resembles)
    · rfl
    · exact resembles.key
  · rintro verdict rfl about short lasting upstream' chain next left concludes
    have hands : HandsOn during (entry.run ctx) (entry.run (ctx.onChain chain)) := by
      rcases about with rfl | ⟨rfl, chosen⟩
      · exact Holdings.erc721_handsOn short ctx chain
      · exact Holdings.erc1155_handsOn short ctx chain chosen
    obtain ⟨grows, decided⟩ := hands.decides lasting shared
    exact decided.result (.refl grows.lasting) concludes

/-- Two chains, of which only the first knows of a token in any wallet. -/
def ledgers : Upstream
  | .remote (.isHeldBack _) => false
  | .remote (.send request) =>
    .answered ⟨200, if request.url == "http://one" then "\x7b\"result\":\"0x01\"\x7d"
      else "\x7b\"result\":\"0x00\"\x7d"⟩
  | .remote (.report ..) => ()
  | .together _ => .ok []
  | .cached _ => none
  | .keep .. => ()
  | .timeLeft _ => none
  | .pause _ => ()
  | .clearLogs .. => ()

/-- A user with one wallet, and a rule about the tokens of one contract. -/
def collector : Context where
  channel := default
  user := { (default : User) with custodyAddress := some "0x00000000000000000000000000000000000000aa" }
  cast := none
  args := [("chainId", .str "1"), ("contractAddress", .str "0x00000000000000000000000000000000000000cc"),
    ("name", .str "Cats")]
  directory := { (default : Remote.Directory) with chains := [("1", "http://one"), ("8453", "http://base")] }
  simulation := false
  hasLogs := false

/-- On the first chain the user holds a token, and is taken to hold it on the second one
after that; where the second chain is asked, he does not hold it. -/
theorem collector_passes_on_other_chain :
    ∃ cache,
      Evaluated ledgers (· = .whole 0) collector.directory [⟨Holdings.erc721, collector⟩] cache ∧
      (∀ outcome after, Concludes ledgers (· = .whole 0) cache (Holdings.erc721.run collector) outcome after →
        outcome.toOption = some ⟨true, "User holds ERC-721 (Cats)"⟩) ∧
      (∀ outcome after,
        Concludes ledgers (· = .whole 0) cache (Holdings.erc721.run (collector.onChain "8453")) outcome after →
        outcome.toOption = some ⟨true, "User holds ERC-721 (Cats)"⟩) ∧
      (∀ outcome after,
        Concludes ledgers (· = .whole 0) {} (Holdings.erc721.run (collector.onChain "8453")) outcome after →
        outcome.toOption = some ⟨false, "User does not hold ERC-721 (Cats)"⟩) := by
  have listed : Holdings.erc721 ∈ catalogue := by simp [catalogue, Holdings.entries]
  have lasting : IsLasting (· = .whole 0) {} := ⟨rfl, List.forall_mem_nil _⟩
  have short : IsShort (· = .whole 0) Holdings.balanceTtl := by
    rintro _ _ rfl rfl
    decide
  have first : ((Holdings.erc721.run collector).result ledgers.afresh).toOption =
      some ⟨true, "User holds ERC-721 (Cats)"⟩ := by decide +kernel
  have second : ((Holdings.erc721.run (collector.onChain "8453")).result ledgers.afresh).toOption =
      some ⟨false, "User does not hold ERC-721 (Cats)"⟩ := by decide +kernel
  have total : ∃ outcome cache, Concludes ledgers (· = .whole 0) {} (Holdings.erc721.run collector) outcome cache :=
    Concludes.total ledgers (by rfl) {} _
  obtain ⟨outcome, cache, concludes⟩ := total
  rw [← result_afresh listed concludes] at first
  have evaluated : Evaluated ledgers (· = .whole 0) collector.directory [⟨Holdings.erc721, collector⟩] cache :=
    .next .start listed rfl concludes
  refine ⟨cache, evaluated, fun again left shared => ?_, fun next left shared => ?_, fun next left alone => ?_⟩
  · have coherent : IsCoherent collector.directory (CameUp [⟨Holdings.erc721, collector⟩])
        (Inquires collector Holdings.erc721) := by
      rintro other own ⟨occasion, here, asked⟩ inquires same
      cases List.mem_singleton.mp here
      rw [asked.eq_of_key inquires same]
    obtain ⟨transparent, -⟩ := caching_forgets_chains evaluated listed shared
    rw [transparent (fun _ => coherent) outcome cache concludes]
    exact first
  · cases outcome with
    | error => cases first
    | ok verdict =>
      obtain ⟨-, -, forgets⟩ := caching_forgets_chains .start listed concludes
      rw [(forgets verdict rfl (.inl rfl) short lasting ledgers "8453" next left shared).1]
      exact first
  · rw [result_afresh listed alone]
    exact second

end Curation.Check
