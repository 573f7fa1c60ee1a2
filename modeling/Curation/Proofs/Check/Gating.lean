import Curation.Proofs.Check.Amounts
import Curation.Proofs.Check.Inquiries
import Curation.Proofs.Check.Numbers
import Curation.Proofs.Remote.Nodes

/-! Rules that gate by tokens, and what they break on. Whoever saves such a rule is asked for a chain, a
contract and a name, and for nothing of what these say. So a contract that is no address, a token that
is no number or a minimum that is no amount is accepted as well, and it is what the check fails on
when all services answer as they should. -/
namespace Curation.Check

open Chain (normalizeAddress parseUnits Spells)
open Holdings (token total reaches anyBalance anyBalanceNow isOpen labelText fanTokenChain)
open Program (MayEnd mayEnd_ask mayEnd_bind mayEnd_bind_error mayEnd_bind_ok mayEnd_done mayEnd_failed
  ok_eq_mapError error_eq_mapError)
open Remote.Tokens (Refuses askNumber)

variable {α β : Type} {ctx : Context} {failure : Failure}

/-! ## Surroundings -/

/-- What is kept for an inquiry is an answer to it. -/
def Inquiry.IsAnswer (value : Json) : Inquiry → Prop
  | .owner .. => ∃ text, value = .str text
  | .balance .. | .tokenBalance .. => ∃ n : Int, value = .int n
  | .badges | .farRank _ | .globalRank _ | .channelRank .. => True

/-- Services answer in a way that suits them, calls at the same time each by itself, and the cache gives back
what was an answer. -/
def Suits : (ask : Ask) → Answer ask → Prop
  | .remote ask, answer => Remote.Suits ask answer
  | .together calls, results =>
    match (results : Except Failure (List Int)) with
    | .ok values => List.Forall₂ (fun call value => Remote.Ends call (.ok value)) calls values
    | .error failure => ∃ call ∈ calls, Remote.Ends call (.error failure)
  | .cached key, found =>
    ∀ value, (found : Option Json) = some value →
      ∀ inquiry : Inquiry, inquiry.key = key → inquiry.IsAnswer value
  | .keep .., _ | .timeLeft _, _ | .pause _, _ | .clearLogs .., _ => True

/-- A check may end like this where all answers suit. -/
abbrev Ends (check : Check α) (outcome : Except Failure α) : Prop := check.MayEnd Suits outcome

theorem ends_fetch {call : Remote.Fetch α} {outcome : Except Failure α} :
    Ends (liftM call) outcome ↔ Remote.Ends call outcome := by
  refine Program.mayEnd_within fun question answer => ?_
  constructor
  · rintro ⟨_, rfl, suits⟩
    exact suits
  · exact fun suits => ⟨answer, rfl, suits⟩

theorem ends_misuse {result : Except Misuse α} {outcome : Except Failure α} :
    Ends (liftM result) outcome ↔ outcome = result.mapError .misuse := by
  cases result with
  | ok value => exact mayEnd_done
  | error cause => exact mayEnd_failed

/-- What is there already is gone on with. -/
theorem ends_there {result : Except Misuse α} {value : α} (there : result = .ok value) {rest : α → Check β}
    {outcome : Except Failure β} :
    Ends (Program.bind (liftM result : Check α) rest) outcome ↔ Ends (rest value) outcome := by
  subst there
  exact Iff.rfl

theorem ends_word {result : Except Chain.WordFault α} {outcome : Except Failure α} :
    Ends (liftM result) outcome ↔ outcome = result.mapError .word := by
  cases result with
  | ok value => exact mayEnd_done
  | error fault => exact mayEnd_failed

/-- Wallets are addresses. -/
def HasAddresses (user : User) : Prop := ∀ address ∈ user.addresses, ∃ digits, Spells address digits

/-- What is looked up and not found is found out; what is found was an answer. -/
theorem ends_cachedOr {key : String} {ttl : Number} {fresh : Check Json} {outcome : Except Failure Json}
    (ends : Ends (cachedOr key ttl fresh) outcome) :
    Ends fresh outcome ∨
      ∃ value, outcome = .ok value ∧ ∀ inquiry : Inquiry, inquiry.key = key → inquiry.IsAnswer value := by
  obtain ⟨found, suits, ends⟩ := mayEnd_ask.mp ends
  cases (found : Option Json) with
  | some value => exact .inr ⟨value, mayEnd_done.mp ends, suits value rfl⟩
  | none =>
    have ends : Ends (fresh.bind fun value => (keep key value ttl).bind fun _ => .done value) outcome := ends
    rcases mayEnd_bind.mp ends with ⟨failure, rfl, first⟩ | ⟨value, first, ends⟩
    · exact .inl first
    · rcases mayEnd_bind.mp ends with ⟨_, -, kept⟩ | ⟨_, -, ends⟩
      · obtain ⟨_, _, ⟨⟩⟩ := mayEnd_ask.mp kept
      · exact .inl (mayEnd_done.mp ends ▸ first)

/-- Where nothing was kept, the check fails as what it finds out. -/
theorem cachedOr_failed {key : String} {ttl : Number} {fresh : Check Json} (ends : Ends fresh (.error failure)) :
    Ends (cachedOr key ttl fresh) (.error failure) := by
  have fresh_ends : Ends (fresh.bind fun value => (keep key value ttl).bind fun _ => .done value)
      (.error failure) := mayEnd_bind_error.mpr (.inl ends)
  exact mayEnd_ask.mpr ⟨(none : Option Json), fun _ absent => (nomatch absent), fresh_ends⟩

/-! ## Balances -/

section Balances

variable {chain contract : String} {standard : Remote.Tokens.Standard} {id : Option Int} {address : String}
  {wallets : List String}

private theorem single_named : Remote.Tokens.Standard.single = .multiToken → id.isSome = true := nofun

/-- A balance of a wallet, where what is needed to ask for it is there. -/
theorem balance_asks (directory : Remote.Directory) (chain contract : String) {address : String}
    (spells : ∃ digits, Spells address digits) (named : standard = .multiToken → id.isSome = true) :
    ∃ data, Remote.Tokens.balance directory chain contract address standard id =
      askNumber directory chain contract data := by
  obtain ⟨digits, spells⟩ := spells
  exact Remote.Tokens.balance_eq spells named

theorem refuses_of_balance (spells : ∃ digits, Spells address digits)
    (named : standard = .multiToken → id.isSome = true)
    (ends : Remote.Ends (Remote.Tokens.balance ctx.directory chain contract address standard id)
      (.error failure)) :
    Refuses ctx.directory chain contract failure := by
  obtain ⟨data, asks⟩ := balance_asks ctx.directory chain contract spells named
  rw [asks] at ends
  exact Remote.Tokens.refuses_of_askNumber ends

theorem balance_refused (spells : ∃ digits, Spells address digits)
    (named : standard = .multiToken → id.isSome = true) (listed : (ctx.directory.chain? chain).isSome = true)
    {fault : Chain.WordFault} (abnormal : normalizeAddress contract = .error fault) :
    Remote.Ends (Remote.Tokens.balance ctx.directory chain contract address standard id)
      (.error (.word fault)) := by
  obtain ⟨data, asks⟩ := balance_asks ctx.directory chain contract spells named
  rw [asks]
  exact Remote.Tokens.askNumber_refused listed abnormal

/-- What all wallets hold together is known unless one of the questions is refused. -/
theorem refuses_of_total (addresses : HasAddresses ctx.user) (ends : Ends (total ctx chain contract) (.error failure)) :
    Refuses ctx.directory chain contract failure := by
  obtain ⟨results, suits, ends⟩ := mayEnd_ask.mp ends
  cases (results : Except Failure (List Int)) with
  | ok values => cases mayEnd_done.mp ends
  | error failure' =>
    cases mayEnd_failed.mp ends
    obtain ⟨call, listed, ends⟩ := suits
    obtain ⟨address, inside, rfl⟩ := List.mem_map.mp listed
    exact refuses_of_balance (addresses address inside) single_named ends

theorem total_answered (addresses : HasAddresses ctx.user) (listed : (ctx.directory.chain? chain).isSome = true)
    (addressed : Remote.Tokens.IsAddressed contract) : ∃ sum, Ends (total ctx chain contract) (.ok sum) := by
  have each : ∀ address ∈ ctx.user.addresses,
      Remote.Ends (Remote.Tokens.balance ctx.directory chain contract address) (.ok 0) := by
    intro address inside
    obtain ⟨data, asks⟩ := balance_asks ctx.directory chain contract (addresses address inside) single_named
    rw [asks]
    exact Remote.Tokens.askNumber_answered (n := 0) listed addressed fun _ => by decide
  refine ⟨_, mayEnd_ask.mpr ⟨.ok (ctx.user.addresses.map fun _ => 0), ?_, .done _⟩⟩
  exact List.forall₂_map_left_iff.mpr (List.forall₂_map_right_iff.mpr (List.forall₂_same.mpr each))

theorem reaches_error_iff {held : Int} {minimum : Json} {decimals : Int} {fault : Chain.WordFault} :
    reaches held minimum decimals = .error fault ↔ parseUnits minimum decimals = .error fault := by
  unfold reaches
  cases parseUnits minimum decimals with
  | ok required => simp [bind, Except.bind, pure, Except.pure]
  | error other => simp [bind, Except.bind]

/-- Weighing fails where a question is refused, and on the minimum. -/
theorem ends_weigh (addresses : HasAddresses ctx.user) (ends : Ends (weigh ctx chain contract) (.error failure)) :
    Refuses ctx.directory chain contract failure ∨
      Remote.Tokens.IsAddressed contract ∧ ∃ d : Nat, d ≤ 255 ∧ ∃ fault,
        parseUnits (ctx.arg "minBalance") d = .error fault ∧ failure = .word fault := by
  rcases mayEnd_bind_error.mp ends with first | ⟨decimals, first, ends⟩
  · exact .inl (Remote.Tokens.refuses_of_askNumber (ends_fetch.mp first))
  obtain ⟨d, rfl, addressed, small⟩ := Remote.Tokens.told_of_askNumber (ends_fetch.mp first)
  rcases mayEnd_bind_error.mp ends with second | ⟨held, -, ends⟩
  · exact .inl (refuses_of_total addresses second)
  rcases mayEnd_bind_error.mp ends with third | ⟨_, -, ends⟩
  · obtain ⟨fault, unread, rfl⟩ := error_eq_mapError.mp (ends_word.mp third)
    exact .inr ⟨addressed, d, small rfl, fault, reaches_error_iff.mp unread, rfl⟩
  · cases mayEnd_done.mp ends

theorem weigh_refused (listed : (ctx.directory.chain? chain).isSome = true) {fault : Chain.WordFault}
    (abnormal : normalizeAddress contract = .error fault) :
    Ends (weigh ctx chain contract) (.error (.word fault)) :=
  mayEnd_bind_error.mpr (.inl (ends_fetch.mpr (Remote.Tokens.askNumber_refused listed abnormal)))

theorem weigh_failed (addresses : HasAddresses ctx.user) (listed : (ctx.directory.chain? chain).isSome = true)
    (addressed : Remote.Tokens.IsAddressed contract) {d : Nat} (small : d ≤ 255) {fault : Chain.WordFault}
    (unread : parseUnits (ctx.arg "minBalance") d = .error fault) :
    Ends (weigh ctx chain contract) (.error (.word fault)) := by
  obtain ⟨held, summed⟩ := total_answered addresses listed addressed
  refine mayEnd_bind_error.mpr (.inr ⟨d, ends_fetch.mpr ?_, ?_⟩)
  · exact Remote.Tokens.askNumber_answered listed addressed fun _ => small
  · refine mayEnd_bind_error.mpr (.inr ⟨held, summed, mayEnd_bind_error.mpr (.inl (ends_word.mpr ?_))⟩)
    exact error_eq_mapError.mpr ⟨fault, reaches_error_iff.mpr unread, rfl⟩

/-- Wallets that are asked for one after the other, as long as nothing was found. -/
theorem refuses_of_anyBalance {start : String} (spells : ∀ address ∈ wallets, ∃ digits, Spells address digits)
    (named : standard = .multiToken → id.isSome = true)
    (kept : ∀ address, ∃ inquiry : Inquiry, inquiry.key = Holdings.balanceKey start contract address id ∧
      ∀ value, inquiry.IsAnswer value → ∃ n : Int, value = .int n)
    (ends : Ends (anyBalance ctx chain contract start standard id wallets) (.error failure)) :
    Refuses ctx.directory chain contract failure := by
  induction wallets with
  | nil => cases mayEnd_done.mp ends
  | cons address rest ih =>
    obtain ⟨spelled, others⟩ := List.forall_mem_cons.mp spells
    rcases mayEnd_bind_error.mp ends with first | ⟨value, first, ends⟩
    · rcases ends_cachedOr first with fresh | ⟨_, ⟨⟩, -⟩
      rcases mayEnd_bind_error.mp fresh with fresh | ⟨_, -, ends⟩
      · exact refuses_of_balance spelled named (ends_fetch.mp fresh)
      · cases mayEnd_done.mp ends
    have whole : ∃ n : Int, value = .int n := by
      rcases ends_cachedOr first with fresh | ⟨value', same, answers⟩
      · obtain ⟨n, -, same⟩ := mayEnd_bind_ok.mp fresh
        exact ⟨n, Except.ok.inj (mayEnd_done.mp same)⟩
      · obtain ⟨inquiry, key, whole⟩ := kept address
        cases same
        exact whole value (answers inquiry key)
    obtain ⟨n, rfl⟩ := whole
    change Ends (if 0 < n then pure true else anyBalance ctx chain contract start standard id rest)
      (.error failure) at ends
    split at ends
    · cases mayEnd_done.mp ends
    · exact ih others ends

theorem anyBalance_refused {start : String} (spells : ∀ address ∈ wallets, ∃ digits, Spells address digits)
    (named : standard = .multiToken → id.isSome = true) (some_wallet : wallets ≠ [])
    (listed : (ctx.directory.chain? chain).isSome = true) {fault : Chain.WordFault}
    (abnormal : normalizeAddress contract = .error fault) :
    Ends (anyBalance ctx chain contract start standard id wallets) (.error (.word fault)) := by
  obtain ⟨address, rest, rfl⟩ := List.exists_cons_of_ne_nil some_wallet
  refine mayEnd_bind_error.mpr (.inl (cachedOr_failed (mayEnd_bind_error.mpr (.inl (ends_fetch.mpr ?_)))))
  exact balance_refused (spells address (.head _)) named listed abnormal

theorem refuses_of_anyBalanceNow (spells : ∀ address ∈ wallets, ∃ digits, Spells address digits)
    (ends : Ends (anyBalanceNow ctx chain contract wallets) (.error failure)) :
    Refuses ctx.directory chain contract failure := by
  induction wallets with
  | nil => cases mayEnd_done.mp ends
  | cons address rest ih =>
    obtain ⟨spelled, others⟩ := List.forall_mem_cons.mp spells
    rcases mayEnd_bind_error.mp ends with first | ⟨held, -, ends⟩
    · exact refuses_of_balance spelled single_named (ends_fetch.mp first)
    · split at ends
      · cases mayEnd_done.mp ends
      · exact ih others ends

theorem anyBalanceNow_refused (spells : ∀ address ∈ wallets, ∃ digits, Spells address digits)
    (some_wallet : wallets ≠ []) (listed : (ctx.directory.chain? chain).isSome = true) {fault : Chain.WordFault}
    (abnormal : normalizeAddress contract = .error fault) :
    Ends (anyBalanceNow ctx chain contract wallets) (.error (.word fault)) := by
  obtain ⟨address, rest, rfl⟩ := List.exists_cons_of_ne_nil some_wallet
  exact mayEnd_bind_error.mpr (.inl (ends_fetch.mpr
    (balance_refused (spells address (.head _)) single_named listed abnormal)))

end Balances

/-! ## Gates -/

/-- The checks that gate by a token that is named by its contract. -/
inductive TokenGate where
  | amount
  | collection
  | editions
  | subscription
  | fanToken

namespace TokenGate

def entry : TokenGate → Entry
  | amount => Holdings.erc20
  | collection => Holdings.erc721
  | editions => Holdings.erc1155
  | subscription => Holdings.hypersub
  | fanToken => Holdings.channelFanToken

/-- The contract as its argument names it. -/
def contract (ctx : Context) : String := (ctx.arg "contractAddress").display

/-- The chain whose node is asked. -/
def chain (ctx : Context) : TokenGate → String
  | amount | collection | editions | subscription => (ctx.arg "chainId").display
  | fanToken => fanTokenChain

/-- The contract itself is asked, and not the index of collections. -/
def AsksContract (ctx : Context) : TokenGate → Prop
  | amount | subscription | fanToken => True
  | collection => isOpen (ctx.arg "tokenId") = true ∨ ∃ id, (ctx.arg "tokenId").toWhole = .ok id
  | editions => isOpen (ctx.arg "tokenId") = false ∧ ∃ id, (ctx.arg "tokenId").toWhole = .ok id

def TakesToken : TokenGate → Prop
  | collection | editions => True
  | amount | subscription | fanToken => False

def TakesMinimum : TokenGate → Prop
  | amount | fanToken => True
  | collection | editions | subscription => False

/-- What a check fails on in its own arguments. -/
inductive Breaks (ctx : Context) (gate : TokenGate) : Failure → Prop where
  | address : gate.AsksContract ctx → Chain.isAddress (contract ctx).toList = false →
    Breaks ctx gate (.word (.invalidAddress (contract ctx)))
  | token {cause : Misuse} : gate.TakesToken → isOpen (ctx.arg "tokenId") = false →
    (ctx.arg "tokenId").toWhole = .error cause → Breaks ctx gate (.misuse cause)
  | minimum {d : Nat} {fault : Chain.WordFault} : gate.TakesMinimum →
    Remote.Tokens.IsAddressed (contract ctx) → d ≤ 255 →
    parseUnits (ctx.arg "minBalance") d = .error fault → Breaks ctx gate (.word fault)

/-- What the check has to be given is there, and not blank. -/
def IsGiven (gate : TokenGate) (args : Json.Members) : Prop :=
  ∀ arg ∈ gate.entry.definition.args, arg.required = true →
    ∃ value, Json.Members.get? arg.name args = some value ∧ ¬ value.Blank

variable {gate : TokenGate}

theorem needed_of_given {name : String} {arg : Argument} (given : gate.IsGiven ctx.args)
    (listed : arg ∈ gate.entry.definition.args) (required : arg.required = true) (named : arg.name = name) :
    ctx.needed name = .ok (ctx.arg name) := by
  obtain ⟨value, found, -⟩ := given arg listed required
  rw [named] at found
  rw [arg_of_get? found, Context.needed, Json.entry, found]

/-- The token that is asked about is named. -/
theorem IsGiven.token (given : gate.IsGiven ctx.args) (other : gate ≠ .fanToken) :
    Holdings.token ctx = .ok (gate.chain ctx, contract ctx) := by
  have chainId : ctx.needed "chainId" = .ok (ctx.arg "chainId") := by
    cases gate with
    | amount | collection | editions | subscription => exact needed_of_given given (.head _) rfl rfl
    | fanToken => exact absurd rfl other
  have address : ctx.needed "contractAddress" = .ok (ctx.arg "contractAddress") := by
    cases gate with
    | amount | collection | editions | subscription =>
      exact needed_of_given given (.tail _ (.head _)) rfl rfl
    | fanToken => exact absurd rfl other
  have named : gate.chain ctx = (ctx.arg "chainId").display := by
    cases gate with
    | amount | collection | editions | subscription => rfl
    | fanToken => exact absurd rfl other
  rw [Holdings.token, chainId, address, named]
  rfl

theorem IsGiven.names (given : TokenGate.fanToken.IsGiven ctx.args) : NamesFanToken ctx (contract ctx) :=
  ⟨_, needed_of_given given (.head _) rfl rfl, rfl⟩

/-- A question that is refused is refused by a service or for the address. -/
theorem breaks_of_refuses (asks : gate.AsksContract ctx)
    (refuses : Refuses ctx.directory (gate.chain ctx) (contract ctx) failure) :
    failure.IsRemote ∨ gate.Breaks ctx failure := by
  cases refuses with
  | remote fault => exact .inl ⟨fault, rfl⟩
  | address _ abnormal =>
    obtain ⟨refused, rfl⟩ := Chain.normalizeAddress_error_iff.mp abnormal
    exact .inr (.address asks refused)

/-- What fails in weighing. -/
theorem breaks_of_weigh (asks : gate.AsksContract ctx) (takes : gate.TakesMinimum)
    (addresses : HasAddresses ctx.user)
    (ends : Ends (weigh ctx (gate.chain ctx) (contract ctx)) (.error failure)) :
    failure.IsRemote ∨ gate.Breaks ctx failure := by
  rcases ends_weigh addresses ends with refuses | ⟨addressed, d, small, fault, unread, rfl⟩
  · exact breaks_of_refuses asks refuses
  · exact .inr (.minimum takes addressed small unread)

/-- A token that is read and fails is no whole number. -/
theorem breaks_of_token (takes : gate.TakesToken) (chosen : isOpen (ctx.arg "tokenId") = false)
    (ends : Ends (liftM (ctx.arg "tokenId").toWhole : Check Int) (.error failure)) : gate.Breaks ctx failure := by
  obtain ⟨cause, unread, rfl⟩ := error_eq_mapError.mp (ends_misuse.mp ends)
  exact .token takes chosen unread

theorem read_of_ends {id : Int} (ends : Ends (liftM (ctx.arg "tokenId").toWhole : Check Int) (.ok id)) :
    (ctx.arg "tokenId").toWhole = .ok id :=
  ok_eq_mapError.mp (ends_misuse.mp ends)

theorem ends_collection (given : TokenGate.collection.IsGiven ctx.args) (addresses : HasAddresses ctx.user)
    (ends : Ends (Holdings.erc721.run ctx) (.error failure)) :
    failure.IsRemote ∨ TokenGate.collection.Breaks ctx failure := by
  have named := given.token nofun
  obtain ⟨text, labelled⟩ := labelText_of_token named
  have ends := (ends_there named).mp ends
  simp only at ends
  split at ends
  · rename_i open_
    rcases mayEnd_bind_error.mp ends with asked | ⟨_, -, ends⟩
    · refine breaks_of_refuses (.inl open_) (refuses_of_anyBalance addresses single_named (fun address => ?_) asked)
      exact ⟨.balance (TokenGate.collection.chain ctx) (contract ctx) address, rfl, fun _ answer => answer⟩
    · have ends := (ends_there labelled).mp ends
      cases mayEnd_done.mp ends
  · rename_i chosen
    have chosen : isOpen (ctx.arg "tokenId") = false := by simpa using chosen
    rcases mayEnd_bind_error.mp ends with asked | ⟨_, -, ends⟩
    · rcases ends_cachedOr asked with fresh | ⟨_, ⟨⟩, -⟩
      rcases mayEnd_bind_error.mp fresh with unread | ⟨id, read, fresh⟩
      · exact .inr (breaks_of_token trivial chosen unread)
      · rcases mayEnd_bind_error.mp fresh with asked | ⟨_, -, ends⟩
        · have refuses := Remote.Tokens.refuses_of_owner (ends_fetch.mp asked)
          exact breaks_of_refuses (.inr ⟨id, read_of_ends read⟩) refuses
        · cases mayEnd_done.mp ends
    · have ends := (ends_there labelled).mp ends
      cases mayEnd_done.mp ends

theorem ends_editions (given : TokenGate.editions.IsGiven ctx.args) (addresses : HasAddresses ctx.user)
    (ends : Ends (Holdings.erc1155.run ctx) (.error failure)) :
    failure.IsRemote ∨ TokenGate.editions.Breaks ctx failure := by
  have named := given.token nofun
  obtain ⟨text, labelled⟩ := labelText_of_token named
  have ends := (ends_there named).mp ends
  simp only at ends
  split at ends
  · rcases mayEnd_bind_error.mp ends with asked | ⟨_, -, ends⟩
    · exact .inl (Remote.Tokens.remote_of_collectionCount (ends_fetch.mp asked))
    · have ends := (ends_there labelled).mp ends
      cases mayEnd_done.mp ends
  · rename_i chosen
    have chosen : isOpen (ctx.arg "tokenId") = false := by simpa using chosen
    rcases mayEnd_bind_error.mp ends with unread | ⟨id, read, ends⟩
    · exact .inr (breaks_of_token trivial chosen unread)
    · rcases mayEnd_bind_error.mp ends with asked | ⟨_, -, ends⟩
      · refine breaks_of_refuses ⟨chosen, id, read_of_ends read⟩
          (refuses_of_anyBalance addresses (fun _ => rfl) (fun address => ?_) asked)
        exact ⟨.tokenBalance (TokenGate.editions.chain ctx) (contract ctx) address id, rfl,
          fun _ answer => answer⟩
      · cases mayEnd_done.mp ends

/-- A check that gates by a token fails where a service does, and on its own arguments. -/
theorem ends_entry (given : gate.IsGiven ctx.args) (addresses : HasAddresses ctx.user)
    (ends : Ends (gate.entry.run ctx) (.error failure)) : failure.IsRemote ∨ gate.Breaks ctx failure := by
  cases gate with
  | amount =>
    obtain ⟨verdict, run, -⟩ := erc20_run (given.token nofun)
    change Ends (Holdings.erc20.run ctx) _ at ends
    rw [run] at ends
    rcases mayEnd_bind_error.mp ends with weighed | ⟨_, -, ends⟩
    · exact breaks_of_weigh trivial trivial addresses weighed
    · cases mayEnd_done.mp ends
  | fanToken =>
    change Ends (Holdings.channelFanToken.run ctx) _ at ends
    rw [channelFanToken_run given.names] at ends
    rcases mayEnd_bind_error.mp ends with weighed | ⟨_, -, ends⟩
    · exact breaks_of_weigh trivial trivial addresses weighed
    · cases mayEnd_done.mp ends
  | subscription =>
    have named := given.token nofun
    obtain ⟨text, labelled⟩ := labelText_of_token named
    have ends := (ends_there named).mp ends
    rcases mayEnd_bind_error.mp ends with asked | ⟨_, -, ends⟩
    · exact breaks_of_refuses trivial (refuses_of_anyBalanceNow addresses asked)
    · have ends := (ends_there labelled).mp ends
      cases mayEnd_done.mp ends
  | collection => exact ends_collection given addresses ends
  | editions => exact ends_editions given addresses ends

/-! ## Breaking -/

/-- What asks the contract fails on an address that is none. -/
theorem address_breaks (given : gate.IsGiven ctx.args) (addresses : HasAddresses ctx.user)
    (some_wallet : ctx.user.addresses ≠ []) (listed : (ctx.directory.chain? (gate.chain ctx)).isSome = true)
    (asks : gate.AsksContract ctx) {fault : Chain.WordFault}
    (abnormal : normalizeAddress (contract ctx) = .error fault) :
    Ends (gate.entry.run ctx) (.error (.word fault)) := by
  cases gate with
  | amount =>
    obtain ⟨verdict, run, -⟩ := erc20_run (given.token nofun)
    change Ends (Holdings.erc20.run ctx) _
    rw [run]
    exact mayEnd_bind_error.mpr (.inl (weigh_refused listed abnormal))
  | fanToken =>
    change Ends (Holdings.channelFanToken.run ctx) _
    rw [channelFanToken_run given.names]
    exact mayEnd_bind_error.mpr (.inl (weigh_refused listed abnormal))
  | subscription =>
    refine (ends_there (given.token nofun)).mpr (mayEnd_bind_error.mpr (.inl ?_))
    exact anyBalanceNow_refused addresses some_wallet listed abnormal
  | collection =>
    refine (ends_there (given.token nofun)).mpr ?_
    simp only
    rcases asks with open_ | ⟨id, read⟩
    · rw [if_pos open_]
      refine mayEnd_bind_error.mpr (.inl ?_)
      exact anyBalance_refused addresses single_named some_wallet listed abnormal
    · split
      · refine mayEnd_bind_error.mpr (.inl ?_)
        exact anyBalance_refused addresses single_named some_wallet listed abnormal
      · refine mayEnd_bind_error.mpr (.inl (cachedOr_failed ((ends_there read).mpr ?_)))
        exact mayEnd_bind_error.mpr (.inl (ends_fetch.mpr (Remote.Tokens.owner_refused listed abnormal)))
  | editions =>
    obtain ⟨chosen, id, read⟩ := asks
    refine (ends_there (given.token nofun)).mpr ?_
    simp only [chosen]
    refine (ends_there read).mpr (mayEnd_bind_error.mpr (.inl ?_))
    exact anyBalance_refused addresses (fun _ => rfl) some_wallet listed abnormal

/-- What takes a token fails on one that is no whole number. -/
theorem token_breaks (given : gate.IsGiven ctx.args) (takes : gate.TakesToken)
    (chosen : isOpen (ctx.arg "tokenId") = false) {cause : Misuse}
    (unread : (ctx.arg "tokenId").toWhole = .error cause) :
    Ends (gate.entry.run ctx) (.error (.misuse cause)) := by
  have failed : Ends (liftM (ctx.arg "tokenId").toWhole : Check Int) (.error (.misuse cause)) :=
    ends_misuse.mpr (error_eq_mapError.mpr ⟨_, unread, rfl⟩)
  cases gate with
  | amount | subscription | fanToken => exact takes.elim
  | collection =>
    refine (ends_there (given.token nofun)).mpr ?_
    simp only [chosen]
    refine mayEnd_bind_error.mpr (.inl (cachedOr_failed ?_))
    exact mayEnd_bind_error.mpr (.inl failed)
  | editions =>
    refine (ends_there (given.token nofun)).mpr ?_
    simp only [chosen]
    exact mayEnd_bind_error.mpr (.inl failed)

/-- What takes a minimum fails on one that is no amount for some number of decimals. -/
theorem minimum_breaks (given : gate.IsGiven ctx.args) (addresses : HasAddresses ctx.user)
    (listed : (ctx.directory.chain? (gate.chain ctx)).isSome = true) (takes : gate.TakesMinimum)
    (addressed : Remote.Tokens.IsAddressed (contract ctx)) {d : Nat} (small : d ≤ 255) {fault : Chain.WordFault}
    (unread : parseUnits (ctx.arg "minBalance") d = .error fault) :
    Ends (gate.entry.run ctx) (.error (.word fault)) := by
  cases gate with
  | collection | editions | subscription => exact takes.elim
  | amount =>
    obtain ⟨verdict, run, -⟩ := erc20_run (given.token nofun)
    change Ends (Holdings.erc20.run ctx) _
    rw [run]
    exact mayEnd_bind_error.mpr (.inl (weigh_failed addresses listed addressed small unread))
  | fanToken =>
    change Ends (Holdings.channelFanToken.run ctx) _
    rw [channelFanToken_run given.names]
    exact mayEnd_bind_error.mpr (.inl (weigh_failed addresses listed addressed small unread))

end TokenGate

/-! ## Rules that are accepted -/

section Accepted

variable {kind : Option RuleSetKind} {rule : Rule} {leaf : Condition} {gate : TokenGate}

theorem TokenGate.listed (gate : TokenGate) : gate.entry ∈ catalogue := by
  have holdings : gate.entry ∈ Holdings.entries := by
    cases gate <;> simp [TokenGate.entry, Holdings.entries]
  simp [catalogue, holdings]

/-- What is accepted was given what it requires. -/
theorem TokenGate.isGiven_of_accepted (accepted : registry.check kind rule = .ok ()) (inside : leaf ∈ rule.leaves)
    (named : leaf.name = gate.entry.definition.name) : gate.IsGiven leaf.args := by
  intro arg listed required
  have admits := (Registry.check_accepts_iff.mp accepted).each leaf inside
  have accepts := admits.supplied gate.entry.definition (List.mem_map_of_mem gate.listed) named.symm arg listed
  exact accepts.given required

/-- Nothing but their presence is asked of arguments. -/
theorem TokenGate.args_plain (gate : TokenGate) :
    ∀ arg ∈ gate.entry.definition.args, arg.type ≠ "number" ∧ arg.test = none := by
  cases gate <;>
    simp [TokenGate.entry, Holdings.erc20, Holdings.erc721, Holdings.erc1155, Holdings.hypersub,
      Holdings.channelFanToken, Holdings.tokenArgs, Holdings.tokenIdArg, Holdings.fanMinimumArg]

/-- What is given all that it requires is accepted, whatever that is. -/
theorem TokenGate.accepted_of_isGiven (kind : Option RuleSetKind) {args : Json.Members}
    (given : gate.IsGiven args) :
    registry.check kind (.condition ⟨gate.entry.definition.name, args⟩) = .ok () := by
  have known : gate.entry.definition ∈ registry.definitions := List.mem_map_of_mem gate.listed
  have only {definition : Definition} (member : definition ∈ registry.definitions)
      (named : definition.name = gate.entry.definition.name) : definition = gate.entry.definition :=
    List.inj_on_of_nodup_map registry.names_nodup member known named
  refine Registry.check_accepts_iff.mpr ⟨fun leaf inside => ?_, fun definition _ _ => List.countP_le_length⟩
  cases List.mem_singleton.mp inside
  refine ⟨⟨_, known, rfl⟩, fun definition member named => ?_, fun definition member named arg listed => ?_⟩
  · cases only member named
    cases gate <;> nofun
  · cases only member named
    obtain ⟨unnumbered, untested⟩ := gate.args_plain arg listed
    exact ⟨given arg listed, fun number => absurd number unnumbered,
      fun test tested => nomatch untested.symm.trans tested⟩

/-- A rule that gates by a token is accepted if its check has what it requires, and nothing is asked of what
the arguments say. Where services answer as they should and all wallets are addresses, its check
fails as a service fails or on its own arguments: a contract that is no address, where it is asked, a
token that is no whole number, or a minimum that is no amount for some number of decimals. On each of
these it does fail for everybody who has a wallet, if there is a node for the chain. -/
theorem accepted_gates_break_on_arguments (accepted : registry.check kind rule = .ok ())
    (inside : leaf ∈ rule.leaves) (named : leaf.name = gate.entry.definition.name) (args : ctx.args = leaf.args)
    (addresses : HasAddresses ctx.user) :
    (∀ failure, Ends (gate.entry.run ctx) (.error failure) → failure.IsRemote ∨ gate.Breaks ctx failure) ∧
      (ctx.user.addresses ≠ [] → (ctx.directory.chain? (gate.chain ctx)).isSome = true →
        ∀ failure, gate.Breaks ctx failure → Ends (gate.entry.run ctx) (.error failure)) ∧
      ∀ kind args, gate.IsGiven args → registry.check kind (.condition ⟨leaf.name, args⟩) = .ok () := by
  have given : gate.IsGiven ctx.args := args ▸ TokenGate.isGiven_of_accepted accepted inside named
  refine ⟨fun failure ends => TokenGate.ends_entry given addresses ends,
    fun some_wallet listed failure breaks => ?_, fun kind args given => ?_⟩
  · cases breaks with
    | address asks refused =>
      exact TokenGate.address_breaks given addresses some_wallet listed asks
        (Chain.normalizeAddress_error_iff.mpr ⟨refused, rfl⟩)
    | token takes chosen unread => exact TokenGate.token_breaks given takes chosen unread
    | minimum takes addressed small unread =>
      exact TokenGate.minimum_breaks given addresses listed takes addressed small unread
  · rw [named]
    exact TokenGate.accepted_of_isGiven kind given

/-- Any token is what an empty list stands for to whoever saves it, and the check takes it for a number. -/
theorem empty_list_for_token_breaks_gate :
    let contract := "0x4ed4e862860bed51a9570b96d89af5e1b0efefed"
    let user : User := { fid := 8, custodyAddress := some "0xa1a1a1a1a1a1a1a1a1a1a1a1a1a1a1a1a1a1a1a1" }
    let leaf : Condition := ⟨"requiresErc721", [("chainId", .str "8453"), ("contractAddress", .str contract),
      ("name", .str "Cats"), ("tokenId", .arr [])]⟩
    registry.check (some .inclusion) (.condition leaf) = .ok () ∧ HasAddresses user ∧
      Ends (Holdings.erc721.run (aboutUser user leaf.args)) (.error (.misuse (.notConvertible "list"))) := by
  intro contract user leaf
  have accepted : registry.check (some .inclusion) (.condition leaf) = .ok () := rfl
  have addresses : HasAddresses user := by
    intro address listed
    cases List.mem_singleton.mp listed
    exact ⟨"a1a1a1a1a1a1a1a1a1a1a1a1a1a1a1a1a1a1a1a1".toList,
      ⟨by decide, List.all_eq_true.mp (by decide)⟩, by decide⟩
  obtain ⟨-, breaks, -⟩ := accepted_gates_break_on_arguments accepted (.head _)
    (show leaf.name = TokenGate.collection.entry.definition.name from rfl)
    (show (aboutUser user leaf.args).args = leaf.args from rfl) addresses
  exact ⟨accepted, addresses, breaks nofun rfl _ (.token trivial rfl rfl)⟩

end Accepted

end Curation.Check
