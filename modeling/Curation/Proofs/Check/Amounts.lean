import Curation.Check.Holdings
import Curation.Proofs.Program.Runs
import Mathlib.Algebra.BigOperators.Ring.Finset
import Mathlib.Algebra.Order.BigOperators.Group.List
import Mathlib.Algebra.Order.Ring.Nat

/-! Checks of amounts of a token. All of them weigh what the wallets of a user hold
together against a minimum. What they make of it differs, and every wallet counts as
often as it is listed. -/
namespace Curation.Check

open Chain (normalizeAddress parseUnits)
open Holdings (token total reaches labelText erc20 fanToken channelFanToken fanTokenChain)
open Program (run_bind_eq_ok ok_of_toOption)

variable {σ : Type} {answer : (ask : Ask) → σ → Answer ask × σ} {state : σ} {ctx other : Context}
  {chain contract : String}

/-! ## Weighing -/

/-- The check passes, with some message. -/
def Passes (answer : (ask : Ask) → σ → Answer ask × σ) (state : σ) (entry : Entry) (ctx : Context) :
    Prop :=
  ∃ message, ((entry.run ctx).run answer state).1 = .ok ⟨true, message⟩

/-- What the wallets of the user hold together, and whether it is at least the minimum. -/
def weigh (ctx : Context) (chain contract : String) : Check (Int × Bool) := do
  let decimals ← Remote.Tokens.decimals ctx.directory chain contract
  let held ← total ctx chain contract
  let reached ← reaches held (ctx.arg "minBalance") decimals
  return (held, reached)

theorem reaches_ok {sum : Int} {minimum : Json} {decimals : Int} {reached : Bool} :
    ((liftM (reaches sum minimum decimals) : Check Bool).run answer state).1 = .ok reached ↔
      ∃ required, parseUnits minimum decimals = .ok required ∧ reached = decide (required ≤ sum) := by
  cases read : parseUnits minimum decimals with
  | error fault =>
    simp only [reaches, read, reduceCtorEq, false_and, exists_false, iff_false]
    exact fun failed => nomatch failed
  | ok required =>
    simp only [reaches, read, Except.ok.injEq, exists_eq_left']
    exact ⟨fun same => (Except.ok.inj same).symm, fun same => same ▸ rfl⟩

/-- What is weighed is compared with what is required. -/
theorem weigh_ok {sum : Int} {reached : Bool} :
    let asked := (ofFetch (Remote.Tokens.decimals ctx.directory chain contract)).run answer state
    ((weigh ctx chain contract).run answer state).1 = .ok (sum, reached) ↔
      ∃ decimals required, asked.1 = .ok decimals ∧
        ((total ctx chain contract).run answer asked.2).1 = .ok sum ∧
        parseUnits (ctx.arg "minBalance") decimals = .ok required ∧
        reached = decide (required ≤ sum) := by
  intro asked
  have parts : weigh ctx chain contract =
      (ofFetch (Remote.Tokens.decimals ctx.directory chain contract)).bind fun decimals =>
        (total ctx chain contract).bind fun held =>
          (liftM (reaches held (ctx.arg "minBalance") decimals) : Check Bool).bind fun reached =>
            .done (held, reached) := rfl
  rw [parts, run_bind_eq_ok]
  simp only [run_bind_eq_ok, reaches_ok]
  constructor
  · rintro ⟨decimals, told, _, summed, _, ⟨required, read, rfl⟩, rfl, rfl⟩
    exact ⟨decimals, required, told, summed, read, rfl⟩
  · rintro ⟨decimals, required, told, summed, read, same⟩
    exact ⟨decimals, told, sum, summed, reached, ⟨required, read, same⟩, rfl⟩

private theorem passes_of_weigh {entry : Entry} {verdict : Int × Bool → Verdict}
    (weighs : entry.run other =
      (weigh ctx chain contract).bind fun weighed => .done (verdict weighed)) :
    Passes answer state entry other ↔
      ∃ weighed, ((weigh ctx chain contract).run answer state).1 = .ok weighed ∧
        (verdict weighed).passed = true := by
  unfold Passes
  rw [weighs]
  constructor
  · rintro ⟨message, passes⟩
    obtain ⟨weighed, run, same⟩ := run_bind_eq_ok.mp passes
    have same : verdict weighed = ⟨true, message⟩ := Except.ok.inj same
    exact ⟨weighed, run, by rw [same]⟩
  · rintro ⟨weighed, run, passed⟩
    refine ⟨(verdict weighed).message, run_bind_eq_ok.mpr ⟨weighed, run, ?_⟩⟩
    rw [← passed]
    rfl

/-- A token that is named has a label. -/
theorem labelText_of_token (named : token ctx = .ok (chain, contract)) :
    ∃ text, labelText ctx = .ok text := by
  unfold token at named
  cases there : ctx.needed "contractAddress" with
  | error fault =>
    cases first : ctx.needed "chainId" with
    | ok _ | error _ =>
      rw [first, there] at named
      cases named
  | ok address =>
    have entry : Json.entry (.obj ctx.args) "contractAddress" = .ok address := there
    simp only [labelText, Holdings.label, Json.member, Json.members, entry, bind, Except.bind, pure,
      Except.pure]
    by_cases given : ((Json.Members.get? "name" ctx.args).getD .null).truthy
    · exact ⟨_, by simp only [given]; rfl⟩
    · exact ⟨_, by simp only [given]; rfl⟩

/-- What was worked out without asking is there at once. -/
theorem liftM_ok {α : Type} (value : α) :
    (liftM (Except.ok value : Except Misuse α) : Check α) = .done value := rfl

/-- The check of a token says what was weighed. -/
theorem erc20_run (named : token ctx = .ok (chain, contract)) :
    ∃ verdict : Int × Bool → Verdict,
      erc20.run ctx = (weigh ctx chain contract).bind (fun weighed => .done (verdict weighed)) ∧
        ∀ weighed, (verdict weighed).passed = (weighed.2 && decide (0 < weighed.1)) := by
  obtain ⟨text, labelled⟩ := labelText_of_token named
  let minimum := ctx.arg "minBalance"
  let verdict (weighed : Int × Bool) : Verdict :=
    if weighed.2 && decide (0 < weighed.1) then ⟨true, s!"User holds ERC-20 ({text})"⟩
    else if minimum.truthy then ⟨false, s!"Needs to hold {minimum.display} ERC-20 ({text})"⟩
    else ⟨false, s!"User does not hold ERC-20 ({text})"⟩
  refine ⟨verdict, ?_, fun weighed => ?_⟩
  · simp only [erc20, named, weigh, Program.bind_eq, Program.bind_assoc, labelled, liftM_ok,
      Program.pure_eq, Program.bind, verdict]
    refine congrArg _ (funext fun decimals => congrArg _ (funext fun held =>
      congrArg _ (funext fun reached => ?_)))
    split
    · rfl
    · split <;> rfl
  · cases passed : weighed.2 && decide (0 < weighed.1) with
    | true => simp only [verdict, passed, if_true]
    | false =>
      simp only [verdict, passed, Bool.false_eq_true, if_false]
      split <;> rfl

theorem passes_erc20 (named : token ctx = .ok (chain, contract)) :
    Passes answer state erc20 ctx ↔
      ∃ held, ((weigh ctx chain contract).run answer state).1 = .ok (held, true) ∧ 0 < held := by
  obtain ⟨verdict, weighs, passed_eq⟩ := erc20_run named
  rw [passes_of_weigh weighs]
  simp only [passed_eq, Bool.and_eq_true, decide_eq_true_eq]
  constructor
  · rintro ⟨⟨held, reached⟩, run, rfl, positive⟩
    exact ⟨held, run, positive⟩
  · rintro ⟨held, run, positive⟩
    exact ⟨(held, true), run, rfl, positive⟩

/-! ## What wallets hold together -/

/-- What wallets hold together, each counted as often as it is listed. -/
def amount (held : String → Nat) (wallets : List String) : Nat := (wallets.map held).sum

/-- Wallets hold together what each of them holds, times how often it is listed. -/
theorem amount_eq_counted (held : String → Nat) (wallets : List String) :
    amount held wallets = amount (fun wallet => wallets.count wallet * held wallet) wallets.dedup := by
  have same : wallets.dedup.toFinset = wallets.toFinset := List.toFinset.ext fun _ => List.mem_dedup
  unfold amount
  rw [Finset.sum_list_map_count, ← List.sum_toFinset _ wallets.nodup_dedup, same]
  rfl

/-- Different wallets hold something together exactly if all that are listed do. -/
theorem amount_dedup_pos {held : String → Nat} {wallets : List String} :
    0 < amount held wallets.dedup ↔ 0 < amount held wallets := by
  simp only [amount, List.sum_pos_iff_exists_pos_nat, List.mem_map, List.mem_dedup]

theorem amount_dedup_le {held : String → Nat} {wallets : List String} :
    amount held wallets.dedup ≤ amount held wallets :=
  (wallets.dedup_sublist.map held).sum_le_sum fun _ _ => Nat.zero_le _

/-- The balances of wallets, added one after the other, are what they hold together. -/
theorem foldl_balances (held : String → Nat) (wallets : List String) :
    (wallets.map fun wallet => (held wallet : Int)).foldl (· + ·) 0 = (amount held wallets : Int) := by
  rw [← List.sum_eq_foldl, amount, Nat.cast_list_sum, List.map_map]
  rfl

/-! ## Networks -/

/-- Every call is answered as a network answers it, calls at the same time each by itself. -/
structure Speaks (answer : (ask : Ask) → σ → Answer ask × σ)
    (network : (ask : Remote.Ask) → Remote.Answer ask) : Prop where
  remote : ∀ ask state, (answer (.remote ask) state).1 = network ask
  together : ∀ calls state,
    (answer (.together calls) state).1 = calls.mapM fun call => call.result network

/-- On a network, a contract has these decimals, and each wallet holds so much of its token. -/
structure Shows (network : (ask : Remote.Ask) → Remote.Answer ask) (directory : Remote.Directory)
    (chain contract : String) (decimals : Int) (held : String → Nat) : Prop where
  decimals : (Remote.Tokens.decimals directory chain contract).result network = .ok decimals
  balance : ∀ address wallet, normalizeAddress address = .ok wallet →
    (Remote.Tokens.balance directory chain contract address).result network = .ok (held wallet)

/-- The wallets of a user as they are told apart, if all of them are addresses. -/
def walletsOf (user : User) : Except Chain.WordFault (List String) :=
  user.addresses.mapM normalizeAddress

variable {network : (ask : Remote.Ask) → Remote.Answer ask} {decimals : Int} {held : String → Nat}

theorem Speaks.fetch {α : Type} (speaks : Speaks answer network) (call : Remote.Fetch α) (state : σ) :
    ((ofFetch call).run answer state).1 = call.result network := by
  unfold ofFetch
  induction call generalizing state with
  | done | failed => rfl
  | ask question next ih =>
    refine (ih _ _).trans ?_
    rw [speaks.remote]
    rfl

/-- An address that is none has no balance. -/
theorem balance_of_no_address {directory : Remote.Directory} {address : String}
    {fault : Chain.WordFault} (invalid : normalizeAddress address = .error fault) :
    (Remote.Tokens.balance directory chain contract address).result network = .error (.word fault) := by
  simp only [Remote.Tokens.balance, Remote.Tokens.balanceData, Chain.encodeAddress, invalid]
  rfl

/-- The balances of addresses are there if all of them are addresses. -/
theorem Shows.balances {directory : Remote.Directory}
    (shows : Shows network directory chain contract decimals held) (addresses : List String) :
    ((addresses.map fun address => Remote.Tokens.balance directory chain contract address).mapM
        fun call => call.result network) =
      match addresses.mapM normalizeAddress with
      | .ok wallets => .ok (wallets.map fun wallet => (held wallet : Int))
      | .error fault => .error (.word fault) := by
  induction addresses with
  | nil => rfl
  | cons address rest ih =>
    simp only [List.map_cons, List.mapM_cons]
    cases normal : normalizeAddress address with
    | error fault =>
      rw [balance_of_no_address normal]
      rfl
    | ok wallet =>
      rw [shows.balance address wallet normal, ih]
      cases rest.mapM normalizeAddress with
      | ok wallets | error fault => rfl

theorem Shows.total (speaks : Speaks answer network)
    (shows : Shows network ctx.directory chain contract decimals held) (state : σ) :
    ((total ctx chain contract).run answer state).1 =
      match walletsOf ctx.user with
      | .ok wallets => .ok (amount held wallets : Int)
      | .error fault => .error (.word fault) := by
  unfold Holdings.total together walletsOf
  simp only [Program.bind_eq, Program.bind, Program.run]
  rw [speaks.together, shows.balances]
  cases ctx.user.addresses.mapM normalizeAddress with
  | error fault => rfl
  | ok wallets =>
    simp only [Program.ofExcept, Program.bind, Program.run, Program.pure_eq]
    rw [foldl_balances]

/-- What is weighed on a network is what the wallets hold, each as often as it is listed. -/
theorem Shows.weigh_ok (speaks : Speaks answer network)
    (shows : Shows network ctx.directory chain contract decimals held) {sum : Int} {reached : Bool} :
    ((weigh ctx chain contract).run answer state).1 = .ok (sum, reached) ↔
      ∃ wallets required, walletsOf ctx.user = .ok wallets ∧
        parseUnits (ctx.arg "minBalance") decimals = .ok required ∧ sum = amount held wallets ∧
        reached = decide (required ≤ sum) := by
  refine Iff.trans Check.weigh_ok ?_
  simp only [speaks.fetch, shows.decimals, shows.total speaks]
  constructor
  · rintro ⟨decimals', required, told, summed, read, same⟩
    cases told
    cases listed : walletsOf ctx.user with
    | error fault =>
      rw [listed] at summed
      cases summed
    | ok wallets =>
      rw [listed] at summed
      exact ⟨wallets, required, rfl, read, (Except.ok.inj summed).symm, same⟩
  · rintro ⟨wallets, required, listed, read, rfl, same⟩
    exact ⟨decimals, required, rfl, by rw [listed], read, same⟩

/-- The surroundings that a network makes, with nothing cached. -/
def onNetwork (network : (ask : Remote.Ask) → Remote.Answer ask) :
    (ask : Ask) → Unit → Answer ask × Unit
  | .remote ask, state => (network ask, state)
  | .together calls, state => (calls.mapM fun call => call.result network, state)
  | .cached _, state => (none, state)
  | .keep .., state | .pause _, state | .clearLogs .., state => ((), state)
  | .timeLeft wanted, state => (wanted, state)

/-- A network whose nodes answer every question with one number. -/
def steady (number : String) : (ask : Remote.Ask) → Remote.Answer ask
  | .isHeldBack _ => false
  | .send _ => .answered ⟨200, "\x7b\"result\":\"" ++ number ++ "\"\x7d"⟩
  | .report .. => ()

theorem speaks_onNetwork : Speaks (onNetwork network) network where
  remote _ _ := rfl
  together _ _ := rfl

/-- On a steady network it does not matter what a node is asked. -/
private theorem steady_call (directory : Remote.Directory) (number chain contract data : String) :
    (Remote.Tokens.call directory chain contract data).result (steady number) =
      (Remote.Tokens.call directory chain contract "").result (steady number) := by
  unfold Remote.Tokens.call
  cases directory.chain? chain with
  | none => rfl
  | some node =>
    cases normalizeAddress contract with
    | error fault => rfl
    | ok target => rfl

/-- On a steady network, one number is the decimals of every token and every balance. -/
theorem shows_steady {directory : Remote.Directory} {number : String} {n : Nat}
    (answers : (Remote.Tokens.call directory chain contract "").result (steady number) = .ok number)
    (decodes : Chain.decodeNumber number = .ok n) :
    Shows (steady number) directory chain contract n (fun _ => n) := by
  have decoded (data : String) :
      ((Remote.Tokens.call directory chain contract data).bind fun text =>
        (liftM (Chain.decodeNumber text) : Remote.Fetch Int)).result (steady number) = .ok n := by
    rw [Program.result_bind, steady_call, answers]
    simp only [Except.bind, decodes]
    rfl
  refine ⟨decoded _, fun address wallet normal => ?_⟩
  simp only [Remote.Tokens.balance, Remote.Tokens.balanceData, Chain.encodeAddress, normal]
  exact decoded _

/-- Something is checked of a user, with one chain to ask. -/
def aboutUser (user : User) (args : Json.Members) : Context :=
  { channel := default, user, cast := none, args,
    directory := { (default : Remote.Directory) with chains := [("8453", "http://base")] },
    simulation := false, hasLogs := false }

/-! ## Fan tokens -/

/-- The picked fan token is one of this contract. -/
def PicksFanToken (ctx : Context) (contract : String) : Prop :=
  let picked := (ctx.arg "fanToken").orElse (.obj [])
  ∃ label value, picked.memberOr "label" (.str "") = .ok label ∧ picked.entry "value" = .ok value ∧
    value.display = contract

/-- The fan token of the channel is one of this contract. -/
def NamesFanToken (ctx : Context) (contract : String) : Prop :=
  ∃ value, ctx.needed "contractAddress" = .ok value ∧ value.display = contract

private theorem passes_of_reached {entry : Entry} {yes no : String}
    (weighs : entry.run other = (weigh ctx chain contract).bind fun weighed =>
      .done (verdict weighed.2 yes no)) :
    Passes answer state entry other ↔
      ∃ held, ((weigh ctx chain contract).run answer state).1 = .ok (held, true) := by
  rw [passes_of_weigh weighs]
  constructor
  · rintro ⟨⟨held, reached⟩, run, passed⟩
    cases reached with
    | true => exact ⟨held, run⟩
    | false => cases passed
  · rintro ⟨held, run⟩
    exact ⟨(held, true), run, rfl⟩

private theorem reachesFanToken_eq :
    Holdings.reachesFanToken ctx contract =
      (weigh ctx fanTokenChain contract).bind fun weighed => .done weighed.2 := by
  simp only [Holdings.reachesFanToken, weigh, Program.bind_eq, Program.bind_assoc, Program.pure_eq,
    Program.bind, Program.bind_done]

theorem passes_fanToken (picks : PicksFanToken ctx contract) :
    Passes answer state fanToken ctx ↔
      ∃ held, ((weigh ctx fanTokenChain contract).run answer state).1 = .ok (held, true) := by
  obtain ⟨label, value, labelled, valued, rfl⟩ := picks
  have weighs : fanToken.run ctx = (weigh ctx fanTokenChain value.display).bind fun weighed =>
      .done (verdict weighed.2 s!"User holds @{label.display}'s Fan Token"
        s!"User does not hold enough of @{label.display}'s Fan Token") := by
    simp only [fanToken, labelled, valued, reachesFanToken_eq, liftM_ok, Program.bind_eq,
      Program.bind_assoc, Program.bind, Program.pure_eq]
  exact passes_of_reached weighs

/-- The check of the fan token of a channel says what was weighed. -/
theorem channelFanToken_run (names : NamesFanToken ctx contract) :
    channelFanToken.run ctx = (weigh ctx fanTokenChain contract).bind fun weighed =>
      .done (verdict weighed.2 s!"Holds /{ctx.channel.id} Fan Token"
        s!"Does not hold enough /{ctx.channel.id} Fan Token") := by
  obtain ⟨value, named, rfl⟩ := names
  simp only [channelFanToken, named, reachesFanToken_eq, liftM_ok, Program.bind_eq,
    Program.bind_assoc, Program.bind, Program.pure_eq]

theorem passes_channelFanToken (names : NamesFanToken ctx contract) :
    Passes answer state channelFanToken ctx ↔
      ∃ held, ((weigh ctx fanTokenChain contract).run answer state).1 = .ok (held, true) :=
  passes_of_reached (channelFanToken_run names)

/-- Contexts that are about the same user and minimum and ask the same nodes. -/
structure Context.WeighsAs (ctx other : Context) : Prop where
  user : other.user = ctx.user
  directory : other.directory = ctx.directory
  minimum : other.arg "minBalance" = ctx.arg "minBalance"

theorem Context.WeighsAs.weigh_eq (same : ctx.WeighsAs other) (chain contract : String) :
    weigh other chain contract = weigh ctx chain contract := by
  simp only [weigh, total, same.user, same.directory, same.minimum]

private theorem toUnits_zero {decimals units : Int}
    (shifted : Decimal.toUnits (.finite false 0 0) decimals = .ok units) : units = 0 := by
  by_cases wide : Decimal.greatestShift < decimals.natAbs
  · simp only [Decimal.toUnits, wide, if_true, reduceCtorEq] at shifted
  · simp only [Decimal.toUnits, wide, if_false, if_true, Except.ok.injEq] at shifted
    exact shifted.symm

/-- Nothing is required where no minimum is given. -/
theorem parseUnits_blank {minimum : Json} (blank : minimum = .null ∨ minimum = .str "")
    {decimals required : Int} (read : parseUnits minimum decimals = .ok required) :
    required = 0 := by
  have zero : Decimal.read? "0" = some (.finite false 0 0) := by decide +kernel
  unfold parseUnits at read
  -- The text is generalized, or each step would read it anew.
  generalize "0" = text at read zero
  rcases blank with rfl | rfl
  all_goals
    simp only [zero] at read
    split at read
    · rename_i shifted
      cases read
      exact toUnits_zero shifted
    · cases read

/-- The three checks of amounts weigh the same on the chain of fan tokens. The check of a token passes
where the minimum is reached by something at all. The checks of fan tokens agree with each other
and pass wherever it is reached, so they pass without any token as well where it is not positive,
and always if no minimum is given and nobody owes tokens. -/
theorem fan_token_checks_pass_without_tokens (answer : (ask : Ask) → σ → Answer ask × σ) (state : σ)
    {ctx fan channel : Context} {contract : String}
    (named : token ctx = .ok (fanTokenChain, contract)) (picks : PicksFanToken fan contract)
    (names : NamesFanToken channel contract) (fan_same : ctx.WeighsAs fan)
    (channel_same : ctx.WeighsAs channel) :
    let weighed := ((weigh ctx fanTokenChain contract).run answer state).1
    (Passes answer state erc20 ctx ↔ ∃ held, weighed = .ok (held, true) ∧ 0 < held) ∧
      (Passes answer state fanToken fan ↔ ∃ held, weighed = .ok (held, true)) ∧
      (Passes answer state channelFanToken channel ↔ Passes answer state fanToken fan) ∧
      (Passes answer state erc20 ctx → Passes answer state fanToken fan) ∧
      (Passes answer state fanToken fan ∧ ¬ Passes answer state erc20 ctx ↔
        ∃ held, weighed = .ok (held, true) ∧ held ≤ 0) ∧
      (ctx.arg "minBalance" = .null ∨ ctx.arg "minBalance" = .str "" → ∀ held reached,
        weighed = .ok (held, reached) → (Passes answer state fanToken fan ↔ 0 ≤ held)) := by
  intro weighed
  have of_erc20 : Passes answer state erc20 ctx ↔ ∃ held, weighed = .ok (held, true) ∧ 0 < held :=
    passes_erc20 named
  have of_fan : Passes answer state fanToken fan ↔ ∃ held, weighed = .ok (held, true) := by
    rw [passes_fanToken picks, fan_same.weigh_eq]
  have of_channel : Passes answer state channelFanToken channel ↔
      ∃ held, weighed = .ok (held, true) := by
    rw [passes_channelFanToken names, channel_same.weigh_eq]
  refine ⟨of_erc20, of_fan, of_channel.trans of_fan.symm, ?_, ?_, ?_⟩
  · rw [of_erc20, of_fan]
    rintro ⟨held, reached, -⟩
    exact ⟨held, reached⟩
  · rw [of_erc20, of_fan]
    constructor
    · rintro ⟨⟨held, reached⟩, none_⟩
      exact ⟨held, reached, Int.not_lt.mp fun positive => none_ ⟨held, reached, positive⟩⟩
    · rintro ⟨held, reached, low⟩
      refine ⟨⟨held, reached⟩, ?_⟩
      rintro ⟨held', reached', positive⟩
      rw [reached] at reached'
      cases reached'
      omega
  · intro blank held reached here
    obtain ⟨decimals, required, -, -, read, compared⟩ := weigh_ok.mp here
    obtain rfl := parseUnits_blank blank read
    rw [of_fan]
    constructor
    · rintro ⟨held', there⟩
      rw [here] at there
      cases there
      simpa using compared
    · intro enough
      refine ⟨held, ?_⟩
      rw [here, compared]
      simp [enough]

/-- The user has nothing at all of a fan token, and no minimum is given. -/
theorem fan_token_held_by_holding_nothing :
    let answer := onNetwork (steady "0x")
    let contract := "0x4ed4e862860bed51a9570b96d89af5e1b0efefed"
    let about := aboutUser { fid := 8, custodyAddress := some contract }
    let ctx := about [("chainId", .str "8453"), ("contractAddress", .str contract)]
    let fan := about [("fanToken", .obj [("value", .str contract)])]
    let channel := about [("contractAddress", .str contract)]
    Passes answer () fanToken fan ∧ Passes answer () channelFanToken channel ∧
      ¬ Passes answer () erc20 ctx := by
  intro answer contract about ctx fan channel
  have shows : Shows (steady "0x") ctx.directory fanTokenChain contract 0 (fun _ => 0) :=
    shows_steady (ok_of_toOption (by decide +kernel)) (ok_of_toOption (by decide +kernel))
  have listed : walletsOf ctx.user = .ok [contract] := ok_of_toOption (by decide +kernel)
  have read : parseUnits (ctx.arg "minBalance") 0 = .ok 0 := ok_of_toOption (by decide +kernel)
  have nothing : ((weigh ctx fanTokenChain contract).run answer ()).1 = .ok (0, true) :=
    (shows.weigh_ok speaks_onNetwork).mpr ⟨[contract], 0, listed, read, rfl, rfl⟩
  have named : token ctx = .ok (fanTokenChain, contract) := rfl
  have picks : PicksFanToken fan contract := ⟨_, _, rfl, rfl, rfl⟩
  have names : NamesFanToken channel contract := ⟨_, rfl, rfl⟩
  obtain ⟨of_erc20, of_fan, of_channel, -, -, -⟩ :=
    fan_token_checks_pass_without_tokens answer () named picks names ⟨rfl, rfl, rfl⟩ ⟨rfl, rfl, rfl⟩
  have of_fan : Passes answer () fanToken fan := of_fan.mpr ⟨0, nothing⟩
  refine ⟨of_fan, of_channel.mpr of_fan, fun passes => ?_⟩
  obtain ⟨held, weighed, positive⟩ := of_erc20.mp passes
  rw [nothing] at weighed
  cases weighed
  cases positive

/-! ## Repeated wallets -/

/-- An amount is positive and at least what is required. -/
def Suffices (required : Int) (amount : Nat) : Prop := required ≤ amount ∧ 0 < amount

/-- The check of a token weighs every wallet as often as the user lists it, in whatever case its letters
are. What the different wallets of a user hold together passes if it suffices, and this is all that
passes where none is listed twice. Besides, exactly those pass who hold less than required and reach
it by listing wallets again. -/
theorem repeated_wallets_count_again (answer : (ask : Ask) → σ → Answer ask × σ) (state : σ)
    (speaks : Speaks answer network) (named : token ctx = .ok (chain, contract))
    (shows : Shows network ctx.directory chain contract decimals held) :
    (Passes answer state erc20 ctx ↔ ∃ wallets required, walletsOf ctx.user = .ok wallets ∧
        parseUnits (ctx.arg "minBalance") decimals = .ok required ∧
        Suffices required (amount held wallets)) ∧
      ∀ wallets required, walletsOf ctx.user = .ok wallets →
        parseUnits (ctx.arg "minBalance") decimals = .ok required →
        amount held wallets = amount (fun wallet => wallets.count wallet * held wallet) wallets.dedup ∧
        (wallets.Nodup →
          (Passes answer state erc20 ctx ↔ Suffices required (amount held wallets.dedup))) ∧
        (Suffices required (amount held wallets.dedup) → Passes answer state erc20 ctx) ∧
        (Passes answer state erc20 ctx ∧ ¬ Suffices required (amount held wallets.dedup) ↔
          amount held wallets.dedup < required ∧ required ≤ amount held wallets) := by
  have counted : Passes answer state erc20 ctx ↔ ∃ wallets required, walletsOf ctx.user = .ok wallets ∧
      parseUnits (ctx.arg "minBalance") decimals = .ok required ∧
      Suffices required (amount held wallets) := by
    rw [passes_erc20 named]
    constructor
    · rintro ⟨sum, weighed, positive⟩
      obtain ⟨wallets, required, listed, read, rfl, reached⟩ := (shows.weigh_ok speaks).mp weighed
      exact ⟨wallets, required, listed, read, of_decide_eq_true reached.symm,
        Int.natCast_pos.mp positive⟩
    · rintro ⟨wallets, required, listed, read, reached, positive⟩
      exact ⟨amount held wallets, (shows.weigh_ok speaks).mpr
        ⟨wallets, required, listed, read, rfl, (decide_eq_true reached).symm⟩,
        Int.natCast_pos.mpr positive⟩
  refine ⟨counted, fun wallets required listed read => ?_⟩
  have passes : Passes answer state erc20 ctx ↔ Suffices required (amount held wallets) := by
    simp [counted, listed, read]
  have fewer : amount held wallets.dedup ≤ amount held wallets := amount_dedup_le
  have something : 0 < amount held wallets.dedup ↔ 0 < amount held wallets := amount_dedup_pos
  refine ⟨amount_eq_counted held wallets, fun distinct => by rw [passes, distinct.dedup], ?_, ?_⟩
  all_goals
    rw [passes]
    unfold Suffices
    omega

/-- The custody address is verified as well, and then written in capitals. The token has one decimal and
every wallet one unit of it, so the user holds half of what is required. -/
theorem one_wallet_listed_twice_passes :
    let network := steady "0x1"
    let contract := "0x4ed4e862860bed51a9570b96d89af5e1b0efefed"
    let user : User :=
      { fid := 8, custodyAddress := some contract
        verifications := ["0x4ED4E862860BED51A9570B96D89AF5E1B0EFEFED"] }
    let ctx := aboutUser user [("chainId", .str "8453"), ("contractAddress", .str contract),
      ("minBalance", .str "0.2")]
    Speaks (onNetwork network) network ∧ token ctx = .ok ("8453", contract) ∧
      Shows network ctx.directory "8453" contract 1 (fun _ => 1) ∧
      walletsOf user = .ok [contract, contract] ∧ parseUnits (ctx.arg "minBalance") 1 = .ok 2 ∧
      Passes (onNetwork network) () erc20 ctx ∧
      ¬ Suffices 2 (amount (fun _ => 1) [contract, contract].dedup) := by
  intro network contract user ctx
  have named : token ctx = .ok ("8453", contract) := rfl
  have shows : Shows network ctx.directory "8453" contract 1 (fun _ => 1) :=
    shows_steady (ok_of_toOption (by decide +kernel)) (ok_of_toOption (by decide +kernel))
  have listed : walletsOf user = .ok [contract, contract] := ok_of_toOption (by decide +kernel)
  have read : parseUnits (ctx.arg "minBalance") 1 = .ok 2 := ok_of_toOption (by decide +kernel)
  obtain ⟨-, counts⟩ := repeated_wallets_count_again (onNetwork network) () speaks_onNetwork
    named shows
  obtain ⟨-, -, -, besides⟩ := counts _ _ listed read
  exact ⟨speaks_onNetwork, named, shows, listed, read,
    besides.mpr ⟨by decide +kernel, by decide +kernel⟩⟩

end Curation.Check
