import Curation.Check.Catalogue
import Curation.Proofs.Remote.Reading

/-! What checks keep for others to use. A check looks up an answer under a key, and makes
and keeps it where there is none; besides, it looks and leaves the cache alone. There are
seven kinds of such inquiries. What makes the answer is a matter of the inquiry alone, and
not of the check that has it. -/
namespace Curation.Check

open Program (Asks)
open Remote (Reads)

variable {α β : Type}

/-- What a check wants to know and keeps. -/
inductive Inquiry where
  | badges
  | farRank (fid : Int)
  | globalRank (fid : Int)
  | channelRank (channel : String) (fid : Int)
  /-- Who owns one token of a collection. -/
  | owner (chain contract : String) (token : Json)
  /-- How many tokens of a collection a wallet holds. -/
  | balance (chain contract address : String)
  /-- How many of one token a wallet holds. -/
  | tokenBalance (chain contract address : String) (token : Int)

namespace Inquiry

def key : Inquiry → String
  | .badges => "powerbadge"
  | .farRank fid => s!"airstack:far-rank:{fid}"
  | .globalRank fid => s!"openrank:global-rank:{fid}"
  | .channelRank channel fid => s!"openrank:channel-rank:{channel}:{fid}"
  | .owner _ contract token => s!"erc721-owner:{contract}:{token.display}"
  | .balance _ contract address => Holdings.balanceKey "erc721-balance" contract address none
  | .tokenBalance _ contract address token =>
    Holdings.balanceKey "erc1155-balance" contract address (some token)

/-- How the keys of such inquiries begin. -/
def start : Inquiry → String
  | .badges => "powerbadge"
  | .farRank _ => "airstack:far-rank:"
  | .globalRank _ => "openrank:global-rank:"
  | .channelRank .. => "openrank:channel-rank:"
  | .owner .. => "erc721-owner:"
  | .balance .. => "erc721-balance:"
  | .tokenBalance .. => "erc1155-balance:"

/-- What tells the key from others that begin so. -/
def subject : Inquiry → String
  | .badges => ""
  | .farRank fid | .globalRank fid => toString fid
  | .channelRank channel fid => channel ++ ":" ++ toString fid
  | .owner _ contract token => contract ++ ":" ++ token.display
  | .balance _ contract address => contract ++ ":" ++ address
  | .tokenBalance _ contract address token => contract ++ ":" ++ address ++ ":" ++ toString token

theorem key_eq (inquiry : Inquiry) : inquiry.key = inquiry.start ++ inquiry.subject := by
  have apart (start first rest : String) : start ++ first ++ ":" ++ rest = start ++ (first ++ ":" ++ rest) := by
    simp only [String.append_assoc]
  cases inquiry with
  | badges | farRank | globalRank => rfl
  | channelRank | owner => exact apart _ _ _
  | balance _ contract address => exact apart "erc721-balance:" contract address
  | tokenBalance _ contract address token =>
    exact (congrArg (· ++ ":" ++ toString token) (apart "erc1155-balance:" contract address)).trans
      (apart _ _ _)

/-- Finds the answer out. -/
def fresh (directory : Remote.Directory) : Inquiry → Check Json
  | .badges => do
    let fids ← Remote.Accounts.powerBadgeFids directory
    return .arr (fids.map .int)
  | .farRank fid => do
    let rank ← Remote.Standing.farRank directory fid
    return (rank.map Json.int).getD .null
  | .globalRank fid => return (← Remote.Standing.globalRank directory fid).getD .null
  | .channelRank channel fid => return (← Remote.Standing.channelRank directory channel fid).getD .null
  | .owner chain contract token => do
    let id ← (token.toWhole : Except Misuse Int)
    return .str (← Remote.Tokens.owner directory chain contract id)
  | .balance chain contract address =>
    return .int (← Remote.Tokens.balance directory chain contract address .single none)
  | .tokenBalance chain contract address token =>
    return .int (← Remote.Tokens.balance directory chain contract address .multiToken (some token))

end Inquiry

/-! ## Checks with inquiries -/

/-- A question that changes nothing and leaves the cache alone. -/
def Ask.IsPlain : Ask → Prop
  | .remote ask => ask.isReading = true
  | .together calls => ∀ call ∈ calls, Reads call
  | .timeLeft _ | .pause _ => True
  | .cached _ | .keep .. | .clearLogs .. => False

/-- Of the cache a check asks for these inquiries and no more; else it asks what is
allowed. -/
inductive Consults (allowed : Ask → Prop) (directory : Remote.Directory) (inquires : Inquiry → Prop) :
    Check α → Prop
  | done (value : α) : Consults allowed directory inquires (.done value)
  | failed (failure : Failure) : Consults allowed directory inquires (.failed failure)
  | ask {question : Ask} {next : Answer question → Check α} : allowed question →
    (∀ answer, Consults allowed directory inquires (next answer)) →
    Consults allowed directory inquires (.ask question next)
  | inquire {inquiry : Inquiry} {ttl : Number} {rest : Json → Check α} : inquires inquiry →
    (∀ value, Consults allowed directory inquires (rest value)) →
    Consults allowed directory inquires ((cachedOr inquiry.key ttl (inquiry.fresh directory)).bind rest)

namespace Consults

variable {allowed : Ask → Prop} {directory : Remote.Directory} {inquires : Inquiry → Prop}

theorem bind {check : Check α} {rest : α → Check β} (first : Consults allowed directory inquires check)
    (then_ : ∀ value, Consults allowed directory inquires (rest value)) :
    Consults allowed directory inquires (check.bind rest) := by
  induction first with
  | done value => exact then_ value
  | failed failure => exact .failed failure
  | ask ok _ ih => exact .ask ok ih
  | inquire own _ ih =>
    rw [Program.bind_assoc]
    exact .inquire own ih

theorem of_asks {check : Check α} (asks : check.Asks allowed) :
    Consults allowed directory inquires check := by
  induction asks with
  | done value => exact .done value
  | failed failure => exact .failed failure
  | ask ok _ ih => exact .ask ok ih

theorem mono {wider : Ask → Prop} {check : Check α} (consults : Consults allowed directory inquires check)
    (widen : ∀ question, allowed question → wider question) : Consults wider directory inquires check := by
  induction consults with
  | done value => exact .done value
  | failed failure => exact .failed failure
  | ask ok _ ih => exact .ask (widen _ ok) ih
  | inquire own _ ih => exact .inquire own ih

theorem misuse_bind {result : Except Misuse β} {rest : β → Check α}
    (then_ : ∀ value, result = .ok value → Consults allowed directory inquires (rest value)) :
    Consults allowed directory inquires (Program.bind (liftM result : Check β) rest) := by
  cases result with
  | ok value => exact then_ value rfl
  | error cause => exact .failed _

theorem cachedOr (inquiry : Inquiry) (own : inquires inquiry) (ttl : Number) :
    Consults allowed directory inquires (Check.cachedOr inquiry.key ttl (inquiry.fresh directory)) := by
  rw [← Program.bind_done (Check.cachedOr _ _ _)]
  exact .inquire own .done

end Consults

/-! ## Plain parts -/

/-- A check that leaves the cache alone and only looks. -/
abbrev Plain (check : Check α) : Prop := check.Asks Ask.IsPlain

namespace Plain

theorem fetch {call : Remote.Fetch α} (reads : Reads call) : Plain (liftM call : Check α) :=
  reads.within

theorem misuse (result : Except Misuse α) : Plain (liftM result : Check α) := by
  cases result with
  | ok value => exact .done value
  | error cause => exact .failed _

theorem word (result : Except Chain.WordFault α) : Plain (liftM result : Check α) := by
  cases result with
  | ok value => exact .done value
  | error fault => exact .failed _

theorem ofExcept (result : Except Failure α) : Plain (.ofExcept result : Check α) := by
  cases result with
  | ok value => exact .done value
  | error failure => exact .failed failure

theorem together {calls : List (Remote.Fetch Int)} (reads : ∀ call ∈ calls, Reads call) :
    Plain (Check.together calls) :=
  .ask reads fun results => ofExcept results

theorem timeLeft (wanted : Option Number) : Plain (Check.timeLeft wanted) :=
  .ask trivial fun left => by
    cases left with
    | some seconds => exact .done seconds
    | none => exact .failed _

end Plain

/-- An answer is found out by looking. -/
theorem Inquiry.fresh_plain (directory : Remote.Directory) (inquiry : Inquiry) :
    Plain (inquiry.fresh directory) := by
  cases inquiry with
  | badges => exact (Plain.fetch (Remote.Accounts.powerBadgeFids_reads directory)).bind fun _ => .done _
  | farRank fid => exact (Plain.fetch (Remote.Standing.farRank_reads directory fid)).bind fun _ => .done _
  | globalRank fid =>
    exact (Plain.fetch (Remote.Standing.globalRank_reads directory fid)).bind fun _ => .done _
  | channelRank channel fid =>
    exact (Plain.fetch (Remote.Standing.channelRank_reads directory channel fid)).bind fun _ => .done _
  | owner chain contract token =>
    exact (Plain.misuse _).bind fun id =>
      (Plain.fetch (Remote.Tokens.owner_reads directory chain contract id)).bind fun _ => .done _
  | balance | tokenBalance =>
    exact (Plain.fetch (Remote.Tokens.balance_reads _ _ _ _ _ _)).bind fun _ => .done _

/-! ## The catalogue -/

/-- The inquiries that a check of the catalogue has. -/
inductive Inquires (ctx : Context) : Entry → Inquiry → Prop
  | badges : Inquires ctx Profile.holdsPowerBadge .badges
  | farRank : Inquires ctx Standing.farRank (.farRank ctx.user.fid)
  | globalRank : Inquires ctx Standing.globalEngagement (.globalRank ctx.user.fid)
  | channelRank : Inquires ctx Standing.channelEngagement (.channelRank ctx.channel.id ctx.user.fid)
  | owner {chain contract : String} : Holdings.token ctx = .ok (chain, contract) →
    Holdings.isOpen (ctx.arg "tokenId") = false →
    Inquires ctx Holdings.erc721 (.owner chain contract (ctx.arg "tokenId"))
  | balance {chain contract address : String} : Holdings.token ctx = .ok (chain, contract) →
    Holdings.isOpen (ctx.arg "tokenId") = true → address ∈ ctx.user.addresses →
    Inquires ctx Holdings.erc721 (.balance chain contract address)
  | tokenBalance {chain contract address : String} {token : Int} :
    Holdings.token ctx = .ok (chain, contract) → (ctx.arg "tokenId").toWhole = .ok token →
    address ∈ ctx.user.addresses →
    Inquires ctx Holdings.erc1155 (.tokenBalance chain contract address token)

variable (ctx : Context)

/-- A check has the inquiries that it should have, and else asks what is allowed. -/
abbrev EntryConsults (allowed : Ask → Prop) (entry : Entry) : Prop :=
  Consults allowed ctx.directory (Inquires ctx entry) (entry.run ctx)

namespace Profile

theorem entries_consult : ∀ entry ∈ entries, EntryConsults ctx Ask.IsPlain entry := by
  simp only [entries, List.forall_mem_cons]
  refine ⟨.done _, .of_asks ?_, .of_asks ?_, .of_asks ?_, .of_asks ?_, ?_, List.forall_mem_nil _⟩
  · simp only [displayNameContains]
    split
    · exact .done _
    · exact .done _
  · exact (Plain.misuse _).bind fun _ => (Plain.misuse _).bind fun _ => .done _
  · exact (Plain.misuse _).bind fun _ => (Plain.misuse _).bind fun _ => .done _
  · exact (Plain.misuse _).bind fun _ => (Plain.misuse _).bind fun _ => .done _
  · exact (Consults.cachedOr .badges .badges _).bind fun _ =>
      .of_asks ((Plain.misuse _).bind fun _ => .done _)

end Profile

namespace Following

private theorem connection_plain (connected : ViewerContext → Bool) (self does doesNot : String) :
    Plain (connection ctx connected self does doesNot) := by
  refine (Plain.misuse _).bind fun (options, fids) => ?_
  simp only
  split
  · exact .done _
  · refine (Plain.fetch (Remote.Accounts.bulkUsers_reads _ _ _)).bind fun targets => ?_
    split
    · exact .done _
    · split
      · exact .done _
      · exact (Plain.misuse _).bind fun _ => .done _

theorem entries_plain : ∀ entry ∈ entries, Plain (entry.run ctx) := by
  simp only [entries, List.forall_mem_cons]
  refine ⟨connection_plain ctx _ _ _ _, connection_plain ctx _ _ _ _, ?_, ?_, List.forall_mem_nil _⟩
  · exact (Plain.fetch (Remote.Channels.isFollowing_reads _ _ _)).bind fun _ => .done _
  · exact (Plain.fetch (Remote.Channels.isMember_reads _ _ _)).bind fun _ => .done _

end Following

namespace Content

private theorem onCast_plain {run : Cast → Check Verdict} (quiet : ∀ cast, Plain (run cast)) :
    Plain (onCast ctx run) := by
  unfold onCast
  split
  · exact .done _
  · exact quiet _

theorem entries_plain : ∀ entry ∈ entries, Plain (entry.run ctx) := by
  simp only [entries, List.forall_mem_cons]
  refine ⟨onCast_plain ctx fun _ => .done _, onCast_plain ctx fun cast => ?_,
    onCast_plain ctx fun cast => ?_, onCast_plain ctx fun cast => ?_,
    onCast_plain ctx fun cast => ?_, onCast_plain ctx fun cast => ?_, List.forall_mem_nil _⟩
  · simp only
    split
    · exact .failed _
    · exact .done _
  · exact (Plain.misuse _).bind fun _ => (Plain.misuse _).bind fun _ => .done _
  · exact (Plain.misuse _).bind fun _ => .done _
  · exact (Plain.misuse _).bind fun _ => .done _
  · refine (Plain.ofExcept _).bind fun findings => ?_
    split
    · exact (Plain.fetch (Remote.Accounts.cast_reads _ _)).bind fun _ => .done _
    · exact .done _

end Content

namespace Holdings

private theorem total_plain (chain contract : String) : Plain (total ctx chain contract) := by
  refine (Plain.together fun call listed => ?_).bind fun _ => .done _
  obtain ⟨address, -, rfl⟩ := List.mem_map.mp listed
  exact Remote.Tokens.balance_reads _ _ _ _ _ _

private theorem anyBalanceNow_plain (chain contract : String) (addresses : List String) :
    Plain (anyBalanceNow ctx chain contract addresses) := by
  induction addresses with
  | nil => exact .done false
  | cons address rest ih =>
    refine (Plain.fetch (Remote.Tokens.balance_reads _ _ _ _ _ _)).bind fun held => ?_
    split
    · exact .done true
    · exact ih

private theorem reachesFanToken_plain (contract : String) : Plain (reachesFanToken ctx contract) :=
  (Plain.fetch (Remote.Tokens.decimals_reads _ _ _)).bind fun _ =>
    (total_plain ctx _ _).bind fun _ => Plain.word _

private theorem erc20_plain : Plain (erc20.run ctx) := by
  refine (Plain.misuse _).bind fun token => ?_
  refine (Plain.fetch (Remote.Tokens.decimals_reads _ _ _)).bind fun decimals => ?_
  refine (total_plain ctx _ _).bind fun held => (Plain.word _).bind fun reached => ?_
  split
  · exact (Plain.misuse _).bind fun _ => .done _
  · split
    · exact (Plain.misuse _).bind fun _ => .done _
    · exact (Plain.misuse _).bind fun _ => .done _

/-- The wallets are asked about one after the other, each by an inquiry of its own. -/
private theorem anyBalance_consults {inquires : Inquiry → Prop} {chain contract start : String}
    {standard : Remote.Tokens.Standard} {token : Option Int} (inquiry : String → Inquiry)
    (keys : ∀ address, (inquiry address).key = balanceKey start contract address token)
    (answers : ∀ address, (inquiry address).fresh ctx.directory = do
      return .int (← Remote.Tokens.balance ctx.directory chain contract address standard token))
    (addresses : List String) (own : ∀ address ∈ addresses, inquires (inquiry address)) :
    Consults Ask.IsPlain ctx.directory inquires
      (anyBalance ctx chain contract start standard token addresses) := by
  induction addresses with
  | nil => exact .done false
  | cons address rest ih =>
    obtain ⟨here, later⟩ := List.forall_mem_cons.mp own
    unfold anyBalance
    rw [← keys, ← answers]
    refine (Consults.cachedOr (inquiry address) here _).bind fun balance => ?_
    refine (Consults.of_asks (Plain.misuse _)).bind fun held => ?_
    split
    · exact .done true
    · exact ih later

private theorem erc721_consults : EntryConsults ctx Ask.IsPlain erc721 := by
  refine Consults.misuse_bind fun (chain, contract) held => ?_
  simp only
  have labelled (holds : Bool) : Consults Ask.IsPlain ctx.directory (Inquires ctx erc721)
      (Program.bind (liftM (labelText ctx)) fun name =>
        (.done (verdict holds s!"User holds ERC-721 ({name})" s!"User does not hold ERC-721 ({name})"))) :=
    .of_asks ((Plain.misuse _).bind fun _ => .done _)
  cases opened : isOpen (ctx.arg "tokenId") with
  | true =>
    exact (anyBalance_consults ctx (.balance chain contract) (fun _ => rfl) (fun _ => rfl) _
      fun address listed => .balance held opened listed).bind labelled
  | false =>
    exact (Consults.cachedOr (.owner chain contract (ctx.arg "tokenId")) (.owner held opened) _).bind
      fun _ => labelled _

private theorem erc1155_consults : EntryConsults ctx Ask.IsPlain erc1155 := by
  refine Consults.misuse_bind fun (chain, contract) held => ?_
  simp only
  split
  · exact .of_asks ((Plain.fetch (Remote.Tokens.collectionCount_reads _ _ _ _)).bind fun _ =>
      (Plain.misuse _).bind fun _ => .done _)
  · refine Consults.misuse_bind fun token whole => ?_
    exact (anyBalance_consults ctx (.tokenBalance chain contract · token) (fun _ => rfl) (fun _ => rfl) _
      fun address listed => .tokenBalance held whole listed).bind fun _ => .done _

theorem entries_consult : ∀ entry ∈ entries, EntryConsults ctx Ask.IsPlain entry := by
  simp only [entries, List.forall_mem_cons]
  refine ⟨.of_asks (erc20_plain ctx), erc721_consults ctx, erc1155_consults ctx, .of_asks ?_, .of_asks ?_,
    .of_asks ?_, List.forall_mem_nil _⟩
  · exact (Plain.misuse _).bind fun _ => (anyBalanceNow_plain ctx _ _ _).bind fun _ =>
      (Plain.misuse _).bind fun _ => .done _
  · exact (Plain.misuse _).bind fun _ => (Plain.misuse _).bind fun _ =>
      (reachesFanToken_plain ctx _).bind fun _ => .done _
  · exact (Plain.misuse _).bind fun _ => (reachesFanToken_plain ctx _).bind fun _ => .done _

end Holdings

namespace Standing

theorem entries_consult : ∀ entry ∈ entries, EntryConsults ctx Ask.IsPlain entry := by
  simp only [entries, List.forall_mem_cons]
  refine ⟨.of_asks ?_, ?_, ?_, ?_, .of_asks ?_, List.forall_mem_nil _⟩
  · refine (Plain.timeLeft _).bind fun time => ?_
    refine (Plain.fetch (Remote.Standing.classify_reads _ _ _)).bind fun payload => ?_
    refine (Plain.misuse _).bind fun result => (Plain.misuse _).bind fun isBot => ?_
    split
    · exact (Plain.misuse _).bind fun _ => (Plain.misuse _).bind fun _ => .failed _
    · exact .done _
  · refine Consults.misuse_bind fun least _ => ?_
    refine (Consults.cachedOr (.farRank ctx.user.fid) .farRank _).bind fun cachedRank => ?_
    split
    · exact .done _
    · exact .of_asks ((Plain.misuse _).bind fun _ => .done _)
  · refine Consults.misuse_bind fun least _ => ?_
    refine (Consults.cachedOr (.globalRank ctx.user.fid) .globalRank _).bind fun entry => ?_
    refine Consults.misuse_bind fun rank _ => ?_
    split
    · exact .done _
    · exact .done _
  · refine Consults.misuse_bind fun least _ => ?_
    refine (Consults.cachedOr (.channelRank ctx.channel.id ctx.user.fid) .channelRank _).bind fun entry => ?_
    refine Consults.misuse_bind fun rank _ => ?_
    split
    · exact .done _
    · exact .done _
  · refine (Plain.misuse _).bind fun publisher => (Plain.misuse _).bind fun label => ?_
    exact (Plain.misuse _).bind fun _ =>
      (Plain.fetch (Remote.Accounts.subscriberFids_reads _ _ _)).bind fun _ => .done _

end Standing

namespace Credentials

private theorem onProfile_plain (test : Json → Except Misuse Verdict) :
    Plain (onProfile ctx test) := by
  refine (Plain.fetch (Remote.Profiles.profile?_reads _ _)).bind fun profile => ?_
  split
  · exact .done _
  · exact Plain.misuse _

theorem entries_plain : ∀ entry ∈ entries, Plain (entry.run ctx) := by
  simp only [entries, List.forall_mem_cons]
  refine ⟨onProfile_plain ctx _, onProfile_plain ctx _, onProfile_plain ctx _,
    onProfile_plain ctx _, onProfile_plain ctx _, onProfile_plain ctx _, ?_, List.forall_mem_nil _⟩
  exact (Plain.misuse _).bind fun _ => (Plain.misuse _).bind fun _ => onProfile_plain ctx _

end Credentials

namespace Hook

theorem entries_plain : ∀ entry ∈ entries, Plain (entry.run ctx) := by
  simp only [entries, List.forall_mem_cons]
  refine ⟨?_, List.forall_mem_nil _⟩
  refine (Plain.misuse _).bind fun url => (Plain.timeLeft _).bind fun time => ?_
  have reads : Remote.Reads (Remote.Hooks.post url.display (payload ctx) time) := Remote.Hooks.post_reads rfl
  have posted := Plain.fetch reads
  refine Asks.bind (Asks.recover (posted.bind fun response => .done _) fun failure => ?_)
    fun answered => ?_
  · split
    · exact .done _
    · exact .failed _
  · cases answered with
    | error verdict | ok verdict => exact .done verdict

end Hook

end Curation.Check
