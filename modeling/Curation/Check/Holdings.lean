import Curation.Check.Basic
import Curation.Remote.Tokens

/-!
Checks of what a user's wallets hold: amounts of a token, tokens of a collection, subscriptions and
fan tokens.
-/
namespace Curation.Check.Holdings
open Remote (Tokens.Standard)

def balanceTtl : Number := .whole (60 * 60 * 2)

/-- The chain of fan tokens. -/
def fanTokenChain : String := "8453"

def chainOptions : List Json.Members :=
  [("1", "Ethereum"), ("10", "Optimism"), ("8453", "Base"), ("7777777", "Zora"),
    ("137", "Polygon")].map
    fun chain => [("value", .str chain.1), ("label", .str chain.2)]

def tokenArgs (example_ : String) : List Argument :=
  [{ name := "chainId", type := "select", friendlyName := "Chain", required := true,
     options := chainOptions },
    { name := "contractAddress"
      type := "string"
      friendlyName := "Contract Address"
      required := true
      pattern := "0x[a-fA-F0-9]\x7b40\x7d"
      placeholder := "0xdead..." },
    { name := "name"
      type := "string"
      friendlyName := "Token Name"
      required := true
      placeholder := example_
      description := "The name of the token for display in the UI." }]

def tokenIdArg : Argument :=
  { name := "tokenId"
    type := "string"
    friendlyName := "Token ID (optional)"
    placeholder := "Any Token"
    pattern := "[0-9]+"
    description :=
      "Optionally check for a specific token id, if left blank any token is valid." }

/-- What a token is called: by its name, or by its shortened address. -/
def label (args : Json) : Except Misuse Json := do
  let name ← args.member "name"
  if name.truthy then return name
  return .str (Chain.shortForm (← args.entry "contractAddress").display)

def labelText (ctx : Context) : Except Misuse String := do
  return (← label (.obj ctx.args)).display

/-- The chain and the contract that the arguments name. -/
def token (ctx : Context) : Except Misuse (String × String) := do
  let chain ← ctx.needed "chainId"
  let contract ← ctx.needed "contractAddress"
  return (chain.display, contract.display)

/-- What all wallets of the user hold together. -/
def total (ctx : Context) (chain contract : String) : Check Int := do
  let balances ← together
    (ctx.user.addresses.map fun address =>
      Remote.Tokens.balance ctx.directory chain contract address)
  return balances.foldl (· + ·) 0

/-- The key of a cached balance. -/
def balanceKey (start contract address : String) (token : Option Int) : String :=
  let key := s!"{start}:{contract}:{address}"
  match token with
  | some id => s!"{key}:{id}"
  | none => key

/-- Whether one of some wallets holds anything; the rest is not asked for. -/
def anyBalance (ctx : Context) (chain contract start : String) (standard : Tokens.Standard)
    (token : Option Int) : List String → Check Bool
  | [] => return false
  | address :: rest => do
    let balance ← cachedOr (balanceKey start contract address token) balanceTtl do
      return .int (← Remote.Tokens.balance ctx.directory chain contract address standard token)
    let held ← (balance.toWhole : Except Misuse Int)
    if 0 < held then return true else anyBalance ctx chain contract start standard token rest

/-- Whether an amount is at least a minimum given in whole tokens. -/
def reaches (held : Int) (minimum : Json) (decimals : Int) : Except Chain.WordFault Bool := do
  let required ← Chain.parseUnits minimum decimals
  return required ≤ held

def erc20 : Entry where
  definition :=
    { name := "requiresErc20"
      friendlyName := "Holds ERC-20"
      description :=
        "Check that the user holds a certain amount of ERC-20 tokens in their connected wallets."
      invertedDescription := "Check for users who do hold the ERC-20"
      allowMultiple := true
      invertable := true
      args := tokenArgs "e.g. $DEGEN" ++
        [{ name := "minBalance"
           type := "string"
           friendlyName := "Minimum Balance (optional)"
           placeholder := "Any Amount"
           description := "The minimum amount of tokens the user must hold." }] }
  run ctx := do
    let (chain, contract) ← token ctx
    let minimum := ctx.arg "minBalance"
    let decimals ← Remote.Tokens.decimals ctx.directory chain contract
    let held ← total ctx chain contract
    if (← reaches held minimum decimals) && decide (0 < held) then
      return ⟨true, s!"User holds ERC-20 ({← labelText ctx})"⟩
    else if minimum.truthy then
      return ⟨false, s!"Needs to hold {minimum.display} ERC-20 ({← labelText ctx})"⟩
    else return ⟨false, s!"User does not hold ERC-20 ({← labelText ctx})"⟩

/-- Whether a token id was left open. -/
def isOpen (tokenId : Json) : Bool :=
  match tokenId with
  | .null | .str "" => true
  | _ => false

def erc721 : Entry where
  definition :=
    { name := "requiresErc721"
      friendlyName := "Holds ERC-721"
      description := "Require the user holds a certain ERC-721 token"
      invertedDescription := "Check for users who *do* hold the ERC-721 token"
      allowMultiple := true
      invertable := true
      args := tokenArgs "e.g. BAYC NFT" ++ [tokenIdArg] }
  run ctx := do
    let (chain, contract) ← token ctx
    let tokenId := ctx.arg "tokenId"
    let holds ←
      if isOpen tokenId then
        anyBalance ctx chain contract "erc721-balance" .single none ctx.user.addresses
      else do
        let owner ← cachedOr s!"erc721-owner:{contract}:{tokenId.display}" balanceTtl do
          let id ← (tokenId.toWhole : Except Misuse Int)
          return .str (← Remote.Tokens.owner ctx.directory chain contract id)
        pure (ctx.user.addresses.any fun address =>
          Text.lower address == Text.lower owner.textOrEmpty)
    let name ← labelText ctx
    return verdict holds s!"User holds ERC-721 ({name})" s!"User does not hold ERC-721 ({name})"

/-- Any token of the collection by the index of collections, or one token by its contract. -/
def erc1155 : Entry where
  definition :=
    { name := "requiresErc1155"
      friendlyName := "Holds ERC-1155"
      description := "Require the user holds a certain ERC-1155 token"
      invertedDescription := "Check for users who *do* hold the ERC-1155 token"
      allowMultiple := true
      invertable := true
      args := tokenArgs "e.g. Rocks NFT" ++ [tokenIdArg] }
  run ctx := do
    let (chain, contract) ← token ctx
    let tokenId := ctx.arg "tokenId"
    if isOpen tokenId then
      let count ← Remote.Tokens.collectionCount ctx.directory ctx.user.addresses contract chain
      let name ← labelText ctx
      return verdict (0 < count) s!"User holds ERC-1155 ({name})"
        s!"User does not hold ERC-1155 ({name})"
    else
      let id ← (tokenId.toWhole : Except Misuse Int)
      let held ← anyBalance ctx chain contract "erc1155-balance" .multiToken (some id)
        ctx.user.addresses
      let name := s!"({Chain.shortForm contract}), Token #{tokenId.display}"
      return verdict held s!"User holds ERC-1155 {name}" s!"User does not hold ERC-1155 {name}"

/-- Whether one of some wallets holds anything right now. -/
def anyBalanceNow (ctx : Context) (chain contract : String) : List String → Check Bool
  | [] => return false
  | address :: rest => do
    let held ← Remote.Tokens.balance ctx.directory chain contract address
    if 0 < held then return true else anyBalanceNow ctx chain contract rest

/-- Never cached: an expired subscription reads as a balance of zero. -/
def hypersub : Entry where
  definition :=
    { name := "requireActiveHypersub"
      friendlyName := "Subscribes on Hypersub"
      description := "Check if the user has an active subscription to a hypersub."
      allowMultiple := true
      invertable := true
      author := "Hypersub"
      authorUrl := "https://hypersub.withfabric.xyz"
      args := tokenArgs "e.g. Buoy Members" }
  run ctx := do
    let (chain, contract) ← token ctx
    let subscribed ← anyBalanceNow ctx chain contract ctx.user.addresses
    let name ← labelText ctx
    return verdict subscribed s!"User holds an active hypersub ({name})"
      s!"User does not hold an active hypersub ({name})"

/-- Whether the user's wallets reach the minimum of a fan token. -/
def reachesFanToken (ctx : Context) (contract : String) : Check Bool := do
  let decimals ← Remote.Tokens.decimals ctx.directory fanTokenChain contract
  let held ← total ctx fanTokenChain contract
  reaches held (ctx.arg "minBalance") decimals

def fanMinimumArg : Argument :=
  { name := "minBalance"
    type := "string"
    friendlyName := "Minimum Balance"
    placeholder := "Any Amount"
    description := "The minimum amount of fan tokens the user must hold." }

def fanToken : Entry where
  definition :=
    { name := "holdsFanToken"
      friendlyName := "Holds Fan Token"
      description :=
        "Check if the user holds a certain amount of a Farcaster user's fan token"
      allowMultiple := true
      invertable := true
      args :=
        [{ name := "fanToken"
           type := "moxieMemberFanTokenPicker"
           friendlyName := "Fan Token"
           required := true
           placeholder := "Enter a username..." },
          fanMinimumArg] }
  run ctx := do
    let picked := (ctx.arg "fanToken").orElse (.obj [])
    let label := (← picked.memberOr "label" (.str "")).display
    let contract ← picked.entry "value"
    let reached ← reachesFanToken ctx contract.display
    return verdict reached s!"User holds @{label}'s Fan Token"
      s!"User does not hold enough of @{label}'s Fan Token"

def channelFanToken : Entry where
  definition :=
    { name := "holdsChannelFanToken"
      friendlyName := "Holds Channel Fan Token"
      description := "Check if the user holds a certain amount of your channel's fan token"
      invertable := true
      args :=
        [{ name := "contractAddress"
           type := "string"
           friendlyName := "Fan Token Contract"
           required := true
           pattern := "0x[a-fA-F0-9]\x7b40\x7d"
           missingMessage :=
             "Your channel doesn't have a Fan Token yet. Contact /airstack" },
          fanMinimumArg] }
  run ctx := do
    let contract ← ctx.needed "contractAddress"
    let reached ← reachesFanToken ctx contract.display
    return verdict reached s!"Holds /{ctx.channel.id} Fan Token"
      s!"Does not hold enough /{ctx.channel.id} Fan Token"

def entries : List Entry := [erc20, erc721, erc1155, hypersub, fanToken, channelFanToken]

end Curation.Check.Holdings
