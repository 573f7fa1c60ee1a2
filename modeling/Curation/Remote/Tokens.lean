import Curation.Remote.Directory

/-!
Token contracts, read through the node of their chain, and the index of collections. Main
statement: call data is a selector followed by one word per argument.
-/
namespace Curation.Remote.Tokens
open Chain

/-- The interfaces that contracts implement; the last two share the balance of an address. -/
inductive Standard where
  | multiToken
  | single
  deriving DecidableEq, Repr

def balanceSelector : String := "0x70a08231"

def balanceOfTokenSelector : String := "0x00fdd58e"

def ownerSelector : String := "0x6352211e"

def decimalsSelector : String := "0x313ce567"

/-- A selector with the words of its arguments. -/
def callData (selector : String) (words : List (List Char)) : String :=
  selector ++ String.ofList words.flatten

/-- Asks a contract of a chain. -/
def call (directory : Directory) (chain contract data : String) : Fetch String := do
  let some node := directory.chain? chain | throw (.remote (.noEndpoint chain))
  let target ← normalizeAddress contract
  let payload ← node.json
    { method := "POST"
      path := ""
      body := some (.obj [("jsonrpc", .str "2.0"), ("id", .int 1), ("method", .str "eth_call"),
        ("params", .arr [.obj [("to", .str target), ("data", .str data)], .str "latest"])]) }
  let fault ← payload.member "error"
  if fault.truthy then
    let reason ← fault.memberOr "message" (.str "execution reverted")
    throw (.remote (.callFailed node.name reason.display))
  return (← payload.memberOr "result" (.str "0x")).display

/-- The call data that asks for a balance. -/
def balanceData (address : String) (standard : Standard) (token : Option Int) :
    Except WordFault String :=
  match standard, token with
  | .multiToken, none => .error .tokenRequired
  | .multiToken, some id => do
    return callData balanceOfTokenSelector [← encodeAddress address, encodeNumber id]
  | .single, _ => return callData balanceSelector [← encodeAddress address]

/-- The balance of an address, in base units. -/
def balance (directory : Directory) (chain contract address : String)
    (standard : Standard := .single) (token : Option Int := none) : Fetch Int := do
  let data ← balanceData address standard token
  decodeNumber (← call directory chain contract data)

/-- The call data that asks for the owner of a token. -/
def ownerData (token : Int) : String := callData ownerSelector [encodeNumber token]

def owner (directory : Directory) (chain contract : String) (token : Int) : Fetch String := do
  return decodeOwner (← call directory chain contract (ownerData token))

/-- How many decimals the amounts of a token have. -/
def decimals (directory : Directory) (chain contract : String) : Fetch Int := do
  decodeNumber (← call directory chain contract decimalsSelector)

/-- The names under which the index of collections knows chains. -/
def chainNames : List (String × String) :=
  [("1", "ethereum"), ("10", "optimism"), ("137", "polygon"), ("8453", "base"),
    ("42161", "arbitrum"), ("7777777", "zora")]

/-- How many tokens of a collection some wallets hold together. -/
def collectionCount (directory : Directory) (wallets : List String) (contract chain : String) :
    Fetch Int := do
  let some name := chainNames.lookup chain | throw (.remote (.noIndex chain))
  let payload ← directory.collections.json
    { method := "GET"
      path := "/nfts/owners_v2"
      query := some [("chains", name), ("wallet_addresses", Text.join "," wallets),
        ("contract_addresses", contract), ("count", "1"), ("limit", "1")] }
  ((← payload.member "count").orElse (.int 0)).toWhole

end Curation.Remote.Tokens
