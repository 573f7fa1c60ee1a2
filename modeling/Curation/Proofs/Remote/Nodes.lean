import Curation.Proofs.Json.Numbers
import Curation.Proofs.Program.Endings
import Curation.Proofs.Remote.CallData

/-! What comes of asking about tokens where services answer as they should. A node says why a call failed
or gives a number, the index of collections counts, and either may be out of reach. Then nothing but
the address of the contract stands in the way of an answer. -/
namespace Curation

/-- The failure is one of a service. -/
def Failure.IsRemote (failure : Failure) : Prop := ∃ fault, failure = .remote fault

namespace Remote

open Chain (decodeNumber normalizeAddress Spells)
open Program (MayEnd mayEnd_ask mayEnd_bind_error mayEnd_bind_ok mayEnd_done mayEnd_failed
  ok_eq_mapError error_eq_mapError)

variable {α β : Type} {directory : Directory} {chain contract data : String} {failure : Failure}

/-! ## Answers -/

/-- A number that may be told for this data. Those for decimals are small. -/
def Tokens.IsTold (data : String) (n : Nat) : Prop := data = decimalsSelector → n ≤ 255

/-- What a node says of a call with this data. Its results are numbers. -/
inductive NodeTells (data : String) (members : Json.Members) : Prop where
  | fault {reasons : Json.Members} : Json.Members.get? "error" members = some (.obj reasons) →
    reasons ≠ [] → NodeTells data members
  | result {n : Nat} : ((Json.Members.get? "error" members).getD .null).truthy = false →
    decodeNumber ((Json.Members.get? "result" members).getD (.str "0x")).display = .ok n →
    Tokens.IsTold data n → NodeTells data members

/-- What the index of collections says. -/
def IndexTells (members : Json.Members) : Prop :=
  ∃ n, (((Json.Members.get? "count" members).getD .null).orElse (.int 0)).toWhole = .ok n

/-- An answer that is not an error of the service. Requests with call data go to nodes. -/
def Tells (request : Request) (members : Json.Members) : Prop :=
  match request.callData? with
  | some data => NodeTells data members
  | none => IndexTells members

/-- A service answers in a way that suits the request, refuses, or cannot be reached. -/
def Suits : (ask : Ask) → Answer ask → Prop
  | .send request, reply =>
    match (reply : Reply) with
    | .answered response =>
      response.status < 400 → ∃ members, Json.read response.text = .ok (.obj members) ∧ Tells request members
    | .timedOut | .broken _ => True
  | .isHeldBack _, _ | .report .., _ => True

/-- A call may end like this where all answers suit. -/
abbrev Ends (call : Fetch α) (outcome : Except Failure α) : Prop := call.MayEnd Suits outcome

theorem ends_lift {result : Except Misuse α} {outcome : Except Failure α} :
    Ends (liftM result) outcome ↔ outcome = result.mapError .misuse := by
  cases result with
  | ok value => exact mayEnd_done
  | error cause => exact mayEnd_failed

theorem ends_word {result : Except Chain.WordFault α} {outcome : Except Failure α} :
    Ends (liftM result) outcome ↔ outcome = result.mapError .word := by
  cases result with
  | ok value => exact mayEnd_done
  | error cause => exact mayEnd_failed

/-! ## Calls -/

section Calls

variable {service : Service} {call : Call}

/-- A failure that is reported first is that failure. -/
theorem ends_reported {success : Bool} {outcome : Except Failure α} :
    Ends ((report service.name success).bind fun _ => .failed failure) outcome ↔ outcome = .error failure := by
  constructor
  · intro ends
    obtain ⟨_, _, ends⟩ := mayEnd_ask.mp ends
    exact mayEnd_failed.mp ends
  · rintro rfl
    exact mayEnd_ask.mpr ⟨(), trivial, .failed failure⟩

/-- A request is refused or not answered at all, or has an answer that suits it. -/
theorem ends_request {outcome : Except Failure Response} :
    Ends (service.request call) outcome →
      (∃ fault, outcome = .error (.remote fault)) ∨
      ∃ response, outcome = .ok response ∧ Suits (.send (service.requestOf call)) (.answered response) := by
  intro ends
  obtain ⟨held, -, ends⟩ := mayEnd_ask.mp ends
  cases held with
  | true => exact .inl ⟨_, mayEnd_failed.mp ends⟩
  | false =>
    obtain ⟨reply, suits, ends⟩ := mayEnd_ask.mp ends
    cases reply with
    | timedOut | broken => exact .inl ⟨_, ends_reported.mp ends⟩
    | answered response =>
      by_cases high : 500 ≤ response.status
      · simp only [Program.bind, if_pos high] at ends
        exact .inl ⟨_, ends_reported.mp ends⟩
      · simp only [Program.bind, if_neg high] at ends
        obtain ⟨_, _, ends⟩ := mayEnd_ask.mp ends
        exact .inr ⟨response, mayEnd_done.mp ends, suits⟩

/-- An answer that suits a request may come. -/
theorem request_answered {response : Response} (suits : Suits (.send (service.requestOf call)) (.answered response))
    (low : response.status < 500) : Ends (service.request call) (.ok response) := by
  have low : ¬ 500 ≤ response.status := by omega
  refine mayEnd_ask.mpr ⟨false, trivial, mayEnd_ask.mpr ⟨.answered response, suits, ?_⟩⟩
  simp only [Program.bind, if_neg low]
  exact mayEnd_ask.mpr ⟨(), trivial, .done response⟩

/-- The JSON of an answer is what the service says. -/
theorem ends_json {outcome : Except Failure Json} (ends : Ends (service.json call) outcome) :
    (∃ fault, outcome = .error (.remote fault)) ∨
      ∃ members, outcome = .ok (.obj members) ∧ Tells (service.requestOf call) members := by
  rcases Program.mayEnd_bind.mp ends with ⟨failure, rfl, first⟩ | ⟨response, first, second⟩
  · rcases ends_request first with ⟨fault, same⟩ | ⟨_, ⟨⟩, -⟩
    exact .inl ⟨fault, congrArg _ (Except.error.inj same)⟩
  · rcases ends_request first with ⟨_, ⟨⟩⟩ | ⟨_, same, suits⟩
    cases same
    by_cases high : 400 ≤ response.status
    · simp only [if_pos high] at second
      exact .inl ⟨_, mayEnd_failed.mp second⟩
    · obtain ⟨members, read, tells⟩ := suits (by omega)
      simp only [if_neg high, read] at second
      exact .inr ⟨members, mayEnd_done.mp second, tells⟩

theorem json_answered {members : Json.Members} (tells : Tells (service.requestOf call) members)
    (proper : (Json.obj members).Proper) : Ends (service.json call) (.ok (.obj members)) := by
  have read : Json.read (Json.obj members).spaced = .ok (.obj members) := proper.read Json.Layout.standard_spaced
  refine mayEnd_bind_ok.mpr ⟨⟨200, (Json.obj members).spaced⟩, ?_, ?_⟩
  · exact request_answered (fun _ => ⟨members, read, tells⟩) (show (200 : Int) < 500 by decide)
  · simp only [read]
    exact .done _

end Calls

/-! ## Contracts -/

namespace Tokens

/-- The failures of a question to a contract. A service may fail, and a node is not asked for a contract
whose address is none. -/
inductive Refuses (directory : Directory) (chain contract : String) : Failure → Prop where
  | remote (fault : RemoteFault) : Refuses directory chain contract (.remote fault)
  | address {fault : Chain.WordFault} : (directory.chain? chain).isSome = true →
    normalizeAddress contract = .error fault → Refuses directory chain contract (.word fault)

/-- The contract has an address that can be asked. -/
def IsAddressed (contract : String) : Prop := ∃ target, normalizeAddress contract = .ok target

/-- What the request of a call is told by a node. -/
theorem tells_call {node : Service} {members : Json.Members} {target : String} :
    Tells (node.requestOf
      { method := "POST"
        path := ""
        body := some (.obj [("jsonrpc", .str "2.0"), ("id", .int 1), ("method", .str "eth_call"),
          ("params", .arr [.obj [("to", .str target), ("data", .str data)], .str "latest"])]) }) members ↔
      NodeTells data members := Iff.rfl

/-- A question to a contract is refused or has a number for an answer. -/
theorem ends_call {outcome : Except Failure String}
    (ends : Ends (call directory chain contract data) outcome) :
    (∃ failure, outcome = .error failure ∧ Refuses directory chain contract failure) ∨
      ∃ text n, outcome = .ok text ∧ IsAddressed contract ∧ decodeNumber text = .ok (n : Nat) ∧
        IsTold data n := by
  unfold call at ends
  split at ends
  · rename_i node found
    have listed : (directory.chain? chain).isSome = true := by rw [found]; rfl
    rcases Program.mayEnd_bind.mp ends with ⟨failure, rfl, first⟩ | ⟨target, first, ends⟩
    · obtain ⟨fault, abnormal, rfl⟩ := error_eq_mapError.mp (ends_word.mp first)
      exact .inl ⟨_, rfl, .address listed abnormal⟩
    have addressed : IsAddressed contract := ⟨target, ok_eq_mapError.mp (ends_word.mp first)⟩
    rcases Program.mayEnd_bind.mp ends with ⟨failure, rfl, first⟩ | ⟨payload, first, ends⟩
    · rcases ends_json first with ⟨fault, same⟩ | ⟨_, same, -⟩
      · exact .inl ⟨_, rfl, Except.error.inj same ▸ .remote fault⟩
      · cases same
    rcases ends_json first with ⟨_, same⟩ | ⟨members, same, told⟩
    · cases same
    cases same
    rcases tells_call.mp told with @⟨reasons, error, some_reason⟩ | ⟨quiet, read, small⟩
    · have set : (Json.obj reasons).truthy = true := by simpa [Json.truthy] using some_reason
      have there : Json.member (.obj members) "error" = .ok (.obj reasons) := by
        simp [Json.member, Json.members, error, bind, Except.bind, pure, Except.pure]
      rw [there] at ends
      change Ends (if (Json.obj reasons).truthy then _ else _) outcome at ends
      rw [if_pos set] at ends
      exact .inl ⟨_, mayEnd_failed.mp ends, .remote _⟩
    · change Ends (if ((Json.Members.get? "error" members).getD .null).truthy then _ else _) outcome at ends
      rw [if_neg (by simp [quiet])] at ends
      exact .inr ⟨_, _, mayEnd_done.mp ends, addressed, read, small⟩
  · exact .inl ⟨_, mayEnd_failed.mp ends, .remote _⟩

theorem refuses_of_call (ends : Ends (call directory chain contract data) (.error failure)) :
    Refuses directory chain contract failure := by
  rcases ends_call ends with ⟨_, same, refuses⟩ | ⟨_, _, ⟨⟩, -⟩
  exact Except.error.inj same ▸ refuses

theorem told_of_call {text : String} (ends : Ends (call directory chain contract data) (.ok text)) :
    ∃ n : Nat, IsAddressed contract ∧ decodeNumber text = .ok n ∧ IsTold data n := by
  rcases ends_call ends with ⟨_, ⟨⟩, -⟩ | ⟨text', n, same, told⟩
  cases same
  exact ⟨n, told⟩

theorem call_answered (listed : (directory.chain? chain).isSome = true) (addressed : IsAddressed contract)
    {n : Nat} (small : IsTold data n) :
    ∃ text, Ends (call directory chain contract data) (.ok text) ∧ decodeNumber text = .ok n := by
  obtain ⟨node, found⟩ := Option.isSome_iff_exists.mp listed
  obtain ⟨target, normal⟩ := addressed
  let text := "0x" ++ String.ofList (Chain.encodeNumber n)
  let members : Json.Members := [("result", .str text)]
  have read : decodeNumber text = .ok n := Chain.decodeNumber_encodeNumber n
  have told : NodeTells data members := .result rfl read small
  have proper : (Json.obj members).Proper := by simp [members, Json.Proper, Json.Over, Json.OverMembers]
  refine ⟨text, ?_, read⟩
  unfold call
  rw [found]
  refine mayEnd_bind_ok.mpr ⟨target, ends_word.mpr (ok_eq_mapError.mpr normal), ?_⟩
  exact mayEnd_bind_ok.mpr ⟨.obj members, json_answered (tells_call.mpr told) proper, .done text⟩

theorem call_refused (listed : (directory.chain? chain).isSome = true) {fault : Chain.WordFault}
    (abnormal : normalizeAddress contract = .error fault) :
    Ends (call directory chain contract data) (.error (.word fault)) := by
  obtain ⟨node, found⟩ := Option.isSome_iff_exists.mp listed
  unfold call
  rw [found]
  exact mayEnd_bind_error.mpr (.inl (ends_word.mpr (error_eq_mapError.mpr ⟨_, abnormal, rfl⟩)))

/-- A number that a contract is asked for. -/
def askNumber (directory : Directory) (chain contract data : String) : Fetch Int :=
  (call directory chain contract data).bind fun text => liftM (decodeNumber text)

theorem refuses_of_askNumber (ends : Ends (askNumber directory chain contract data) (.error failure)) :
    Refuses directory chain contract failure := by
  rcases mayEnd_bind_error.mp ends with first | ⟨text, first, second⟩
  · exact refuses_of_call first
  · obtain ⟨n, -, read, -⟩ := told_of_call first
    obtain ⟨fault, unread, -⟩ := error_eq_mapError.mp (ends_word.mp second)
    cases read.symm.trans unread

theorem told_of_askNumber {value : Int} (ends : Ends (askNumber directory chain contract data) (.ok value)) :
    ∃ n : Nat, value = n ∧ IsAddressed contract ∧ IsTold data n := by
  obtain ⟨text, first, second⟩ := mayEnd_bind_ok.mp ends
  obtain ⟨n, addressed, read, small⟩ := told_of_call first
  have same := read.symm.trans (ok_eq_mapError.mp (ends_word.mp second))
  exact ⟨n, (Except.ok.inj same).symm, addressed, small⟩

theorem askNumber_answered (listed : (directory.chain? chain).isSome = true) (addressed : IsAddressed contract)
    {n : Nat} (small : IsTold data n) :
    Ends (askNumber directory chain contract data) (.ok (n : Int)) := by
  obtain ⟨text, answered, read⟩ := call_answered listed addressed small
  exact mayEnd_bind_ok.mpr ⟨text, answered, ends_word.mpr (ok_eq_mapError.mpr read)⟩

theorem askNumber_refused (listed : (directory.chain? chain).isSome = true) {fault : Chain.WordFault}
    (abnormal : normalizeAddress contract = .error fault) :
    Ends (askNumber directory chain contract data) (.error (.word fault)) :=
  mayEnd_bind_error.mpr (.inl (call_refused listed abnormal))

/-- An address and a token, where one is needed, are asked about by a number. -/
theorem balance_eq {address : String} {digits : List Char} (spells : Spells address digits) {standard : Standard}
    {token : Option Int} (named : standard = .multiToken → token.isSome = true) :
    ∃ data, balance directory chain contract address standard token =
      askNumber directory chain contract data := by
  have encoded : ∃ data, balanceData address standard token = .ok data := by
    cases standard with
    | single => exact ⟨_, by rw [balanceData, spells.encode]; rfl⟩
    | multiToken =>
      obtain ⟨id, rfl⟩ := Option.isSome_iff_exists.mp (named rfl)
      exact ⟨_, by rw [balanceData, spells.encode]; rfl⟩
  obtain ⟨data, encoded⟩ := encoded
  refine ⟨data, ?_⟩
  unfold balance
  rw [encoded]
  rfl

theorem refuses_of_owner {token : Int} (ends : Ends (owner directory chain contract token) (.error failure)) :
    Refuses directory chain contract failure := by
  rcases mayEnd_bind_error.mp ends with first | ⟨_, -, second⟩
  · exact refuses_of_call first
  · cases mayEnd_done.mp second

theorem owner_refused (listed : (directory.chain? chain).isSome = true) {fault : Chain.WordFault}
    (abnormal : normalizeAddress contract = .error fault) {token : Int} :
    Ends (owner directory chain contract token) (.error (.word fault)) :=
  mayEnd_bind_error.mpr (.inl (call_refused listed abnormal))

/-- Only the index of collections itself can fail to count. -/
theorem remote_of_collectionCount {wallets : List String}
    (ends : Ends (collectionCount directory wallets contract chain) (.error failure)) : failure.IsRemote := by
  unfold collectionCount at ends
  split at ends
  · rcases mayEnd_bind_error.mp ends with first | ⟨payload, first, second⟩
    · rcases ends_json first with ⟨fault, same⟩ | ⟨_, ⟨⟩, -⟩
      exact ⟨fault, Except.error.inj same⟩
    · rcases ends_json first with ⟨_, ⟨⟩⟩ | ⟨members, same, told⟩
      cases same
      obtain ⟨n, counted⟩ : IndexTells members := told
      change Ends (liftM (((Json.Members.get? "count" members).getD .null).orElse (.int 0)).toWhole)
        (.error failure) at second
      rw [counted] at second
      cases ends_lift.mp second
  · exact ⟨_, Except.error.inj (mayEnd_failed.mp ends)⟩

end Tokens

end Remote

end Curation
