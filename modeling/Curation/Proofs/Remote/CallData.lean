import Curation.Proofs.Chain.Words
import Curation.Proofs.Remote.Reading

/-! What token contracts are asked. The data of a question is a selector and one word per argument,
and each argument can be read off its word, so the data tells which question was asked. Letter
case is the one thing that is lost of an address. -/
namespace Curation.Remote

/-- The call data that a request carries. -/
def Request.callData? (request : Request) : Option String := do
  let body ← request.body
  let params ← Json.Members.get? "params" body.ownMembers
  let call ← params.ownItems.head?
  (← Json.Members.get? "data" call.ownMembers).text?

namespace Tokens

open Chain (WordFault encodeAddress encodeNumber decodeNumber decodeOwner answerOf IsWord Spells)
open Program (Asks)

/-! ## Questions -/

/-- What a contract can be asked about its tokens. -/
inductive Question where
  | balance (address : String)
  /-- The balance of one of many kinds of token. -/
  | tokenBalance (address : String) (token : Nat)
  | owner (token : Nat)

inductive Argument where
  | address (text : String)
  | number (n : Nat)

namespace Question

def selector : Question → String
  | .balance _ => balanceSelector
  | .tokenBalance .. => balanceOfTokenSelector
  | .owner _ => ownerSelector

def arguments : Question → List Argument
  | .balance address => [.address address]
  | .tokenBalance address token => [.address address, .number token]
  | .owner token => [.number token]

def data : Question → Except WordFault String
  | .balance address => balanceData address .single none
  | .tokenBalance address token => balanceData address .multiToken (some token)
  | .owner token => .ok (ownerData token)

/-- Asking the question may send this request. -/
def MaySend (directory : Directory) (chain contract : String) (request : Request) : Question → Prop
  | .balance address => (Tokens.balance directory chain contract address).MayAsk (.send request)
  | .tokenBalance address token =>
    (Tokens.balance directory chain contract address .multiToken (some token)).MayAsk (.send request)
  | .owner token => (Tokens.owner directory chain contract token).MayAsk (.send request)

end Question

namespace Argument

/-- Addresses are spelled out in full, and numbers have at most 256 bits. -/
def IsProper : Argument → Prop
  | .address text => ∃ digits, Spells text digits
  | .number n => n < 2 ^ 256

/-- The same argument in lower case. -/
def lower : Argument → Argument
  | .address text => .address (Text.lower text)
  | .number n => .number n

def encode : Argument → Except WordFault (List Char)
  | .address text => encodeAddress text
  | .number n => .ok (encodeNumber n)

/-- The word gives the argument, read as an answer of its kind. -/
def ReadsFrom (word : List Char) : Argument → Prop
  | .address text => decodeOwner (answerOf word) = Text.lower text
  | .number n => decodeNumber (answerOf word) = .ok n

/-- The argument in its word. -/
structure Carried (argument : Argument) (word : List Char) : Prop where
  isWord : IsWord word
  reads : argument.ReadsFrom word

theorem IsProper.encode {argument : Argument} (proper : argument.IsProper) :
    ∃ word, argument.encode = .ok word ∧ argument.Carried word := by
  cases argument with
  | address text =>
    obtain ⟨digits, spells⟩ := proper
    refine ⟨_, spells.encode, spells.address.isWord, ?_⟩
    have text_eq : (answerOf (Chain.addressWord digits)).toList =
        ('0' :: 'x' :: List.replicate 24 '0') ++ Chain.lowDigits digits := by
      rw [Chain.toList_answerOf]
      rfl
    rw [ReadsFrom, Chain.decodeOwner_digits _ spells.address.lowered text_eq, spells.lower,
      spells.address.lowDigits_low]
  | number n =>
    exact ⟨_, rfl, Chain.encodeNumber_isWord proper, Chain.decodeNumber_encodeNumber n⟩

/-- Of an address, only the case of its letters is not in its word. -/
theorem encode_congr {argument other : Argument} (proper : argument.IsProper) (proper' : other.IsProper)
    (same : argument.lower = other.lower) : argument.encode = other.encode := by
  cases argument with
  | address text =>
    cases other with
    | address text' =>
      obtain ⟨digits, spells⟩ := proper
      obtain ⟨digits', spells'⟩ := proper'
      have lowered : Text.lower text = Text.lower text' := Argument.address.inj same
      rw [spells.lower, spells'.lower, String.ofList_inj] at lowered
      have low : Chain.lowDigits digits = Chain.lowDigits digits' := (List.cons.inj (List.cons.inj lowered).2).2
      rw [encode, encode, spells.encode, spells'.encode, Chain.addressWord, low]
      rfl
    | number => cases same
  | number n =>
    cases other with
    | address => cases same
    | number => rw [Argument.number.inj same]

end Argument

/-- What is asked can be put into words. -/
def Question.IsProper (question : Question) : Prop := ∀ argument ∈ question.arguments, argument.IsProper

/-! ## Data -/

/-- A word of call data by its place behind the selector. -/
def wordAt (data : String) (place : Nat) : List Char := (data.toList.drop (10 + 64 * place)).take 64

variable {start : String} {words : List (List Char)}

theorem toList_callData : (callData start words).toList = start.toList ++ words.flatten := by
  simp [callData]

theorem flatten_place (full : ∀ word ∈ words, IsWord word) {place : Nat} {word : List Char}
    (at_ : words[place]? = some word) : (words.flatten.drop (64 * place)).take 64 = word := by
  induction words generalizing place with
  | nil => cases at_
  | cons first rest ih =>
    have length : first.length = 64 := (full first (.head _)).length
    rw [List.flatten_cons]
    cases place with
    | zero =>
      obtain rfl : first = word := Option.some.inj at_
      exact List.take_left' length
    | succ place =>
      have skip : (first ++ rest.flatten).drop (64 * (place + 1)) = rest.flatten.drop (64 * place) := by
        rw [Nat.mul_add, Nat.mul_one, Nat.add_comm, ← List.drop_drop, List.drop_left' length]
      rw [skip]
      exact ih (fun word inside => full word (.tail _ inside)) at_

theorem wordAt_callData (short : start.toList.length = 10) (full : ∀ word ∈ words, IsWord word)
    {place : Nat} {word : List Char} (at_ : words[place]? = some word) :
    wordAt (callData start words) place = word := by
  rw [wordAt, toList_callData, ← List.drop_drop, List.drop_left' short]
  exact flatten_place full at_

theorem Question.length_selector (question : Question) : question.selector.toList.length = 10 := by
  cases question with
  | balance => exact (by decide : balanceSelector.toList.length = 10)
  | tokenBalance => exact (by decide : balanceOfTokenSelector.toList.length = 10)
  | owner => exact (by decide : ownerSelector.toList.length = 10)

theorem selectors_apart : balanceSelector ≠ balanceOfTokenSelector ∧ balanceSelector ≠ ownerSelector ∧
    balanceOfTokenSelector ≠ ownerSelector := by decide

theorem Question.data_eq (question : Question) :
    question.data = (question.arguments.mapM Argument.encode).map (callData question.selector) := by
  cases question with
  | balance address =>
    simp only [data, balanceData, arguments, Argument.encode, List.mapM_cons, List.mapM_nil]
    cases encodeAddress address <;> rfl
  | tokenBalance address token =>
    simp only [data, balanceData, arguments, Argument.encode, List.mapM_cons, List.mapM_nil]
    cases encodeAddress address <;> rfl
  | owner token => rfl

theorem encode_arguments_congr {arguments others : List Argument}
    (proper : ∀ argument ∈ arguments, argument.IsProper) (proper' : ∀ argument ∈ others, argument.IsProper)
    (same : arguments.map Argument.lower = others.map Argument.lower) :
    arguments.mapM Argument.encode = others.mapM Argument.encode := by
  induction arguments generalizing others with
  | nil =>
    cases others with
    | nil => rfl
    | cons => cases same
  | cons argument rest ih =>
    cases others with
    | nil => cases same
    | cons other others =>
      obtain ⟨first, later⟩ := List.cons.inj same
      obtain ⟨here, there⟩ := List.forall_mem_cons.mp proper
      obtain ⟨here', there'⟩ := List.forall_mem_cons.mp proper'
      rw [List.mapM_cons, List.mapM_cons, Argument.encode_congr here here' first, ih there there' later]

theorem encode_arguments {arguments : List Argument} (proper : ∀ argument ∈ arguments, argument.IsProper) :
    ∃ words, arguments.mapM Argument.encode = .ok words ∧ List.Forall₂ Argument.Carried arguments words := by
  induction arguments with
  | nil => exact ⟨[], rfl, .nil⟩
  | cons argument rest ih =>
    obtain ⟨word, encoded, carried⟩ := (proper argument (.head _)).encode
    obtain ⟨words, encodes, carry⟩ := ih fun other inside => proper other (.tail _ inside)
    refine ⟨word :: words, ?_, .cons carried carry⟩
    rw [List.mapM_cons, encoded, encodes]
    rfl

/-- What the data of a question is: its selector, and its arguments in words. -/
theorem Question.IsProper.data {question : Question} (proper : question.IsProper) :
    ∃ words, question.data = .ok (callData question.selector words) ∧
      List.Forall₂ Argument.Carried question.arguments words := by
  obtain ⟨words, encodes, carry⟩ := encode_arguments proper
  exact ⟨words, by rw [question.data_eq, encodes]; rfl, carry⟩

theorem words_of_carried {arguments : List Argument} (carry : List.Forall₂ Argument.Carried arguments words) :
    ∀ word ∈ words, IsWord word := by
  induction carry with
  | nil => exact List.forall_mem_nil _
  | cons carried _ ih => exact List.forall_mem_cons.mpr ⟨carried.isWord, ih⟩

theorem carried_at {arguments : List Argument} (carry : List.Forall₂ Argument.Carried arguments words)
    {place : Nat} {argument : Argument} (at_ : arguments[place]? = some argument) :
    ∃ word, words[place]? = some word ∧ argument.Carried word := by
  induction carry generalizing place with
  | nil => cases at_
  | @cons first word _ rest carried _ ih =>
    cases place with
    | zero =>
      cases at_
      exact ⟨word, rfl, carried⟩
    | succ place => exact ih at_

theorem length_flatten_words (full : ∀ word ∈ words, IsWord word) :
    words.flatten.length = 64 * words.length := by
  induction words with
  | nil => rfl
  | cons word rest ih =>
    rw [List.flatten_cons, List.length_append, (full word (.head _)).length,
      ih fun other inside => full other (.tail _ inside), List.length_cons]
    omega

/-- The data of a question, as it comes apart. -/
structure Question.IsData (question : Question) (data : String) : Prop where
  selector : data.toList.take 10 = question.selector.toList
  length : data.length = 10 + 64 * question.arguments.length
  words : ∀ (place : Nat) (argument : Argument), question.arguments[place]? = some argument →
    argument.Carried (wordAt data place)

theorem Question.IsProper.isData {question : Question} (proper : question.IsProper) :
    ∃ data, question.data = .ok data ∧ question.IsData data := by
  obtain ⟨words, encoded, carry⟩ := proper.data
  have full := words_of_carried carry
  have short := question.length_selector
  refine ⟨_, encoded, ?_, ?_, fun place argument at_ => ?_⟩
  · rw [toList_callData]
    exact List.take_left' short
  · rw [← String.length_toList, toList_callData, List.length_append, short, length_flatten_words full,
      carry.length_eq]
  · obtain ⟨word, here, carried⟩ := carried_at carry at_
    rw [wordAt_callData short full here]
    exact carried

/-- Equal selectors take arguments of equal kinds, so that these can be told from equal words. -/
theorem Question.arguments_eq {question other : Question} (selectors : question.selector = other.selector)
    (words : ∀ (place : Nat) (argument argument' : Argument), question.arguments[place]? = some argument →
      other.arguments[place]? = some argument' →
      ∃ word, argument.ReadsFrom word ∧ argument'.ReadsFrom word) :
    question.arguments.map Argument.lower = other.arguments.map Argument.lower := by
  have address (place : Nat) {text text' : String}
      (at_ : question.arguments[place]? = some (.address text))
      (at_' : other.arguments[place]? = some (.address text')) :
      Argument.lower (.address text) = Argument.lower (.address text') := by
    obtain ⟨word, reads, reads'⟩ := words place _ _ at_ at_'
    exact congrArg Argument.address (reads.symm.trans reads')
  have number (place : Nat) {n n' : Nat} (at_ : question.arguments[place]? = some (.number n))
      (at_' : other.arguments[place]? = some (.number n')) :
      Argument.lower (.number n) = Argument.lower (.number n') := by
    obtain ⟨word, reads, reads'⟩ := words place _ _ at_ at_'
    exact congrArg Argument.number (Int.ofNat.inj (Except.ok.inj (reads.symm.trans reads')))
  cases question with
  | balance text =>
    cases other with
    | balance text' =>
      have same := @address 0 text text' rfl rfl
      exact congrArg (· :: []) same
    | tokenBalance => exact absurd selectors selectors_apart.1
    | owner => exact absurd selectors selectors_apart.2.1
  | tokenBalance text n =>
    cases other with
    | tokenBalance text' n' =>
      have same := @address 0 text text' rfl rfl
      have same' := @number 1 n n' rfl rfl
      simp only [arguments, List.map_cons, List.map_nil, same, same']
    | balance => exact absurd selectors.symm selectors_apart.1
    | owner => exact absurd selectors selectors_apart.2.2
  | owner n =>
    cases other with
    | owner n' =>
      have same := @number 0 n n' rfl rfl
      exact congrArg (· :: []) same
    | balance => exact absurd selectors.symm selectors_apart.2.1
    | tokenBalance => exact absurd selectors.symm selectors_apart.2.2

/-! ## Requests -/

/-- A request that is sent carries this data. -/
def Delivers (data : String) : Ask → Prop
  | .send request => request.callData? = some data
  | _ => True

theorem call_delivers (directory : Directory) (chain contract data : String) :
    (call directory chain contract data).Asks (Delivers data) := by
  unfold call
  split
  · rename_i node _
    refine (asks_word _).bind fun target => Asks.bind ((node.json_asks _).mono fun ask carries => ?_)
      fun payload => (asks_misuse _).bind fun fault => ?_
    · cases ask with
      | isHeldBack | report => trivial
      | send request =>
        obtain rfl := carries
        rfl
    · simp only
      split
      · exact (asks_misuse _).bind fun _ => .failed _
      · exact (asks_misuse _).bind fun _ => .done _
  · exact .failed _

/-- What is sent to ask a question carries the data of the question. -/
theorem Question.MaySend.callData? {directory : Directory} {chain contract : String} {request : Request}
    {question : Question} {data : String} (sends : question.MaySend directory chain contract request)
    (encoded : question.data = .ok data) : request.callData? = some data := by
  have balance (address : String) (standard : Standard) (token : Option Int)
      (encoded : balanceData address standard token = .ok data) :
      (Tokens.balance directory chain contract address standard token).Asks (Delivers data) := by
    unfold Tokens.balance
    rw [encoded]
    exact (call_delivers directory chain contract data).bind fun _ => asks_word _
  have owner {token : Int} (encoded : ownerData token = data) :
      (Tokens.owner directory chain contract token).Asks (Delivers data) := by
    subst encoded
    exact (call_delivers directory chain contract _).bind fun _ => .done _
  have delivers : Delivers data (.send request) := by
    cases question with
    | balance address => exact (balance address .single none encoded).of_mayAsk sends
    | tokenBalance address token =>
      exact (balance address .multiToken (some token) encoded).of_mayAsk sends
    | owner token => exact (owner (Except.ok.inj encoded)).of_mayAsk sends
  exact delivers

/-- The owner is the address in an answer that is the word of one. -/
theorem owner_of_word {network : (ask : Ask) → Answer ask} {directory : Directory} {chain contract : String}
    {token : Int} {address answer : String} {digits : List Char} (spells : Spells address digits)
    (word : answer.toList = '0' :: 'x' :: (List.replicate 24 '0' ++ digits))
    (answers : (call directory chain contract (ownerData token)).result network = .ok answer) :
    (owner directory chain contract token).result network = .ok (Text.lower address) := by
  have owned : (owner directory chain contract token).result network =
      ((call directory chain contract (ownerData token)).result network).bind fun answer =>
        .ok (decodeOwner answer) := Program.result_bind network
  rw [owned, answers, spells.lower, ← Chain.decodeOwner_digits ('0' :: 'x' :: List.replicate 24 '0')
    spells.address word]
  rfl

/-- The data of a question is a selector of ten characters and one word for each argument, which gives the
argument back, an address in lower case; and this is the data of every request that is sent to ask the
question. So the same data is sent for the same question only, with addresses the same but for their
case. Every number reads back from its digits, however many they are, and an owner from the word of its
address. -/
theorem data_tells_questions_apart :
    (∀ question : Question, question.IsProper → ∃ data, question.data = .ok data ∧
      question.selector.length = 10 ∧ question.IsData data ∧
      ∀ directory chain contract request, question.MaySend directory chain contract request →
        request.callData? = some data) ∧
    (∀ question other : Question, question.IsProper → other.IsProper →
      (question.data = other.data ↔ question.selector = other.selector ∧
        question.arguments.map Argument.lower = other.arguments.map Argument.lower)) ∧
    (∀ address token, balanceData address .single token = Question.data (.balance address)) ∧
    (∀ n : Nat, decodeNumber ("0x" ++ String.ofList (encodeNumber n)) = .ok n) ∧
    ∀ (network : (ask : Ask) → Answer ask) (directory : Directory) (chain contract : String) (token : Int)
      (address answer : String) (digits : List Char), Spells address digits →
      answer.toList = '0' :: 'x' :: (List.replicate 24 '0' ++ digits) →
      (call directory chain contract (ownerData token)).result network = .ok answer →
      (owner directory chain contract token).result network = .ok (Text.lower address) := by
  refine ⟨fun question proper => ?_, fun question other proper proper' => ⟨fun same => ?_, ?_⟩,
    fun address token => rfl, Chain.decodeNumber_encodeNumber,
    fun network directory chain contract token address answer digits => owner_of_word⟩
  · obtain ⟨data, encoded, isData⟩ := proper.isData
    refine ⟨data, encoded, ?_, isData, fun directory chain contract request sends => sends.callData? encoded⟩
    rw [← String.length_toList, question.length_selector]
  · obtain ⟨data, encoded, isData⟩ := proper.isData
    obtain ⟨data', encoded', isData'⟩ := proper'.isData
    obtain rfl : data = data' := Except.ok.inj (encoded.symm.trans (same.trans encoded'))
    have selectors : question.selector = other.selector :=
      String.toList_inj.mp (isData.selector.symm.trans isData'.selector)
    refine ⟨selectors, Question.arguments_eq selectors fun place argument argument' at_ at_' => ?_⟩
    exact ⟨wordAt data place, (isData.words place argument at_).reads, (isData'.words place argument' at_').reads⟩
  · rintro ⟨selectors, arguments⟩
    rw [question.data_eq, other.data_eq, selectors, encode_arguments_congr proper proper' arguments]

/-- Capitals in an address make no other question of it, while another token does. -/
theorem capitals_ask_the_same :
    let capitals := "0x4ED4E862860BED51A9570B96D89AF5E1B0EFEFED"
    let small := "0x4ed4e862860bed51a9570b96d89af5e1b0efefed"
    Question.data (.tokenBalance capitals 7) = Question.data (.tokenBalance small 7) ∧
      Question.data (.tokenBalance small 7) ≠ Question.data (.tokenBalance small 8) := by
  intro capitals small
  obtain ⟨-, apart, -⟩ := data_tells_questions_apart
  have spelled : (Argument.address capitals).IsProper :=
    ⟨"4ED4E862860BED51A9570B96D89AF5E1B0EFEFED".toList,
      ⟨by decide, List.all_eq_true.mp (by decide)⟩, by decide⟩
  have spelled' : (Argument.address small).IsProper :=
    ⟨"4ed4e862860bed51a9570b96d89af5e1b0efefed".toList,
      ⟨by decide, List.all_eq_true.mp (by decide)⟩, by decide⟩
  have proper {text : String} (spelled : (Argument.address text).IsProper) {n : Nat} (narrow : n < 2 ^ 256) :
      (Question.tokenBalance text n).IsProper :=
    List.forall_mem_cons.mpr ⟨spelled, List.forall_mem_singleton.mpr narrow⟩
  have lowered : Text.lower capitals = Text.lower small := by decide +kernel
  refine ⟨(apart _ _ (proper spelled (by decide)) (proper spelled' (by decide))).mpr ⟨rfl, ?_⟩, fun same => ?_⟩
  · exact congrArg (fun text => [Argument.address text, .number 7]) lowered
  · obtain ⟨-, arguments⟩ := (apart _ _ (proper spelled' (by decide)) (proper spelled' (by decide))).mp same
    simp [Question.arguments, Argument.lower] at arguments

end Tokens

end Curation.Remote
