import Curation.Proofs.Program.Runs
import Curation.Remote.Accounts
import Curation.Remote.Channels
import Curation.Remote.Hooks
import Curation.Remote.Standing
import Curation.Remote.Tokens

/-! Calls that only look things up. What invites, hides, unhides or bans is told from
all other requests by the first name in its body, so a call that sends no such body
writes nothing, wherever its request may go. -/
namespace Curation.Remote

open Program (Asks MayAsk)

variable {α : Type}

/-- The first name in the body of a request. -/
def Request.bodyStart? (request : Request) : Option String :=
  match request.body with
  | some (.obj ((name, _) :: _)) => some name
  | _ => none

/-- A request that changes no member, no cast and no ban of a channel. -/
def Request.isReading (request : Request) : Bool :=
  match request.bodyStart? with
  | some name => name != "channelId" && name != "castHash"
  | none => true

def Ask.isReading : Ask → Bool
  | .send request => request.isReading
  | _ => true

/-- A call that sends no writing request, whatever it is answered. -/
abbrev Reads (call : Fetch α) : Prop := call.Asks (·.isReading = true)

/-- A request goes to a service for a call. -/
def Service.Carries (service : Service) (call : Call) : Ask → Prop
  | .send request => request = service.requestOf call
  | _ => True

/-! ## Single calls -/

theorem Service.request_asks (service : Service) (call : Call) :
    (service.request call).Asks (service.Carries call) := by
  refine .ask trivial fun heldBack => ?_
  cases heldBack with
  | true => exact .failed _
  | false =>
    refine .ask rfl fun reply => ?_
    cases reply with
    | timedOut | broken reason => exact .ask trivial fun _ => .failed _
    | answered response =>
      simp only [Program.bind]
      split
      · exact .ask trivial fun _ => .failed _
      · exact .ask trivial fun _ => .done response

theorem Service.json_asks (service : Service) (call : Call) :
    (service.json call).Asks (service.Carries call) := by
  refine (service.request_asks call).bind fun response => ?_
  simp only
  split
  · exact .failed _
  · split
    · exact .done _
    · exact .failed _

theorem asks_misuse {allowed : Ask → Prop} (result : Except Misuse α) :
    Asks allowed (liftM result : Fetch α) := by
  cases result with
  | ok value => exact .done value
  | error cause => exact .failed _

theorem asks_word {allowed : Ask → Prop} (result : Except Chain.WordFault α) :
    Asks allowed (liftM result : Fetch α) := by
  cases result with
  | ok value => exact .done value
  | error fault => exact .failed _

namespace Reads

theorem json {service : Service} {call : Call}
    (reading : (service.requestOf call).isReading = true) : Reads (service.json call) := by
  refine (service.json_asks call).mono fun ask carries => ?_
  cases ask with
  | send request =>
    obtain rfl : request = service.requestOf call := carries
    exact reading
  | isHeldBack | report => rfl

theorem misuse (result : Except Misuse α) : Reads (liftM result : Fetch α) := asks_misuse result

theorem word (result : Except Chain.WordFault α) : Reads (liftM result : Fetch α) := asks_word result

theorem checked (result : Decode.Checked α) : Reads (liftM result : Fetch α) := by
  cases result with
  | ok value => exact .done value
  | bad issues => exact .failed _

end Reads

variable (directory : Directory)

/-! ## Writing calls -/

namespace Channels

/-- A request that inviting or banning a user, or hiding or unhiding a cast may send. -/
def IsWrite (request : Request) : Prop :=
  ∃ (id hash : String) (fid : Int), ∃ call ∈ [invite directory id fid, ban directory id fid,
    hide directory hash, unhide directory hash], call.MayAsk (.send request)

private theorem write_asks (path : String) (body : Json) :
    (write directory path body).Asks
      (directory.channels.Carries { method := "POST", path, body := some body }) :=
  (directory.channels.json_asks _).bind fun _ => .done ()

/-- Nothing that reads is a write. -/
theorem IsWrite.not_reading {request : Request} (writes : IsWrite directory request) :
    request.isReading = false := by
  obtain ⟨id, hash, fid, call, listed, may⟩ := writes
  simp only [List.mem_cons, List.not_mem_nil, or_false] at listed
  rcases listed with rfl | rfl | rfl | rfl
  all_goals
    obtain rfl := (write_asks directory _ _).of_mayAsk may
    rfl

end Channels

/-! ## Reading calls -/

namespace Channels

private theorem channel_reads (id : String) : Reads (channel directory id) := by
  refine (Reads.json rfl).bind fun payload => (Reads.misuse _).bind fun result => ?_
  refine (Reads.misuse _).bind fun channel => ?_
  simp only
  split
  · exact .failed _
  · exact .done _

theorem owner_reads (id : String) : Reads (owner directory id) :=
  (channel_reads directory id).bind fun _ => (Reads.misuse _).bind fun _ => Reads.misuse _

private theorem answersWith_reads (path id : String) (fid : Int) (name : String) :
    Reads (answersWith directory path id fid name) :=
  (Reads.json rfl).bind fun _ => (Reads.misuse _).bind fun _ => (Reads.misuse _).bind fun _ => .done _

theorem isMember_reads (id : String) (fid : Int) : Reads (isMember directory id fid) :=
  answersWith_reads directory _ _ _ _

theorem isFollowing_reads (id : String) (fid : Int) : Reads (isFollowing directory id fid) :=
  answersWith_reads directory _ _ _ _

end Channels

namespace Accounts

theorem bulkUsers_reads (fids : List Int) (viewer : Option Int) :
    Reads (bulkUsers directory fids viewer) := by
  unfold bulkUsers
  split
  · exact .done _
  · exact (Reads.json rfl).bind fun _ => (Reads.misuse _).bind fun _ => (Reads.misuse _).bind fun users =>
      Asks.mapM (fun _ => Reads.checked _) users

theorem isFollowing_reads (fid target : Int) : Reads (isFollowing directory fid target) :=
  (bulkUsers_reads directory _ _).bind fun _ => .done _

theorem powerBadgeFids_reads : Reads (powerBadgeFids directory) :=
  (Reads.json rfl).bind fun _ => (Reads.misuse _).bind fun _ => (Reads.misuse _).bind fun _ =>
    (Reads.misuse _).bind fun fids => Asks.mapM (fun _ => Reads.misuse _) fids

theorem subscriberFids_reads (fid : Int) (provider : String) :
    Reads (subscriberFids directory fid provider) := by
  refine (Reads.json rfl).bind fun _ => (Reads.misuse _).bind fun _ => (Reads.misuse _).bind fun listed => ?_
  refine (Asks.mapM (fun subscriber => ?_) listed).bind fun _ => .done _
  refine (Reads.misuse _).bind fun user => ?_
  split
  · exact (Reads.misuse _).bind fun _ => (Reads.misuse _).bind fun _ => (Reads.misuse _).bind fun _ =>
      .done _
  · exact .done _

theorem cast_reads (hash : String) : Reads (cast directory hash) := by
  refine (Reads.json rfl).bind fun _ => (Reads.misuse _).bind fun _ => (Reads.misuse _).bind fun _ => ?_
  simp only
  split
  · exact .failed _
  · exact (Reads.misuse _).bind fun _ => Reads.checked _

end Accounts

namespace Tokens

theorem call_reads (chain contract data : String) : Reads (call directory chain contract data) := by
  unfold call
  split
  · refine (Reads.word _).bind fun _ => (Reads.json rfl).bind fun _ => (Reads.misuse _).bind fun _ => ?_
    simp only
    split
    · exact (Reads.misuse _).bind fun _ => .failed _
    · exact (Reads.misuse _).bind fun _ => .done _
  · exact .failed _

theorem balance_reads (chain contract address : String) (standard : Standard) (token : Option Int) :
    Reads (balance directory chain contract address standard token) :=
  (Reads.word _).bind fun _ => (call_reads directory _ _ _).bind fun _ => Reads.word _

theorem owner_reads (chain contract : String) (token : Int) :
    Reads (owner directory chain contract token) :=
  (call_reads directory _ _ _).bind fun _ => .done _

theorem decimals_reads (chain contract : String) : Reads (decimals directory chain contract) :=
  (call_reads directory _ _ _).bind fun _ => Reads.word _

theorem collectionCount_reads (wallets : List String) (contract chain : String) :
    Reads (collectionCount directory wallets contract chain) := by
  unfold collectionCount
  split
  · exact (Reads.json rfl).bind fun _ => (Reads.misuse _).bind fun _ => Reads.misuse _
  · exact .failed _

end Tokens

namespace Standing

theorem classify_reads (fid : Int) (timeout : Option Number) :
    Reads (classify directory fid timeout) := Reads.json rfl

private theorem query_reads (text : String) (bindings : Json) : Reads (query directory text bindings) := by
  refine (Reads.json rfl).bind fun _ => (Reads.misuse _).bind fun errors => ?_
  simp only
  split
  · exact (Reads.misuse _).bind fun _ => .failed _
  · exact (Reads.misuse _).bind fun _ => .done _

theorem farRank_reads (fid : Int) : Reads (farRank directory fid) := by
  refine (query_reads directory _ _).bind fun _ => (Reads.misuse _).bind fun _ => ?_
  refine (Reads.misuse _).bind fun _ => ?_
  simp only
  split
  · exact .done _
  · refine (Reads.misuse _).bind fun _ => (Reads.misuse _).bind fun _ => (Reads.misuse _).bind fun _ => ?_
    split
    · exact (Reads.misuse _).bind fun _ => .done _
    · exact .done _

private theorem entryFor_reads (fid : Int) (entries : List Json) : Reads (entryFor fid entries) := by
  induction entries with
  | nil => exact .done _
  | cons entry rest ih =>
    refine (Reads.misuse _).bind fun _ => ?_
    split
    · exact .done _
    · exact ih

private theorem ranking_reads (path : String) (fid : Int) : Reads (ranking directory path fid) :=
  (Reads.json rfl).bind fun _ => (Reads.misuse _).bind fun _ => (Reads.misuse _).bind fun _ =>
    entryFor_reads fid _

theorem globalRank_reads (fid : Int) : Reads (globalRank directory fid) := ranking_reads directory _ _

theorem channelRank_reads (channel : String) (fid : Int) : Reads (channelRank directory channel fid) :=
  ranking_reads directory _ _

end Standing

namespace Profiles

theorem profile?_reads (fid : Int) : Reads (profile? directory fid) := by
  refine Asks.bind (Asks.recover ((Reads.json rfl).bind fun _ => .done _) fun failure => ?_) fun found => ?_
  · split
    · exact .done _
    · exact .failed _
  · split
    · exact .done _
    · refine (Reads.misuse _).bind fun _ => ?_
      simp only
      split
      · exact (Reads.misuse _).bind fun _ => .done _
      · exact .done _

end Profiles

namespace Hooks

theorem post_reads {url : String} {payload : Json} {timeout : Number}
    (reading : Request.isReading ⟨"POST", url, none, some payload, none, timeout⟩ = true) :
    Reads (post url payload timeout) := by
  refine .ask reading fun reply => ?_
  cases reply with
  | answered response => exact .done _
  | timedOut | broken reason => exact .failed _

end Hooks

end Curation.Remote
