import Curation.Proofs.Intake.Owners
import Curation.Proofs.Moderation.Frame
import Curation.Proofs.Remote.Reading
import Curation.Proofs.Store.Configurations
import Curation.Proofs.Text.Whole

/-! Approvals by hand. An approval looks its entry up, makes the one call that lets the user or
the cast back in, and then writes the entry. So nothing is written where something is refused or
fails on the way, and once the entry is written it does not wait for a moderator any more. -/
namespace Curation

namespace Log

/-- An entry as the service makes it: about a user whose fid it could write out. -/
def IsOwn (log : Log) : Prop := ∃ fid : Int, log.fid = toString fid ∧ Text.IsShort fid

/-- An entry once a moderator has approved it. -/
def approved (log : Log) (actor : String) (time : Moment) : Log :=
  { log with action := Action.like.name, actor, updatedAt := time.stored }

end Log

namespace Moderation

open Program (Asks Runs runs_bind runs_done runs_ofExcept answered_append answered_question)
open Store (Change Session Tables)

/-! ## The call that an approval makes -/

section Calls

variable (directory : Remote.Directory)

/-- Who asked to join is invited; a cast is shown again. -/
def admission (channelId : String) (log : Log) (fid : Int) : Remote.Fetch Unit :=
  if log.castHash.isEmpty then Remote.Channels.invite directory channelId fid
  else Remote.Channels.unhide directory log.castHash

def inviteRequest (channelId : String) (fid : Int) : Remote.Request :=
  directory.channels.requestOf
    { method := "POST", path := "/fc/channel-invites",
      body := some (.obj [("channelId", .str channelId), ("inviteFid", .int fid), ("role", .str "member")]) }

def unhideRequest (hash : String) : Remote.Request :=
  directory.channels.requestOf
    { method := "POST", path := "/fc/moderated-casts",
      body := some (.obj [("castHash", .str hash), ("action", .str "unhide")]) }

def admissionRequest (channelId : String) (log : Log) (fid : Int) : Remote.Request :=
  if log.castHash.isEmpty then inviteRequest directory channelId fid else unhideRequest directory log.castHash

end Calls

/-- The requests that went out. -/
def sent (transcript : Transcript) : List Remote.Request :=
  transcript.filterMap fun exchange =>
    match exchange.1 with
    | .remote (.send request) => some request
    | _ => none

/-- Nothing was asked of the network, not even whether a service is held back. -/
def IsLocal (transcript : Transcript) : Prop := ∀ exchange ∈ transcript, ∀ ask, exchange.1 ≠ .remote ask

theorem sent_append (before after : Transcript) : sent (before ++ after) = sent before ++ sent after :=
  List.filterMap_append

theorem IsLocal.sent {transcript : Transcript} (here : IsLocal transcript) : sent transcript = [] := by
  refine List.filterMap_eq_nil_iff.mpr fun exchange member => ?_
  split
  · rename_i request asked
    exact absurd asked (here exchange member _)
  · rfl

variable {transcript : Transcript}

/-- A call that sends one request, unless it fails before it does so. -/
def Sends {α : Type} (request : Remote.Request) (call : Remote.Fetch α) : Prop :=
  ∀ ⦃transcript : Transcript⦄ ⦃outcome : Except Failure α⦄, Runs (ofFetch call) transcript outcome →
    sent transcript = [request] ∨ sent transcript = [] ∧ ∃ failure, outcome = .error failure

namespace Sends

theorem request (service : Remote.Service) (call : Remote.Call) :
    Sends (service.requestOf call) (service.request call) := by
  intro transcript outcome run
  cases run with
  | ask heldBack run =>
  cases heldBack with
  | true =>
    cases run
    exact .inr ⟨rfl, _, rfl⟩
  | false =>
  cases run with
  | ask reply run =>
  left
  cases reply with
  | timedOut | broken reason =>
    cases run with
    | ask _ run =>
      cases run
      rfl
  | answered response =>
    simp only [Program.bind] at run
    split at run
    · cases run with
      | ask _ run =>
        cases run
        rfl
    · cases run with
      | ask _ run =>
        cases run
        rfl

/-- What follows without a question sends nothing more. -/
theorem bind {α β : Type} {request : Remote.Request} {call : Remote.Fetch α} {rest : α → Remote.Fetch β}
    (first : Sends request call) (silent : ∀ value, (rest value).Asks fun _ => False) :
    Sends request (call.bind rest) := by
  intro transcript outcome run
  have parts : ofFetch (call.bind rest) = (ofFetch call).bind fun value => ofFetch (rest value) :=
    Program.within_bind Ask.remote fun _ answer => answer
  rw [parts] at run
  rcases runs_bind.mp run with ⟨failure, rfl, failed⟩ | ⟨before, value, after, rfl, returned, later⟩
  · rcases first failed with once | ⟨never, -⟩
    · exact .inl once
    · exact .inr ⟨never, _, rfl⟩
  · have none_later : after = [] := by
      refine List.eq_nil_iff_forall_not_mem.mpr fun exchange member => ?_
      have asks : (ofFetch (rest value)).Asks fun _ => False := by
        refine Asks.within ?_
        exact silent value
      exact asks.of_runs later exchange member
    rw [none_later, List.append_nil]
    rcases first returned with once | ⟨-, failure, same⟩
    · exact .inl once
    · cases same

theorem json (service : Remote.Service) (call : Remote.Call) :
    Sends (service.requestOf call) (service.json call) := by
  refine (request service call).bind fun response => ?_
  simp only
  split
  · exact .failed _
  · split
    · exact .done _
    · exact .failed _

/-- An invitation for a request to join, an unhiding for a cast, and never both. -/
theorem admission (directory : Remote.Directory) (channelId : String) (log : Log) (fid : Int) :
    Sends (admissionRequest directory channelId log fid) (admission directory channelId log fid) := by
  unfold admissionRequest Moderation.admission
  split
  · exact (json directory.channels _).bind fun _ => .done ()
  · exact (json directory.channels _).bind fun _ => .done ()

end Sends

/-! ## The entry that waits -/

/-- An entry that waits for a moderator: it is of a channel that is found under this spelling, and
it says that something was hidden. -/
structure Pending (tables : Tables) (channelId logId : String) (channel : Channel) (log : Log) : Prop where
  known : tables.configuration? channelId = .ok (some channel)
  listed : findLog? tables channel.id logId = some log
  hidden : log.action = Action.hideQuietly.name

/-- Why there is nothing to approve. -/
inductive Refused (tables : Tables) (channelId logId : String) : Failure → Prop where
  | unreadable {failure : Failure} : tables.configuration? channelId = .error failure →
    Refused tables channelId logId failure
  | noChannel : tables.configuration? channelId = .ok none → Refused tables channelId logId (.noChannel channelId)
  | noLog {channel : Channel} : tables.configuration? channelId = .ok (some channel) →
    findLog? tables channel.id logId = none → Refused tables channelId logId (.noLog logId)
  | decided {channel : Channel} {log : Log} : tables.configuration? channelId = .ok (some channel) →
    findLog? tables channel.id logId = some log → log.action ≠ Action.hideQuietly.name →
    Refused tables channelId logId (.action (.notPending log.action))
  | misused {channel : Channel} {log : Log} {cause : Misuse} : Pending tables channelId logId channel log →
    (Json.str log.fid).toWhole = .error cause → Refused tables channelId logId (.misuse cause)

variable {tables : Tables} {channelId logId : String} {channel : Channel} {log : Log}

/-- An own entry is about one user, whose fid can be read from it. -/
theorem own_read (own : log.IsOwn) : ∃ fid, log.fid = toString fid ∧ (Json.str log.fid).toWhole = .ok fid := by
  obtain ⟨fid, written, short⟩ := own
  refine ⟨fid, written, ?_⟩
  rw [written, Json.toWhole, Text.readWhole?_toString fid short]

theorem findLog?_iff {id : String} :
    findLog? tables id logId = some log ↔ tables.log? logId = some log ∧ log.channelId = id := by
  simp [findLog?, Option.filter_eq_some_iff]

theorem Pending.id (pending : Pending tables channelId logId channel log) : log.id = logId := by
  simpa using List.find?_some (findLog?_iff.mp pending.listed).1

/-- An approved entry stands where it stood, and nothing else is written. -/
theorem Pending.in_place (pending : Pending tables channelId logId channel log) (actor : String) (time : Moment) :
    ∃ front back, tables.logs = front ++ log :: back ∧
      (Change.updateLog (log.approved actor time)).apply tables =
        { tables with logs := front ++ log.approved actor time :: back } := by
  have keyed : Store.sameLog (log.approved actor time) = fun other => other.id == logId := by
    funext other
    rw [Store.sameLog, ← pending.id, BEq.comm]
    rfl
  have found : tables.logs.find? (Store.sameLog (log.approved actor time)) = some log := by
    rw [keyed]
    exact (findLog?_iff.mp pending.listed).1
  obtain ⟨front, back, whole, written⟩ := Store.upsert_found found
  exact ⟨front, back, whole, congrArg (fun logs => { tables with logs }) written⟩

/-- Only the entry that is found under an id waits there. -/
theorem Pending.found {channel' : Channel} {log' : Log} (pending : Pending tables channelId logId channel log)
    (known : tables.configuration? channelId = .ok (some channel'))
    (listed : findLog? tables channel'.id logId = some log') : channel = channel' ∧ log = log' := by
  rw [pending.known] at known
  cases known
  rw [pending.listed] at listed
  cases listed
  exact ⟨rfl, rfl⟩

/-- An entry that is found is refused because it does not wait, or because it names nobody. -/
theorem Refused.cause {failure : Failure} (refused : Refused tables channelId logId failure)
    (known : tables.configuration? channelId = .ok (some channel))
    (listed : findLog? tables channel.id logId = some log) :
    (log.action ≠ Action.hideQuietly.name ∧ failure = .action (.notPending log.action)) ∨
      log.action = Action.hideQuietly.name ∧ ∃ cause, (Json.str log.fid).toWhole = .error cause := by
  cases refused with
  | unreadable other | noChannel other =>
    rw [known] at other
    cases other
  | noLog other unlisted =>
    rw [known] at other
    cases other
    rw [listed] at unlisted
    cases unlisted
  | decided other relisted decided =>
    rw [known] at other
    cases other
    rw [listed] at relisted
    cases relisted
    exact .inl ⟨decided, rfl⟩
  | misused pending misused =>
    obtain ⟨rfl, rfl⟩ := pending.found known listed
    exact .inr ⟨pending.hidden, _, misused⟩

/-- An own entry that waits is refused to nobody. -/
theorem Refused.not_pending {failure : Failure} (refused : Refused tables channelId logId failure)
    (own : log.IsOwn) : ¬ Pending tables channelId logId channel log := by
  intro pending
  rcases refused.cause pending.known pending.listed with ⟨decided, -⟩ | ⟨-, cause, misused⟩
  · exact decided pending.hidden
  · obtain ⟨fid, -, read⟩ := own_read own
    rw [read] at misused
    cases misused

/-! ## How an approval ends -/

variable {deployment : Deployment} {actor : String} {before : Tables} {after : Session}

/-- The ways in which an approval ends: it is refused, its call fails, nobody tells the time, or
the entry is written. -/
inductive Approves (deployment : Deployment) (channelId logId actor : String) (before : Tables) :
    Transcript → Except Failure Log → Session → Prop where
  | refused {transcript : Transcript} {failure : Failure} :
    Refused before channelId logId failure → IsLocal transcript →
    Approves deployment channelId logId actor before transcript (.error failure) (.clean before)
  | unreached {channel : Channel} {log : Log} {fid : Int} {called : Transcript} {failure : Failure} :
    Pending before channelId logId channel log → (Json.str log.fid).toWhole = .ok fid →
    Runs (onNetwork deployment (admission deployment.directory channel.id log fid)) called (.error failure) →
    Approves deployment channelId logId actor before
      ([⟨.tables, before⟩, ⟨.tables, before⟩] ++ called) (.error failure) (.clean before)
  | undated {channel : Channel} {log : Log} {fid : Int} {called : Transcript} :
    Pending before channelId logId channel log → (Json.str log.fid).toWhole = .ok fid →
    Runs (onNetwork deployment (admission deployment.directory channel.id log fid)) called (.ok ()) →
    Approves deployment channelId logId actor before
      ([⟨.tables, before⟩, ⟨.tables, before⟩] ++ (called ++ [⟨.clock, none⟩]))
      (.error .dateOutOfRange) (.clean before)
  | approved {channel : Channel} {log : Log} {fid : Int} {called : Transcript} {time : Moment} :
    Pending before channelId logId channel log → (Json.str log.fid).toWhole = .ok fid →
    Runs (onNetwork deployment (admission deployment.directory channel.id log fid)) called (.ok ()) →
    Approves deployment channelId logId actor before
      ([⟨.tables, before⟩, ⟨.tables, before⟩] ++ (called ++
        [⟨.clock, some time⟩, ⟨.write (.updateLog (log.approved actor time)), .ok ()⟩, ⟨.commit, ()⟩]))
      (.ok (log.approved actor time)) (.clean ((Change.updateLog (log.approved actor time)).apply before))

/-- The writing of an approved entry. -/
private def writing (log : Log) (actor : String) : Moderation Log := do
  let approved := log.approved actor (← now)
  write (.updateLog approved)
  commit
  return approved

/-- What is done about an entry that is found. -/
private def settling (deployment : Deployment) (channel : Channel) (log : Log) (actor : String) : Moderation Log :=
  if log.action ≠ Action.hideQuietly.name then .failed (.action (.notPending log.action))
  else match caseOf channel log with
    | .error cause => .failed (.misuse cause)
    | .ok case => (carryOut deployment case .like).bind fun _ =>
      if case.cast.isSome then (carryOut deployment case .unhide).bind fun _ => writing log actor
      else writing log actor

private theorem approve_eq : approve deployment channelId logId actor =
    Moderation.tables.bind fun first => (Program.ofExcept (first.configuration? channelId)).bind fun found =>
      match found with
      | none => .failed (.noChannel channelId)
      | some channel => Moderation.tables.bind fun second =>
        match findLog? second channel.id logId with
        | none => .failed (.noLog logId)
        | some log => settling deployment channel log actor := rfl

/-- Two actions are carried out, of which one calls the network. -/
private theorem settling_hidden (hidden : log.action = Action.hideQuietly.name) :
    settling deployment channel log actor =
      match (Json.str log.fid).toWhole with
      | .error cause => .failed (.misuse cause)
      | .ok fid => (onNetwork deployment (admission deployment.directory channel.id log fid)).bind
        fun _ => writing log actor := by
  simp only [settling, hidden, ne_eq, not_true_eq_false, if_false, caseOf]
  cases (Json.str log.fid).toWhole with
  | error cause => rfl
  | ok fid =>
    simp only [bind, Except.bind, pure, Except.pure, admission, carryOut, castFor]
    cases log.castHash.isEmpty with
    | true => rfl
    | false => rfl

/-- An entry is written at the time that the clock tells. -/
private theorem writing_answered {outcome : Except Failure Log} (run : Runs (writing log actor) transcript outcome)
    (answered : Answered (.clean before) transcript after) :
    (transcript = [⟨.clock, none⟩] ∧ outcome = .error .dateOutOfRange ∧ after = .clean before) ∨
    ∃ time, transcript =
        [⟨.clock, some time⟩, ⟨.write (.updateLog (log.approved actor time)), .ok ()⟩, ⟨.commit, ()⟩] ∧
      outcome = .ok (log.approved actor time) ∧
      after = .clean ((Change.updateLog (log.approved actor time)).apply before) := by
  cases run with
  | ask shown run =>
  cases answered with
  | cons ticked answered =>
  have ticked : _ = Session.clean before := ticked
  subst ticked
  cases shown with
  | none =>
    cases run
    cases answered
    exact .inl ⟨rfl, rfl, rfl⟩
  | some time =>
  cases run with
  | ask written run =>
  cases answered with
  | @cons _ middle _ _ _ _ wrote answered =>
  have wrote : (written, middle) = (Session.clean before).write (.updateLog (log.approved actor time)) := wrote
  cases wrote
  cases run with
  | ask done run =>
  cases run
  cases answered with
  | cons kept answered =>
  cases answered
  have kept : after = _ := kept
  exact .inr ⟨time, rfl, rfl, kept⟩

/-- A look at the tables shows what is there. -/
private theorem looking {rest : Tables → Moderation Log} {outcome : Except Failure Log}
    (run : Runs (Moderation.tables.bind rest) transcript outcome)
    (answered : Answered (.clean before) transcript after) :
    ∃ later, transcript = ⟨.tables, before⟩ :: later ∧ Runs (rest before) later outcome ∧
      Answered (.clean before) later after := by
  cases run with
  | ask shown run =>
  cases answered with
  | cons reads answered =>
  obtain ⟨rfl, rfl⟩ := reads
  exact ⟨_, rfl, run, answered⟩

/-- An approval ends in one of these ways. -/
theorem approve_cases {outcome : Except Failure Log}
    (run : Runs (approve deployment channelId logId actor) transcript outcome)
    (answered : Answered (.clean before) transcript after) :
    Approves deployment channelId logId actor before transcript outcome after := by
  have reading {rest : Transcript} (only : ∀ exchange ∈ rest, exchange.1 = .tables) : IsLocal rest := by
    intro exchange member ask asked
    rw [only exchange member] at asked
    cases asked
  rw [approve_eq] at run
  obtain ⟨_, rfl, run, answered⟩ := looking run answered
  cases known : before.configuration? channelId with
  | error failure =>
    rw [known] at run
    cases run
    cases answered
    exact .refused (.unreadable known) (reading (by simp))
  | ok found =>
  rw [known] at run
  cases found with
  | none =>
    cases run
    cases answered
    exact .refused (.noChannel known) (reading (by simp))
  | some channel =>
  obtain ⟨_, rfl, run, answered⟩ := looking run answered
  cases listed : findLog? before channel.id logId with
  | none =>
    rw [listed] at run
    cases run
    cases answered
    exact .refused (.noLog known listed) (reading (by simp))
  | some log =>
  simp only [listed] at run
  by_cases hidden : log.action = Action.hideQuietly.name
  · have pending : Pending before channelId logId channel log := ⟨known, listed, hidden⟩
    rw [settling_hidden hidden] at run
    cases read : (Json.str log.fid).toWhole with
    | error cause =>
      rw [read] at run
      cases run
      cases answered
      exact .refused (.misused pending read) (reading (by simp))
    | ok fid =>
    rw [read] at run
    rcases runs_bind.mp run with ⟨failure, rfl, failed⟩ | ⟨called, _, rest, rfl, returned, run⟩
    · obtain rfl := onNetwork_answered failed answered
      exact .unreached pending read failed
    · obtain ⟨middle, for_call, for_rest⟩ := answered_append.mp answered
      obtain rfl := onNetwork_answered returned for_call
      rcases writing_answered run for_rest with ⟨rfl, rfl, rfl⟩ | ⟨time, rfl, rfl, rfl⟩
      · exact .undated pending read returned
      · exact .approved pending read returned
  · simp only [settling, hidden, ne_eq, not_false_eq_true, if_true] at run
    cases run
    cases answered
    exact .refused (.decided known listed hidden) (reading (by simp))

/-! ## Entries that do not wait -/

/-- An entry that says anything else than that something was hidden is left as it is, whoever
approves what. -/
theorem approve_spares {otherId : String} {outcome : Except Failure Log}
    (run : Runs (approve deployment channelId otherId actor) transcript outcome)
    (answered : Answered (.clean before) transcript after) (listed : before.log? logId = some log)
    (decided : log.action ≠ Action.hideQuietly.name) : after.committed.log? logId = some log := by
  cases approve_cases run answered with
  | refused | unreached | undated => exact listed
  | @approved channel other fid called time pending read returned =>
    have found := (findLog?_iff.mp pending.listed).1
    have own := pending.id
    show ((Change.updateLog (other.approved actor time)).apply before).log? logId = some log
    rw [Store.log?_updated]
    split
    · rename_i same
      have same : other.id = logId := same
      rw [← own, same, listed] at found
      cases found
      exact absurd pending.hidden decided
    · exact listed

/-- What the store may hold later on: approvals of any entry may have come and gone, and all else
may have changed as long as the entry under this id stayed. -/
inductive Later (logId : String) (first : Tables) : Tables → Prop where
  | now : Later logId first first
  | approval {before : Tables} {after : Session} {deployment : Deployment} {channelId otherId actor : String}
      {transcript : Transcript} {outcome : Except Failure Log} : Later logId first before →
    Runs (approve deployment channelId otherId actor) transcript outcome →
    Answered (.clean before) transcript after → Later logId first after.committed
  | apart {before after : Tables} : Later logId first before → after.log? logId = before.log? logId →
    Later logId first after

theorem Later.spares {first later : Tables} (passed : Later logId first later)
    (listed : first.log? logId = some log) (decided : log.action ≠ Action.hideQuietly.name) :
    later.log? logId = some log := by
  induction passed with
  | now => exact listed
  | approval _ run answered ih => exact approve_spares run answered ih decided
  | apart _ same ih => exact same.trans ih

/-- An entry that does not wait is not approved, and nobody is asked about it. -/
theorem approve_decided {outcome : Except Failure Log}
    (run : Runs (approve deployment channelId logId actor) transcript outcome)
    (answered : Answered (.clean before) transcript after)
    (known : before.configuration? channelId = .ok (some channel)) (listed : before.log? logId = some log)
    (here : log.channelId = channel.id) (decided : log.action ≠ Action.hideQuietly.name) :
    outcome = .error (.action (.notPending log.action)) ∧ IsLocal transcript ∧ after = .clean before := by
  have found : findLog? before channel.id logId = some log := findLog?_iff.mpr ⟨listed, here⟩
  have busy {channel' : Channel} {log' : Log} : ¬ Pending before channelId logId channel' log' := by
    intro pending
    obtain ⟨rfl, rfl⟩ := pending.found known found
    exact decided pending.hidden
  cases approve_cases run answered with
  | unreached pending | undated pending | approved pending => exact absurd pending busy
  | refused refused here =>
    rcases refused.cause known found with ⟨-, rfl⟩ | ⟨hidden, -⟩
    · exact ⟨rfl, here, rfl⟩
    · exact absurd hidden decided

/-! ## Own entries -/

/-- Moderation leaves own entries, and an approval does. -/
theorem moderate_keeps_own {case : Case} {outcome : Except Failure (List Log)} {session : Session}
    (short : Text.IsShort case.user.fid) (own : ∀ log ∈ before.logs, log.IsOwn)
    (run : Runs (moderate deployment case) transcript outcome) (served : Served (.clean before) transcript session) :
    ∀ log ∈ session.committed.logs, log.IsOwn := by
  intro log listed
  have frames : Frames case (case.outside before) (.clean before) := ⟨rfl, rfl⟩
  have kept := (moderate_spares deployment case before rfl run served frames).committed
  by_cases mine : case.owns log.channelId log.fid = true
  · exact ⟨case.user.fid, (Case.owns_iff.mp mine).2, short⟩
  · have outside : log ∈ (case.outside session.committed).logs := List.mem_filter.mpr ⟨listed, by simpa using mine⟩
    rw [kept] at outside
    exact own log (List.mem_filter.mp outside).1

theorem approve_keeps_own {outcome : Except Failure Log} (own : ∀ log ∈ before.logs, log.IsOwn)
    (run : Runs (approve deployment channelId logId actor) transcript outcome)
    (answered : Answered (.clean before) transcript after) : ∀ log ∈ after.committed.logs, log.IsOwn := by
  cases approve_cases run answered with
  | refused | unreached | undated => exact own
  | @approved channel log fid called time pending read returned =>
    obtain ⟨front, back, whole, written⟩ := pending.in_place actor time
    rw [whole] at own
    intro entry listed
    have listed : entry ∈ front ++ log.approved actor time :: back := by
      rw [Session.clean, written] at listed
      exact listed
    rcases List.mem_append.mp listed with earlier | here
    · exact own entry (List.mem_append_left _ earlier)
    · rcases List.mem_cons.mp here with rfl | later
      · exact own log (List.mem_append_right _ (.head _))
      · exact own entry (List.mem_append_right _ (.tail _ later))

/-! ## Approvals on the network -/

/-- An entry waits, and the one call that it needs returns: it is about the user whose fid the entry
holds, or about the cast. -/
structure LetsIn (deployment : Deployment) (before : Tables) (channelId logId : String) (transcript : Transcript)
    (channel : Channel) (log : Log) : Prop where
  pending : Pending before channelId logId channel log
  called : ∃ fid called rest, (Json.str log.fid).toWhole = .ok fid ∧
    transcript = [⟨.tables, before⟩, ⟨.tables, before⟩] ++ (called ++ rest) ∧
    Runs (ofFetch (admission deployment.directory channel.id log fid)) called (.ok ())

section Network

variable {outcome : Except Failure Log}

theorem Pending.mem (pending : Pending tables channelId logId channel log) : log ∈ tables.logs :=
  List.mem_of_find?_eq_some (findLog?_iff.mp pending.listed).1

/-- The fid that is read from an own entry is the one it was written with. -/
theorem Pending.written {fid : Int} (pending : Pending tables channelId logId channel log)
    (own : ∀ log ∈ tables.logs, log.IsOwn) (read : (Json.str log.fid).toWhole = .ok fid) :
    log.fid = toString fid := by
  obtain ⟨fid', same, read'⟩ := own_read (own log pending.mem)
  rw [read'] at read
  cases read
  exact same

theorem onNetwork_executes (executes : deployment.executes = true) (call : Remote.Fetch Unit) :
    onNetwork deployment call = ofFetch call := by
  rw [onNetwork, if_pos executes]

private theorem sent_looked (rest : Transcript) :
    sent ([⟨.tables, before⟩, ⟨.tables, before⟩] ++ rest) = sent rest := rfl

/-- As long as the clock tells the time, an approval returns exactly if it lets someone in. -/
theorem Approves.returns_iff (approves : Approves deployment channelId logId actor before transcript outcome after)
    (executes : deployment.executes = true) (own : ∀ log ∈ before.logs, log.IsOwn)
    (dated : ⟨.clock, none⟩ ∉ transcript) :
    (∃ approved, outcome = .ok approved) ↔
      ∃ channel log, LetsIn deployment before channelId logId transcript channel log := by
  cases approves with
  | @refused _ failure refused _ =>
    constructor
    · rintro ⟨_, same⟩
      cases same
    · rintro ⟨channel, log, pending, -⟩
      exact absurd pending (refused.not_pending (own log pending.mem))
  | @unreached channel log fid called failure pending read failed =>
    rw [onNetwork_executes executes] at failed
    constructor
    · rintro ⟨_, same⟩
      cases same
    · rintro ⟨channel', log', pending', fid', called', rest, read', whole, returned⟩
      obtain ⟨rfl, rfl⟩ := pending.found pending'.known pending'.listed
      rw [read] at read'
      cases read'
      have whole : called ++ [] = called' ++ rest := by
        rw [List.append_nil]
        exact List.append_cancel_left whole
      cases (failed.same returned whole).2
  | undated => exact absurd (by simp) dated
  | @approved channel log fid called time pending read returned =>
    rw [onNetwork_executes executes] at returned
    exact ⟨fun _ => ⟨channel, log, pending, fid, called, _, read, rfl, returned⟩, fun _ => ⟨_, rfl⟩⟩

/-- An approval that returns has written the entry that waited, after the one call for it. -/
theorem Approves.returned {approved : Log}
    (approves : Approves deployment channelId logId actor before transcript (.ok approved) after)
    (executes : deployment.executes = true) (own : ∀ log ∈ before.logs, log.IsOwn) :
    ∃ channel log fid time front back, Pending before channelId logId channel log ∧ log.fid = toString fid ∧
      sent transcript = [admissionRequest deployment.directory channel.id log fid] ∧
      approved = log.approved actor time ∧ before.logs = front ++ log :: back ∧
      after = .clean { before with logs := front ++ approved :: back } ∧
      after.committed.log? logId = some approved := by
  cases approves with
  | @approved channel log fid called time pending read returned =>
  rw [onNetwork_executes executes] at returned
  obtain ⟨front, back, whole, placed⟩ := pending.in_place actor time
  refine ⟨channel, log, fid, time, front, back, pending, pending.written own read, ?_, rfl, whole, ?_, ?_⟩
  · have nothing_more : sent [⟨.clock, some time⟩, ⟨.write (.updateLog (log.approved actor time)), .ok ()⟩,
        ⟨.commit, ()⟩] = [] := rfl
    rw [sent_looked, sent_append, nothing_more, List.append_nil]
    rcases Sends.admission deployment.directory channel.id log fid returned with once | ⟨-, _, same⟩
    · exact once
    · cases same
  · rw [placed]
  · show ((Change.updateLog (log.approved actor time)).apply before).log? logId = _
    rw [Store.log?_updated]
    exact if_pos pending.id

/-- An approval that fails has changed nothing, and has called nobody unless something waited. -/
theorem Approves.failed {failure : Failure}
    (approves : Approves deployment channelId logId actor before transcript (.error failure) after)
    (executes : deployment.executes = true) (own : ∀ log ∈ before.logs, log.IsOwn)
    (dated : ⟨.clock, none⟩ ∉ transcript) :
    after = .clean before ∧
      ((¬ ∃ channel log, Pending before channelId logId channel log) → IsLocal transcript) ∧
      (sent transcript = [] ∨ ∃ channel log fid, Pending before channelId logId channel log ∧
        log.fid = toString fid ∧
        sent transcript = [admissionRequest deployment.directory channel.id log fid]) := by
  cases approves with
  | refused _ here => exact ⟨rfl, fun _ => here, .inl here.sent⟩
  | @unreached channel log fid called _ pending read failed =>
    rw [onNetwork_executes executes] at failed
    refine ⟨rfl, fun nothing => absurd ⟨channel, log, pending⟩ nothing, ?_⟩
    rw [sent_looked]
    rcases Sends.admission deployment.directory channel.id log fid failed with once | ⟨never, -⟩
    · exact .inr ⟨channel, log, fid, pending, pending.written own read, once⟩
    · exact .inl never
  | undated => exact absurd (by simp) dated

/-- An approved entry is not approved again, whatever happened since. -/
theorem Later.approve_again {approved : Log} {later : Tables} {again : Channel} {last : Session}
    (passed : Later logId before later) (listed : before.log? logId = some approved)
    (decided : approved.action = Action.like.name) (known : later.configuration? channelId = .ok (some again))
    (here : approved.channelId = again.id) (run : Runs (approve deployment channelId logId actor) transcript outcome)
    (answered : Answered (.clean later) transcript last) :
    outcome = .error (.action (.notPending Action.like.name)) ∧ IsLocal transcript ∧ last = .clean later := by
  have stands_firm : approved.action ≠ Action.hideQuietly.name := by
    rw [decided]
    decide
  have again := approve_decided run answered known (passed.spares listed stands_firm) here stands_firm
  rwa [decided] at again

end Network

/-- An approval returns exactly when an entry of the channel waits under the id and the one call
that it needs returns. It leaves the approved entry in the place of the other and all else as it was,
and whatever happens then, the entry is not approved again and nobody is called about it. An
approval that fails has changed nothing, and where nothing waits it has called nobody. -/
theorem approval_lets_in_once (executes : deployment.executes = true) (own : ∀ log ∈ before.logs, log.IsOwn)
    {outcome : Except Failure Log} (run : Runs (approve deployment channelId logId actor) transcript outcome)
    (answered : Answered (.clean before) transcript after) (dated : ⟨.clock, none⟩ ∉ transcript) :
    ((∃ approved, outcome = .ok approved) ↔
      ∃ channel log, LetsIn deployment before channelId logId transcript channel log) ∧
    (∀ approved, outcome = .ok approved → ∃ channel log fid time front back,
      Pending before channelId logId channel log ∧ log.fid = toString fid ∧
      sent transcript = [admissionRequest deployment.directory channel.id log fid] ∧
      approved = log.approved actor time ∧ before.logs = front ++ log :: back ∧
      after = .clean { before with logs := front ++ approved :: back } ∧
      ∀ later, Later logId after.committed later →
        ∀ (deployment : Deployment) (channelId actor : String) (again : Channel) (transcript : Transcript)
          (outcome : Except Failure Log) (last : Session),
          later.configuration? channelId = .ok (some again) → again.id = channel.id →
          Runs (approve deployment channelId logId actor) transcript outcome →
          Answered (.clean later) transcript last →
          outcome = .error (.action (.notPending Action.like.name)) ∧ IsLocal transcript ∧ last = .clean later) ∧
    ∀ failure, outcome = .error failure → after = .clean before ∧
      ((¬ ∃ channel log, Pending before channelId logId channel log) → IsLocal transcript) ∧
      (sent transcript = [] ∨ ∃ channel log fid, Pending before channelId logId channel log ∧
        log.fid = toString fid ∧
        sent transcript = [admissionRequest deployment.directory channel.id log fid]) := by
  have approves := approve_cases run answered
  refine ⟨approves.returns_iff executes own dated, ?_, ?_⟩
  · rintro _ rfl
    obtain ⟨channel, log, fid, time, front, back, pending, written, called, rfl, whole, rfl, listed⟩ :=
      approves.returned executes own
    refine ⟨channel, log, fid, time, front, back, pending, written, called, rfl, whole, rfl, ?_⟩
    intro later passed deployment channelId' actor' again transcript outcome last known same run answered
    have here := (findLog?_iff.mp pending.listed).2.trans same.symm
    exact passed.approve_again listed rfl known here run answered
  · rintro failure rfl
    exact approves.failed executes own dated

/-- A cast that was quietly hidden. -/
def hiddenCast : Log :=
  { id := "1", channelId := "c", action := "hideQuietly", actor := Log.systemActor, reason := "", fid := "7"
    username := "ann", avatarUrl := none, castHash := "a", castText := "gm", rule := "\x7b\x7d"
    createdAt := .epoch, updatedAt := .epoch }

/-- It is approved once, with one call that shows it again. -/
theorem hidden_cast_is_shown_again :
    let deployment : Deployment := ⟨default, ⟨[], .nil⟩, true, 60, 1⟩
    let hidden : Tables := { Intake.bareTables with logs := [hiddenCast] }
    let shown : Tables := { hidden with logs := [hiddenCast.approved "bob" .epoch] }
    (∀ log ∈ hidden.logs, log.IsOwn) ∧
      ∃ transcript, Runs (approve deployment "C" "1" "bob") transcript (.ok (hiddenCast.approved "bob" .epoch)) ∧
        Answered (.clean hidden) transcript (.clean shown) ∧ ⟨.clock, none⟩ ∉ transcript ∧
        sent transcript = [unhideRequest deployment.directory "a"] ∧
        ∀ (actor : String) (transcript : Transcript) (outcome : Except Failure Log) (last : Session),
          Runs (approve deployment "c" "1" actor) transcript outcome → Answered (.clean shown) transcript last →
          outcome = .error (.action (.notPending "like")) ∧ IsLocal transcript ∧ last = .clean shown := by
  intro deployment hidden shown
  have own : ∀ log ∈ hidden.logs, log.IsOwn := by
    intro log listed
    cases List.mem_singleton.mp listed
    exact ⟨7, by decide, by decide⟩
  let request := unhideRequest deployment.directory "a"
  let transcript : Transcript := [⟨.tables, hidden⟩, ⟨.tables, hidden⟩,
    ⟨.remote (.isHeldBack deployment.directory.channels.name), false⟩,
    ⟨.remote (.send request), .answered ⟨200, "\x7b\x7d"⟩⟩,
    ⟨.remote (.report deployment.directory.channels.name true), ()⟩, ⟨.clock, some .epoch⟩,
    ⟨.write (.updateLog (hiddenCast.approved "bob" .epoch)), .ok ()⟩, ⟨.commit, ()⟩]
  have run : Runs (approve deployment "C" "1" "bob") transcript (.ok (hiddenCast.approved "bob" .epoch)) :=
    .ask _ (.ask _ (.ask _ (.ask _ (.ask _ (.ask _ (.ask _ (.ask _ (.done _))))))))
  have answered : Answered (.clean hidden) transcript (.clean shown) :=
    .cons ⟨rfl, rfl⟩ (.cons ⟨rfl, rfl⟩ (.cons rfl (.cons rfl (.cons rfl (.cons rfl (.cons rfl (.cons rfl
      (.nil _))))))))
  have dated : ⟨.clock, none⟩ ∉ transcript := by
    intro listed
    simp only [transcript, List.mem_cons, List.not_mem_nil, or_false] at listed
    rcases listed with other | other | other | other | other | other | other | other
    all_goals cases other
  obtain ⟨-, once, -⟩ := approval_lets_in_once rfl own run answered dated
  obtain ⟨channel, log, fid, time, front, back, pending, -, -, -, -, -, later⟩ := once _ rfl
  refine ⟨own, transcript, run, answered, dated, rfl, ?_⟩
  intro actor again outcome last run answered
  obtain ⟨known, listed, -⟩ := pending
  exact later shown .now deployment "c" actor channel again outcome last known rfl run answered

end Moderation

end Curation
