import Curation.Proofs.Moderation.Approval
import Curation.Proofs.Moderation.Units
import Curation.Proofs.Rehearsal.Untouched

/-! Invitations for requests to join. Of all that a request to join does, only a like
invites. So what the user is told of a like tells of an invitation that went out, and
what goes wrong after one is told as if nothing had happened. -/
namespace Curation.Moderation

open Program (Asks Runs ok_of_toOption runs_bind runs_bind_ok runs_question runs_recover)
open Rehearsal (IsHarmless)

variable {α : Type} {deployment : Deployment} {case : Case} {channel : Channel} {fid : Int}
  {transcript : Transcript}

/-! ## Requests that were accepted -/

/-- A request was sent, and the answer to it is one of success. -/
def Accepted (request : Remote.Request) (transcript : Transcript) : Prop :=
  ∃ response value, ⟨.remote (.send request), .answered response⟩ ∈ transcript ∧
    response.status < 400 ∧ Json.read response.text = .ok value

variable {request : Remote.Request}

theorem accepted_append {before after : Transcript} :
    Accepted request (before ++ after) ↔ Accepted request before ∨ Accepted request after := by
  constructor
  · rintro ⟨response, value, member, success⟩
    rcases List.mem_append.mp member with first | later
    · exact .inl ⟨response, value, first, success⟩
    · exact .inr ⟨response, value, later, success⟩
  · rintro (⟨response, value, member, success⟩ | ⟨response, value, member, success⟩)
    · exact ⟨response, value, List.mem_append_left _ member, success⟩
    · exact ⟨response, value, List.mem_append_right _ member, success⟩

/-- What a program never sends is not accepted in its runs. -/
theorem not_accepted {program : Moderation α} {outcome : Except Failure α}
    (spares : Asks (· ≠ .remote (.send request)) program) (run : Runs program transcript outcome) :
    ¬ Accepted request transcript := by
  rintro ⟨response, value, member, -⟩
  exact spares.of_runs run _ member rfl

section Calls

variable {service : Remote.Service} {call : Remote.Call}

/-- The one answer to a request, which is returned unless it is the server's own failure. -/
private theorem request_answered {outcome : Except Failure Remote.Response}
    (run : Runs (ofFetch (service.request call)) transcript outcome) :
    (∃ response, outcome = .ok response ∧ ∀ other,
        ⟨.remote (.send (service.requestOf call)), .answered other⟩ ∈ transcript ↔ other = response) ∨
      (∃ failure, outcome = .error failure) ∧ ∀ other,
        ⟨.remote (.send (service.requestOf call)), .answered other⟩ ∈ transcript →
          500 ≤ other.status := by
  have told {reply : Remote.Reply} {success : Bool} (other : Remote.Response) :
      ⟨.remote (.send (service.requestOf call)), .answered other⟩ ∈
          ([⟨.remote (.isHeldBack service.name), false⟩,
            ⟨.remote (.send (service.requestOf call)), reply⟩,
            ⟨.remote (.report service.name success), ()⟩] : Transcript) ↔ reply = .answered other := by
    constructor
    · intro member
      simp only [List.mem_cons, List.not_mem_nil, or_false] at member
      rcases member with held | same | reported
      · cases held
      · cases same
        rfl
      · cases reported
    · rintro rfl
      exact .tail _ (.head _)
  cases run with
  | ask heldBack run =>
  cases heldBack with
  | true =>
    cases run
    exact .inr ⟨⟨_, rfl⟩, fun other member => by cases List.mem_singleton.mp member⟩
  | false =>
  cases run with
  | ask reply run =>
  cases reply with
  | timedOut | broken reason =>
    cases run with
    | ask _ run =>
      cases run
      refine .inr ⟨⟨_, rfl⟩, fun other member => ?_⟩
      cases (told other).mp member
  | answered response =>
    simp only [Program.bind] at run
    split at run
    · rename_i failing
      cases run with
      | ask _ run =>
        cases run
        refine .inr ⟨⟨_, rfl⟩, fun other member => ?_⟩
        cases (told other).mp member
        exact failing
    · cases run with
      | ask _ run =>
        cases run
        refine .inl ⟨response, rfl, fun other => (told other).trans ?_⟩
        exact ⟨fun same => by cases same; rfl, fun same => by rw [same]⟩

/-- The runs of one call after another, as those of the two. -/
private theorem runs_ofFetch_bind {β : Type} {first : Remote.Fetch α} {rest : α → Remote.Fetch β}
    {outcome : Except Failure β} :
    Runs (ofFetch (first.bind rest)) transcript outcome ↔
      Runs ((ofFetch first).bind fun value => ofFetch (rest value)) transcript outcome := by
  have parts : ofFetch (first.bind rest) = (ofFetch first).bind fun value => ofFetch (rest value) :=
    Program.within_bind Ask.remote fun _ answer => answer
  rw [parts]

/-- A call succeeds exactly if its request was accepted. -/
theorem json_accepted {outcome : Except Failure Json}
    (run : Runs (ofFetch (service.json call)) transcript outcome) :
    Accepted (service.requestOf call) transcript ↔ ∃ value, outcome = .ok value := by
  rcases runs_bind.mp (runs_ofFetch_bind.mp run) with
    ⟨failure, rfl, failed⟩ | ⟨before, response, after, rfl, returned, later⟩
  · refine iff_of_false ?_ (fun ⟨value, same⟩ => by cases same)
    rintro ⟨response, value, member, success, -⟩
    rcases request_answered failed with ⟨_, same, -⟩ | ⟨-, failing⟩
    · cases same
    · exact absurd (failing response member) (by omega)
  · rcases request_answered returned with ⟨_, same, only⟩ | ⟨⟨_, same⟩, -⟩
    swap
    · cases same
    cases same
    simp only at later
    split at later
    · rename_i refused
      cases later
      refine iff_of_false ?_ (fun ⟨value, same⟩ => by cases same)
      rintro ⟨other, value, member, success, -⟩
      rw [List.append_nil] at member
      obtain rfl := (only other).mp member
      omega
    · rename_i success
      split at later
      · rename_i value read
        cases later
        rw [List.append_nil]
        exact iff_of_true ⟨response, value, (only response).mpr rfl, by omega, read⟩ ⟨value, rfl⟩
      · rename_i fault unread
        cases later
        refine iff_of_false ?_ (fun ⟨value, same⟩ => by cases same)
        rintro ⟨other, value, member, -, read⟩
        rw [List.append_nil] at member
        obtain rfl := (only other).mp member
        rw [unread] at read
        cases read

end Calls

/-! ## Who is invited -/

section Inviting

theorem invite_accepted {directory : Remote.Directory} {channelId : String}
    {outcome : Except Failure Unit}
    (run : Runs (ofFetch (Remote.Channels.invite directory channelId fid)) transcript outcome) :
    Accepted (inviteRequest directory channelId fid) transcript ↔ outcome = .ok () := by
  rcases runs_bind.mp (runs_ofFetch_bind.mp run) with
    ⟨failure, rfl, failed⟩ | ⟨before, value, after, rfl, returned, later⟩
  · refine (json_accepted failed).trans ?_
    exact iff_of_false (fun ⟨_, same⟩ => by cases same) (fun same => by cases same)
  · cases later
    rw [List.append_nil]
    exact (json_accepted returned).trans (iff_of_true ⟨value, rfl⟩ rfl)

/-- The invitation that a case is about was accepted. -/
def Invited (deployment : Deployment) (case : Case) : Transcript → Prop :=
  Accepted (inviteRequest deployment.directory case.channel.id case.user.fid)

/-- A program that does not invite the user of a case. -/
abbrev SparesInvite (deployment : Deployment) (case : Case) : Moderation α → Prop :=
  Asks (· ≠ .remote (.send (inviteRequest deployment.directory case.channel.id case.user.fid)))

private theorem ban_spares : SparesInvite deployment case
    (ofFetch (Remote.Channels.ban deployment.directory case.channel.id case.user.fid)) := by
  refine Asks.within (Asks.mono ((deployment.directory.channels.json_asks _).bind fun _ => .done ()) ?_)
  intro ask carries same
  cases same
  have bodies := congrArg Remote.Request.body carries
  simp [inviteRequest, Remote.Service.requestOf] at bodies

/-- Of the actions about a user who asks to join only a like invites. -/
theorem carryOut_spares_invite {action : Action} (joins : case.cast = none) (other : action ≠ .like) :
    SparesInvite deployment case (carryOut deployment case action) := by
  refine carryOut_asks_calling ⟨nofun, nofun⟩ (fun call calls => ?_) (fun _ _ => nofun)
  have bans : call = Remote.Channels.ban deployment.directory case.channel.id case.user.fid := by
    cases action with
    | like => exact absurd rfl other
    | ban =>
      cases calls
      rfl
    | hideQuietly | unlike | warnAndHide | unhide => simp [callFor?, joins] at calls
    | bypass | mute | cooldown | cooldownEnded | unmuted | addToBypass | grantRole | downvote =>
      cases calls
  subst bans
  unfold onNetwork
  split
  · exact ban_spares
  · exact .done ()

/-- An action that succeeds has invited the user exactly if it is a like. -/
theorem carryOut_invites (executes : deployment.executes = true) (joins : case.cast = none)
    {action : Action} (run : Runs (carryOut deployment case action) transcript (.ok ())) :
    Invited deployment case transcript ↔ action = .like := by
  by_cases like : action = .like
  · subst like
    have invites : carryOut deployment case .like =
        ofFetch (Remote.Channels.invite deployment.directory case.channel.id case.user.fid) := by
      simp [carryOut, joins, onNetwork, executes]
    rw [invites] at run
    exact (invite_accepted run).trans (iff_of_true rfl rfl)
  · exact iff_of_false (not_accepted (carryOut_spares_invite joins like) run) like

theorem logAction_spares_invite (grounds : Grounds) (action : String) :
    SparesInvite deployment case (logAction case grounds action) :=
  logAction_asks_only ⟨nofun, nofun⟩ nofun (fun _ => nofun) nofun nofun case grounds action

/-- Actions that went through have invited the user exactly if there is a like among them. -/
theorem runActions_invite (executes : deployment.executes = true) (joins : case.cast = none)
    (real : case.simulation = false) {grounds : Grounds} {actions : List Action} {logs : List Log}
    (run : Runs (runActions deployment case grounds actions) transcript (.ok logs)) :
    Invited deployment case transcript ↔ .like ∈ actions := by
  induction actions generalizing transcript logs with
  | nil =>
    cases run
    refine iff_of_false ?_ List.not_mem_nil
    rintro ⟨_, _, member, -⟩
    cases member
  | cons action rest ih =>
    rw [runActions_cons] at run
    obtain ⟨_, log, _, rfl, acted, goes_on⟩ := runs_bind_ok.mp run
    obtain ⟨carrying, _, logging, rfl, performed, logged⟩ := runs_bind_ok.mp acted
    obtain ⟨later, others, _, rfl, remaining, ended⟩ := runs_bind_ok.mp goes_on
    cases ended
    have carried : Runs (carryOut deployment case action) carrying (.ok ()) := by
      rcases runs_perform real performed with ⟨-, carried⟩ | ⟨_, _, same, -⟩
      · exact carried
      · cases same
    have quiet : ¬ Invited deployment case logging :=
      not_accepted (logAction_spares_invite grounds action.name) logged
    have here := carryOut_invites executes joins carried
    have there := ih remaining
    unfold Invited at *
    rw [List.append_nil, accepted_append, accepted_append, here, there, List.mem_cons]
    constructor
    · rintro ((like | logged) | later)
      · exact .inl like.symm
      · exact absurd logged quiet
      · exact .inr later
    · rintro (like | later)
      · exact .inl (.inl like.symm)
      · exact .inr later

/-- What only reads invites nobody. -/
theorem harmless_not_invited {program : Moderation α} {outcome : Except Failure α}
    (harmless : Asks (IsHarmless case) program) (run : Runs program transcript outcome)
    (subject : Case) :
    ¬ Invited deployment subject transcript := by
  rintro ⟨response, value, member, -⟩
  cases harmless.of_runs run _ member

/-- A user who was decided was invited exactly if there is a like among the actions of the gate. -/
theorem moderate_invites (executes : deployment.executes = true) (joins : case.cast = none)
    (real : case.simulation = false) {logs : List Log}
    (run : Runs (moderate deployment case) transcript (.ok logs)) :
    ∃ (gate : Gate) (grounds : Grounds),
      List.Forall₂ (Enters case grounds) (gate.actions case) logs ∧
      (Invited deployment case transcript ↔ .like ∈ gate.actions case) := by
  obtain ⟨gate, grounds, seen, done_, rfl, judged, acted⟩ := runs_moderate_ok.mp run
  have entered := enact_enters acted
  have unseen : ¬ Invited deployment case seen :=
    harmless_not_invited (Rehearsal.IsHarmless.judge deployment case) judged case
  have enacts : enact deployment case gate grounds =
      runActions deployment case grounds (gate.actions case) := by
    simp [enact, joins]
  rw [enacts] at acted
  refine ⟨gate, grounds, entered, ?_⟩
  rw [← runActions_invite executes joins real acted]
  exact accepted_append.trans (or_iff_right unseen)

end Inviting

/-! ## What is told -/

/-- Asks who the user with a fid is. -/
def lookUp (deployment : Deployment) (fid : Int) : Moderation (Option User) :=
  ofFetch (Remote.Accounts.user? deployment.directory fid)

theorem lookUp_harmless (case : Case) : Asks (IsHarmless case) (lookUp deployment fid) :=
  Rehearsal.IsHarmless.fetch ((Remote.Accounts.bulkUsers_reads _ _ _).bind fun _ => .done _)

/-- A user who asks to join a channel. -/
def joining (channel : Channel) (user : User) : Case := ⟨channel, user, none, false⟩

/-- The ways in which a request to join a channel ends: it fails somewhere, nobody is found, or a user
is found and decided. -/
inductive Joins (deployment : Deployment) (channel : Channel) (fid : Int) :
    Transcript → JoinAnswer → Prop where
  | failed {transcript : Transcript} {failure : Failure} :
    Runs (decideJoin deployment channel fid) transcript (.error failure) →
    Joins deployment channel fid transcript { message := tryAgainLater }
  | unknown {transcript : Transcript} : Runs (lookUp deployment fid) transcript (.ok none) →
    Joins deployment channel fid transcript { message := s!"User {fid} not found" }
  | decided {before after : Transcript} {user : User} {logs : List Log} :
    Runs (lookUp deployment fid) before (.ok (some user)) →
    Runs (moderate deployment (joining channel user)) after (.ok logs) →
    Joins deployment channel fid (before ++ after) (joinAnswer logs)

/-- The answer of a request to join takes the place of whatever goes wrong in its decision. -/
theorem join_eq (channelId : String) :
    join deployment channelId fid =
      tables.bind fun tables => (Program.ofExcept (tables.configuration? channelId)).bind fun found =>
        match found with
        | none => .failed (.noChannel channelId)
        | some channel => (decideJoin deployment channel fid).recover fun _ =>
          .done { message := tryAgainLater } := by
  unfold join
  refine congrArg (Program.bind tables) (funext fun tables => ?_)
  refine congrArg (Program.bind _) (funext fun found => ?_)
  cases found with
  | none => rfl
  | some channel =>
    simp only
    generalize decideJoin deployment channel fid = decision
    induction decision with
    | done | failed => rfl
    | ask question next ih => exact congrArg (Program.ask question) (funext ih)

/-- A request to join a channel that is moderated is always answered, in one of these ways. -/
theorem join_cases {tables : Store.Tables} {channelId : String} {outcome : Except Failure JoinAnswer}
    (moderated : tables.configuration? channelId = .ok (some channel))
    (run : Runs (join deployment channelId fid) (⟨.tables, tables⟩ :: transcript) outcome) :
    ∃ answer, outcome = .ok answer ∧ Joins deployment channel fid transcript answer := by
  rw [join_eq] at run
  cases run with
  | ask _ run =>
  simp only [Program.bind, moderated, Program.ofExcept] at run
  rcases runs_recover.mp run with ⟨answer, rfl, decided⟩ | ⟨before, failure, after, rfl, failed, told⟩
  · refine ⟨answer, rfl, ?_⟩
    obtain ⟨before, found, after, rfl, looked_up, decided⟩ := runs_bind_ok.mp decided
    cases found with
    | none =>
      cases decided
      rw [List.append_nil]
      exact .unknown looked_up
    | some user =>
      obtain ⟨after, logs, _, rfl, moderated, told⟩ := runs_bind_ok.mp decided
      cases told
      rw [List.append_nil]
      exact .decided looked_up moderated
  · cases told
    rw [List.append_nil]
    exact ⟨_, rfl, .failed failed⟩

/-- What a decision returns is answered, and a failure by asking to try again. -/
theorem join_runs {tables : Store.Tables} {channelId : String} {outcome : Except Failure JoinAnswer}
    (moderated : tables.configuration? channelId = .ok (some channel))
    (run : Runs (decideJoin deployment channel fid) transcript outcome) :
    Runs (join deployment channelId fid) (⟨.tables, tables⟩ :: transcript)
      (.ok (outcome.toOption.getD { message := tryAgainLater })) := by
  have answered : Runs ((decideJoin deployment channel fid).recover fun _ =>
      (.done { message := tryAgainLater } : Moderation JoinAnswer)) transcript
      (.ok (outcome.toOption.getD { message := tryAgainLater })) := by
    cases outcome with
    | ok answer => exact runs_recover.mpr (.inl ⟨answer, rfl, run⟩)
    | error failure =>
      exact runs_recover.mpr (.inr ⟨transcript, failure, [], (List.append_nil _).symm, run, .done _⟩)
  rw [join_eq]
  have read : Runs Moderation.tables [⟨.tables, tables⟩] (.ok tables) :=
    runs_question.mpr ⟨tables, rfl, rfl⟩
  refine runs_bind.mpr (.inr ⟨_, tables, transcript, rfl, read, ?_⟩)
  simp only [moderated, Program.ofExcept, Program.bind]
  exact answered

theorem name_eq_like {action : Action} : action.name = Action.like.name ↔ action = .like := by
  cases action with
  | _ => simp [Action.name]

/-- A user is told of a like if that is the first action. -/
theorem joinAnswer_like {logs : List Log} {actions : List Action} {grounds : Grounds}
    (entered : List.Forall₂ (Enters case grounds) actions logs) :
    joinAnswer logs = ⟨inviteSent, some Action.like.name⟩ ↔ actions.head? = some .like := by
  cases entered with
  | nil => simp [joinAnswer]
  | @cons action log _ _ first _ =>
    obtain ⟨id, time, rfl⟩ := first
    have named : (entry case grounds action.name id time).action = action.name := rfl
    by_cases like : action = .like
    · subst like
      exact iff_of_true rfl rfl
    · have other : action.name ≠ Action.like.name := fun same => like (name_eq_like.mp same)
      simp [joinAnswer, named, other, like]

/-- With the network at work, a request to join a channel that is moderated is always answered, and a
user who is told of a like was invited. Where something fails, the user is asked to try again,
whether or not an invitation went out before. Where nothing fails, an unknown user is told so and
nobody is invited, and a known one was invited exactly if there is a like among the actions that
were carried out, and is told so exactly if it is the first of them. -/
theorem like_tells_of_an_invitation {deployment : Deployment} (executes : deployment.executes = true)
    {tables : Store.Tables} {channelId : String} {channel : Channel}
    (moderated : tables.configuration? channelId = .ok (some channel)) (fid : Int)
    {transcript : Transcript} {outcome : Except Failure JoinAnswer}
    (run : Runs (join deployment channelId fid) (⟨.tables, tables⟩ :: transcript) outcome) :
    ∃ answer, outcome = .ok answer ∧
      (answer = ⟨inviteSent, some Action.like.name⟩ → ∃ before after user,
        transcript = before ++ after ∧ Runs (lookUp deployment fid) before (.ok (some user)) ∧
          Invited deployment (joining channel user) transcript) ∧
      ((∃ failure, Runs (decideJoin deployment channel fid) transcript (.error failure) ∧
          answer = { message := tryAgainLater }) ∨
        (Runs (lookUp deployment fid) transcript (.ok none) ∧
          answer = { message := s!"User {fid} not found" } ∧
          ∀ user, ¬ Invited deployment (joining channel user) transcript) ∨
        ∃ before after user gate grounds logs, transcript = before ++ after ∧
          Runs (lookUp deployment fid) before (.ok (some user)) ∧
          Runs (moderate deployment (joining channel user)) after (.ok logs) ∧
          List.Forall₂ (Enters (joining channel user) grounds)
            (Gate.actions (joining channel user) gate) logs ∧
          (Invited deployment (joining channel user) transcript ↔
            .like ∈ Gate.actions (joining channel user) gate) ∧
          (answer = ⟨inviteSent, some Action.like.name⟩ ↔
            (Gate.actions (joining channel user) gate).head? = some .like)) := by
  obtain ⟨answer, rfl, joins⟩ := join_cases moderated run
  refine ⟨answer, rfl, ?_⟩
  have unseen {before : Transcript} {found : Option User}
      (looked_up : Runs (lookUp deployment fid) before (.ok found)) (user : User) :
      ¬ Invited deployment (joining channel user) before :=
    harmless_not_invited (lookUp_harmless (joining channel user)) looked_up _
  have no_like {message : String} :
      ({ message } : JoinAnswer) ≠ ⟨inviteSent, some Action.like.name⟩ := by
    intro same
    cases congrArg JoinAnswer.action same
  cases joins with
  | failed failed => exact ⟨fun told => absurd told no_like, .inl ⟨_, failed, rfl⟩⟩
  | unknown looked_up =>
    exact ⟨fun told => absurd told no_like, .inr (.inl ⟨looked_up, rfl, unseen looked_up⟩)⟩
  | @decided before after user logs looked_up decided =>
    obtain ⟨gate, grounds, entered, invites⟩ := moderate_invites executes rfl rfl decided
    have invites : Invited deployment (joining channel user) (before ++ after) ↔
        .like ∈ Gate.actions (joining channel user) gate := by
      rw [← invites]
      exact accepted_append.trans (or_iff_right (unseen looked_up user))
    refine ⟨fun told => ⟨before, after, user, rfl, looked_up, ?_⟩, .inr (.inr ?_)⟩
    · exact invites.mpr (List.mem_of_head? ((joinAnswer_like entered).mp told))
    · exact ⟨before, after, user, gate, grounds, logs, rfl, looked_up, decided, entered, invites,
        joinAnswer_like entered⟩

/-! ## A channel with a like and a role -/

section Witness

/-- Every call is answered with this text. -/
private def answering (text : String) : (ask : Remote.Ask) → Unit → Remote.Answer ask × Unit
  | .isHeldBack _, _ => (false, ())
  | .send _, _ => (.answered ⟨200, text⟩, ())
  | .report .., _ => ((), ())

private theorem call_runs {call : Remote.Fetch α} {value : α} (text : String)
    (returns : (call.run (answering text) ()).1.toOption = some value) :
    ∃ called, Runs (ofFetch call) called (.ok value) := by
  obtain ⟨exchanges, run⟩ := Program.runs_run (answering text) call ()
  obtain ⟨called, run, -⟩ := Intake.ofFetch_runs run ⟨{}, [], {}, 0⟩
  rw [ok_of_toOption returns] at run
  exact ⟨called, run⟩

/-- A channel that lets everyone in, and makes them hold a role. -/
def welcoming : Channel where
  id := "c"
  userId := "1"
  active := true
  banThreshold := none
  slowModeHours := 0
  bypassed := []
  excludeCohosts := false
  inclusion := ⟨none, .all, true, .condition ⟨"alwaysInclude", []⟩, [.like, .grantRole "vip"]⟩
  exclusion := .empty .hideQuietly

theorem welcoming_valid : welcoming.Valid where
  named := (by decide : "c" ≠ "")
  lowered := (by decide : Text.lower "c" = "c")
  hours := (by decide : (0 : Int) ≤ 0)
  inclusion := {
    rule := ⟨(by decide : "alwaysInclude" ≠ ""), List.nodup_nil, trivial⟩
    actions := List.cons_ne_nil _ _
    each := by simp [welcoming, show Action.Valid .like from trivial,
      show Action.Valid (.grantRole "vip") from (by decide : "vip" ≠ "")] }
  exclusion := RuleSet.empty_valid trivial
  includes := fun _ => rfl

/-- That channel is stored, with some roles. -/
def stored (roles : List Store.RoleRow) : Store.Tables :=
  { (Store.Change.channel (Store.ChannelRow.configured none welcoming .epoch)).apply {} with roles }

theorem stored_moderated (roles : List Store.RoleRow) :
    (stored roles).configuration? "c" = .ok (some welcoming) :=
  (saved_written welcoming_valid {} .epoch).found "c" (by decide)

/-- A deployment that is at work on the network. -/
private def working : Deployment := ⟨default, ⟨[], .nil⟩, true, 60, 1⟩

private def newcomer : Case := joining welcoming { fid := 8 }

private def welcome : Grounds := ⟨"Everything included by default", some welcoming.inclusion.rule⟩

private theorem newcomer_found :
    ∃ asked, Runs (lookUp working 8) asked (.ok (some newcomer.user)) :=
  call_runs "\x7b\"users\":[\x7b\"fid\":8\x7d]\x7d" (by decide +kernel)

/-- The newcomer is neither the owner nor excluded, so what is done about him is what the inclusion
rules do. -/
private theorem newcomer_included {later : Transcript} {outcome : Except Failure (List Log)}
    (acted : Runs (runActions working newcomer welcome welcoming.inclusion.actions) later outcome) :
    ∃ seen, Runs (moderate working newcomer) (seen ++ later) outcome := by
  have owner : ∃ asked, Runs (ofFetch (Remote.Channels.owner working.directory "c")) asked (.ok 7) :=
    call_runs Intake.ownerText (by decide +kernel)
  obtain ⟨asked, owner⟩ := owner
  have ordinary : Runs (bypassReason? working newcomer) asked (.ok none) :=
    runs_bind.mpr (.inr ⟨asked, 7, [], (List.append_nil _).symm, owner, .done none⟩)
  let passed : Decision := ⟨true, welcome.reason, welcoming.inclusion.rule⟩
  let evaluated : Transcript :=
    [⟨.evaluate newcomer welcoming.inclusion.rule .shortCircuit, .ok passed⟩]
  have included : Runs (applyRules working newcomer) (evaluated ++ later) outcome := by
    refine .ask _ ?_
    have last : (runActions working newcomer welcome welcoming.inclusion.actions).bind .done =
        runActions working newcomer welcome welcoming.inclusion.actions := Program.bind_done _
    rw [← last] at acted
    exact acted
  refine ⟨asked ++ evaluated, ?_⟩
  rw [List.append_assoc]
  exact runs_bind.mpr (.inr ⟨asked, none, _, rfl, ordinary, included⟩)

/-- An entry is written for an action. -/
private theorem newcomer_logged (action id : String) :
    ∃ logging log, Runs (logAction newcomer welcome action) logging (.ok log) ∧ log.action = action :=
  ⟨[⟨.newId, id⟩, ⟨.clock, some .epoch⟩,
    ⟨.write (.addLog (entry newcomer welcome action id Moment.epoch.stored)), .ok ()⟩,
    ⟨.commit, ()⟩], _,
    .ask _ (.ask _ (.ask _ (.ask _ (.done _)))), rfl⟩

/-- The like succeeds, and the newcomer is invited by it. -/
private theorem newcomer_liked :
    ∃ liking log, Runs (runAction working newcomer welcome .like) liking (.ok log) ∧
      log.action = Action.like.name ∧ Invited working newcomer liking := by
  have called : ∃ inviting,
      Runs (ofFetch (Remote.Channels.invite working.directory "c" 8)) inviting (.ok ()) :=
    call_runs "\x7b\x7d" (by decide +kernel)
  obtain ⟨inviting, called⟩ := called
  obtain ⟨logging, log, logged, named⟩ := newcomer_logged Action.like.name "1"
  have performed : Runs (perform working newcomer .like) inviting (.ok ()) :=
    runs_recover.mpr (.inl ⟨(), rfl, called⟩)
  refine ⟨inviting ++ logging, log, runs_bind.mpr (.inr ⟨_, _, _, rfl, performed, logged⟩), named, ?_⟩
  exact accepted_append.mpr (.inl ((invite_accepted called).mpr rfl))

/-- The channel has no such role, so the request ends in a failure: the newcomer is asked to try again,
and was invited. -/
theorem invited_and_asked_to_try_again :
    let deployment : Deployment := ⟨default, ⟨[], .nil⟩, true, 60, 1⟩
    let tables := stored []
    deployment.executes = true ∧ tables.configuration? "c" = .ok (some welcoming) ∧
      ∃ transcript answer, Runs (join deployment "c" 8) (⟨.tables, tables⟩ :: transcript) (.ok answer) ∧
        Accepted (inviteRequest deployment.directory "c" 8) transcript ∧
        answer.message ≠ inviteSent := by
  intro deployment tables
  obtain ⟨asked, found⟩ := newcomer_found
  obtain ⟨liking, log, liked, -, invited⟩ := newcomer_liked
  let failing : Transcript := [⟨.tables, tables⟩, ⟨.rollback, ()⟩]
  have granted : Runs (runAction working newcomer welcome (.grantRole "vip")) failing
      (.error (.action (.noRole "vip" "c"))) := .ask _ (.ask _ (.failed _))
  have acted : Runs (runActions working newcomer welcome welcoming.inclusion.actions)
      (liking ++ failing) (.error (.action (.noRole "vip" "c"))) := by
    change Runs (runActions working newcomer welcome [.like, .grantRole "vip"]) _ _
    rw [runActions_cons, runActions_cons]
    exact runs_bind.mpr (.inr ⟨liking, log, _, rfl, liked,
      runs_bind.mpr (.inl ⟨_, rfl, runs_bind.mpr (.inl ⟨_, rfl, granted⟩)⟩)⟩)
  obtain ⟨seen, moderated⟩ := newcomer_included acted
  have decided : Runs (decideJoin working welcoming 8) (asked ++ (seen ++ (liking ++ failing)))
      (.error (.action (.noRole "vip" "c"))) :=
    runs_bind.mpr (.inr ⟨_, _, _, rfl, found, runs_bind.mpr (.inl ⟨_, rfl, moderated⟩)⟩)
  refine ⟨rfl, stored_moderated [], _, _, join_runs (stored_moderated []) decided, ?_, by decide⟩
  exact accepted_append.mpr (.inr (accepted_append.mpr (.inr (accepted_append.mpr (.inl invited)))))

/-- Where the role exists, the newcomer is told of the invitation that went out. -/
theorem newcomer_is_told_of_the_invitation :
    let deployment : Deployment := ⟨default, ⟨[], .nil⟩, true, 60, 1⟩
    let tables := stored [⟨1, "c", "vip", false⟩]
    deployment.executes = true ∧ tables.configuration? "c" = .ok (some welcoming) ∧
      ∃ transcript, Runs (join deployment "c" 8) (⟨.tables, tables⟩ :: transcript)
          (.ok ⟨inviteSent, some "like"⟩) ∧
        ∃ before after user, transcript = before ++ after ∧
          Runs (lookUp deployment 8) before (.ok (some user)) ∧
          Invited deployment (joining welcoming user) transcript := by
  intro deployment tables
  obtain ⟨asked, found⟩ := newcomer_found
  obtain ⟨liking, log, liked, named, -⟩ := newcomer_liked
  obtain ⟨logging, log', logged, -⟩ := newcomer_logged "grantRole" "2"
  let granting : Transcript := [⟨.tables, tables⟩,
    ⟨.write (.delegate (Store.grant ⟨1, "c", "vip", false⟩ 8 "" none)), .ok ()⟩]
  have performed : Runs (perform working newcomer (.grantRole "vip")) granting (.ok ()) :=
    .ask _ (.ask _ (.done ()))
  have granted : Runs (runAction working newcomer welcome (.grantRole "vip")) (granting ++ logging)
      (.ok log') := runs_bind.mpr (.inr ⟨_, _, _, rfl, performed, logged⟩)
  have acted : Runs (runActions working newcomer welcome welcoming.inclusion.actions)
      (liking ++ ((granting ++ logging) ++ [])) (.ok [log, log']) := by
    change Runs (runActions working newcomer welcome [.like, .grantRole "vip"]) _ _
    rw [runActions_cons, runActions_cons]
    refine runs_bind.mpr (.inr ⟨liking, log, _, rfl, liked, ?_⟩)
    have rest : Runs ((runAction working newcomer welcome (.grantRole "vip")).bind fun log =>
        (runActions working newcomer welcome []).bind fun logs => .done (log :: logs))
        ((granting ++ logging) ++ []) (.ok [log']) :=
      runs_bind.mpr (.inr ⟨_, log', [], rfl, granted, .done _⟩)
    exact runs_bind.mpr (.inr ⟨_, [log'], [], (List.append_nil _).symm, rest, .done _⟩)
  obtain ⟨seen, moderated⟩ := newcomer_included acted
  have decided : Runs (decideJoin working welcoming 8) (asked ++ (seen ++ (liking ++ _) ++ []))
      (.ok (joinAnswer [log, log'])) :=
    runs_bind.mpr (.inr ⟨_, _, _, rfl, found, runs_bind.mpr (.inr ⟨_, _, [], rfl, moderated, .done _⟩)⟩)
  have told : joinAnswer [log, log'] = ⟨inviteSent, some "like"⟩ := by
    simp only [joinAnswer, named]
    rfl
  rw [told] at decided
  have moderated := stored_moderated [⟨1, "c", "vip", false⟩]
  have run := join_runs moderated decided
  obtain ⟨answer, same, only_if, -⟩ := like_tells_of_an_invitation rfl moderated 8 run
  cases same
  exact ⟨rfl, moderated, _, run, only_if rfl⟩

end Witness

end Curation.Moderation
