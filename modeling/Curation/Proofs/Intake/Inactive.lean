import Curation.Proofs.Intake.Guises
import Curation.Proofs.Rehearsal.Serving

/-! Channels that are switched off. Casts are looked at after the flag and then only recorded as
ignored. Requests to join are not: they are decided as if the channel were on. -/
namespace Curation

namespace Store

/-- The channels of a store and their flags. -/
def Tables.flags (tables : Tables) : List (String × Bool) :=
  tables.channels.map fun row => (row.id, row.active)

/-- A channel is stored, and its flag is off. -/
structure Tables.IsOff (tables : Tables) (key : String) : Prop where
  stored : ∃ row ∈ tables.channels, row.id = key
  off : ∀ row ∈ tables.channels, row.id = key → row.active = false

variable {tables other : Tables} {key : String}

theorem Tables.IsOff.of_flags (same : other.flags = tables.flags) (off : tables.IsOff key) :
    other.IsOff key where
  stored := by
    obtain ⟨row, listed, own⟩ := off.stored
    have flag : (row.id, row.active) ∈ other.flags := same ▸ List.mem_map_of_mem listed
    obtain ⟨row', listed', shown⟩ := List.mem_map.mp flag
    exact ⟨row', listed', (congrArg Prod.fst shown).trans own⟩
  off row listed own := by
    have flag : (row.id, row.active) ∈ tables.flags := same ▸ List.mem_map_of_mem listed
    obtain ⟨row', listed', shown⟩ := List.mem_map.mp flag
    have inactive := off.off row' listed' ((congrArg Prod.fst shown).trans own)
    exact (congrArg Prod.snd shown).symm.trans inactive

theorem Tables.IsOff.found (off : tables.IsOff key) :
    ∃ row, tables.channel? key = some row ∧ row.id = key ∧ row.active = false := by
  obtain ⟨row, listed, own⟩ := off.stored
  have found : (tables.channel? key).isSome := List.find?_isSome.mpr ⟨row, listed, beq_iff_eq.mpr own⟩
  obtain ⟨first, found⟩ := Option.isSome_iff_exists.mp found
  have own := channel?_key found
  exact ⟨first, found, own, off.off first (List.mem_of_find?_eq_some found) own⟩

end Store

namespace Intake

open Moderation
open Program (Asks Runs runs_bind runs_done runs_ofExcept runs_recover answered_append)
open Store (CastRow Change Session Tables)

variable {deployment : Deployment} {key : String} {channel : Channel} {cast : Cast} {event : Event}
  {transcript : Transcript} {before : Tables} {session : Session}

/-! ## Casts -/

/-- What is asked about a cast that is ignored: the tables, the clock, and to keep a row that says so. -/
def IsIgnoring : Ask → Prop
  | .tables | .clock | .commit => True
  | .write (.cast row) => row.status = Store.ignored
  | _ => False

/-- Nothing is left of a cast but a row that says that it was ignored. -/
def LeavesIgnored (before after : Tables) : Prop :=
  ∃ row : CastRow, row.status = Store.ignored ∧ after = (Change.cast row).apply before

theorem recordIgnored_asks (channel : Channel) (cast : Cast) (data : Json) :
    Asks IsIgnoring (recordCast channel cast Store.ignored data) := by
  refine .ask trivial fun tables => (now_asks trivial).bind fun time => ?_
  exact (write_asks (Store.recordCast_status ..)).bind fun _ => .ask trivial .done

theorem recordIgnored_served {data : Json} {outcome : Except Failure Unit}
    (run : Runs (recordCast channel cast Store.ignored data) transcript outcome)
    (served : Served (.clean before) transcript session) :
    (outcome = .ok () ∧ LeavesIgnored before session.committed) ∨
      (∃ failure, outcome = .error failure) ∧ session.committed = before := by
  cases run with
  | ask tables run =>
  cases served with
  | cons looks served =>
  obtain ⟨shown, rfl⟩ := looks
  obtain rfl : before = tables := shown.symm
  cases run with
  | ask time run =>
  cases served with
  | @cons _ middle _ _ _ _ clocked served =>
  obtain rfl : middle = .clean before := clocked
  cases time with
  | none =>
    cases run
    cases served
    exact .inr ⟨⟨_, rfl⟩, rfl⟩
  | some time =>
  cases run with
  | ask written run =>
  cases served with
  | @cons _ middle _ _ _ _ wrote served =>
  let row := Store.recordCast before time cast.hash channel.id cast.author.fid Store.ignored data
  have wrote : (written, middle) = (Session.clean before).write (.cast row) := wrote
  unfold Session.write at wrote
  split at wrote
  · cases wrote
    cases run
    cases served
    exact .inr ⟨⟨_, rfl⟩, rfl⟩
  · cases wrote
    cases run with
    | ask _ run =>
    cases run
    cases served with
    | cons committed served =>
    cases served
    obtain rfl := committed
    exact .inl ⟨rfl, row, Store.recordCast_status .., rfl⟩

/-- A channel that is off is known as such, or cannot be read. -/
theorem configuration?_off (off : before.IsOff key) (lowered : Text.lower key = key) :
    (∃ failure, before.configuration? key = .error failure) ∨
      ∃ channel, before.configuration? key = .ok (some channel) ∧ channel.active = false ∧
        channel.id = key := by
  obtain ⟨row, found, own, inactive⟩ := off.found
  have known : before.configuration? key = some <$> row.channel := by
    simp only [Tables.configuration?, Tables.channelRow?, lowered, found]
  cases read : row.channel with
  | error failure =>
    rw [read] at known
    exact .inl ⟨failure, known⟩
  | ok channel =>
    rw [read] at known
    refine .inr ⟨channel, known, (Store.ChannelRow.channel_active read).trans inactive, ?_⟩
    rw [Store.ChannelRow.channel_id read, own, lowered]

/-- The name that an event gives to its channel is in lower case. -/
theorem channel?_lowered (named : event.channel? = some key) : Text.lower key = key := by
  unfold Event.channel? at named
  split at named
  · split at named
    · split at named
      · cases named
      · cases named
        exact Text.lower_lower _
    · cases named
  · cases named

/-- What becomes of a cast that comes to a channel that is off. -/
structure Ignores (key : String) (before : Tables) (transcript : Transcript)
    (outcome : Except Failure String) (after : Tables) : Prop where
  asks : ∀ exchange ∈ transcript, IsIgnoring exchange.1
  leaves : after = before ∨
    outcome = .ok s!"Channel {key} is not active" ∧ LeavesIgnored before after

namespace Ignores

variable {outcome : Except Failure String} {after : Tables}

theorem flags (ignores : Ignores key before transcript outcome after) : after.flags = before.flags := by
  rcases ignores.leaves with rfl | ⟨-, row, -, rfl⟩
  · rfl
  · rfl

theorem shown (ignores : Ignores key before transcript outcome after) (guise : Guise) :
    guise.tables after = guise.tables before := by
  rcases ignores.leaves with rfl | ⟨-, row, -, rfl⟩
  · rfl
  · exact Guise.tables_cast row before

end Ignores

theorem takeInto_off (inactive : channel.active = false) {outcome : Except Failure String}
    (run : Runs (takeInto deployment channel cast) transcript outcome)
    (served : Served (.clean before) transcript session) :
    Ignores channel.id before transcript outcome session.committed := by
  simp only [takeInto, inactive, Bool.not_false, if_true] at run
  have asks := (recordIgnored_asks channel cast (.obj [])).bind fun _ =>
    (.done s!"Channel {channel.id} is not active" : Asks IsIgnoring _)
  refine ⟨asks.of_runs run, ?_⟩
  rcases runs_bind.mp run with ⟨_, rfl, failed⟩ | ⟨_, _, _, rfl, recorded, ended⟩
  · rcases recordIgnored_served failed served with ⟨same, -⟩ | ⟨-, kept⟩
    · cases same
    · exact .inl kept
  · obtain ⟨rfl, rfl⟩ := runs_done.mp ended
    rw [List.append_nil] at served
    rcases recordIgnored_served recorded served with ⟨-, left⟩ | ⟨-, kept⟩
    · exact .inr ⟨rfl, left⟩
    · exact .inl kept

/-- A cast that comes in goes to its channel, if that is moderated. -/
theorem Brings.takeIn_eq {channelId : String} (brings : Brings event channelId cast) :
    takeIn deployment event =
      tables.bind fun tables => (Program.ofExcept (tables.configuration? channelId)).bind fun found =>
        match found with
        | none => .done s!"Channel {channelId} is not moderated"
        | some channel => takeInto deployment channel cast := by
  simp only [takeIn, brings.created, brings.named, brings.read, brings.root, ne_eq, not_true, if_false,
    Bool.false_eq_true]
  rfl

/-- A cast that comes to a channel that is off can be recorded at any time. -/
theorem Brings.takeIn_ignores {channelId : String} {time : Moment} {row : CastRow}
    (brings : Brings event channelId cast) (known : before.configuration? channelId = .ok (some channel))
    (inactive : channel.active = false)
    (shape : Store.recordCast before time cast.hash channel.id cast.author.fid Store.ignored (.obj []) =
      row) :
    Runs (takeIn deployment event)
      [⟨.tables, before⟩, ⟨.tables, before⟩, ⟨.clock, some time⟩, ⟨.write (.cast row), .ok ()⟩,
        ⟨.commit, ()⟩]
      (.ok s!"Channel {channel.id} is not active") := by
  subst shape
  rw [brings.takeIn_eq]
  refine .ask _ ?_
  simp only [Program.bind, known]
  show Runs (takeInto deployment channel cast) _ _
  simp only [takeInto, inactive, Bool.not_false, if_true]
  exact .ask _ (.ask _ (.ask _ (.ask _ (.done _))))

/-- Whatever is delivered to a channel that is off, nothing is moderated. -/
theorem takeIn_off (off : before.IsOff key) (named : event.channel? = some key)
    {outcome : Except Failure String} (run : Runs (takeIn deployment event) transcript outcome)
    (served : Served (.clean before) transcript session) :
    Ignores key before transcript outcome session.committed := by
  rcases admitEvent_cases event with ⟨text, admitted⟩ | ⟨fault, admitted⟩ | ⟨channelId, cast, brings⟩
  · rw [takeIn_eq, admitted] at run
    cases run
    cases served
    exact ⟨List.forall_mem_nil _, .inl rfl⟩
  · rw [takeIn_eq, admitted] at run
    cases run
    cases served
    exact ⟨List.forall_mem_nil _, .inl rfl⟩
  obtain rfl : channelId = key := Option.some.inj (brings.named.symm.trans named)
  rw [brings.takeIn_eq] at run
  cases run with
  | ask tables run =>
  cases served with
  | cons looks served =>
  obtain ⟨shown, rfl⟩ := looks
  obtain rfl : before = tables := shown.symm
  simp only [Program.bind] at run
  rcases configuration?_off off (channel?_lowered named) with
    ⟨failure, unread⟩ | ⟨channel, known, inactive, rfl⟩
  · rw [unread] at run
    cases run
    cases served
    exact ⟨List.forall_mem_singleton.mpr trivial, .inl rfl⟩
  · rw [known] at run
    obtain ⟨asks, leaves⟩ := takeInto_off inactive run served
    exact ⟨List.forall_mem_cons.mpr ⟨trivial, asks⟩, leaves⟩

/-! ## Requests to join -/

variable {case : Case} {fid : Int} {spelling : String}

/-- The channels and their flags lie outside of every case. -/
theorem flags_outside {after : Tables} (same : case.outside after = case.outside before) :
    after.flags = before.flags := by
  have shown (tables : Tables) : (case.outside tables).flags = tables.flags := by
    simp only [Tables.flags, Case.outside, List.map_map]
    refine List.map_congr_left fun row _ => ?_
    simp only [Function.comp_apply, Case.besides]
    split
    · rfl
    · rfl
  rw [← shown after, same, shown before]

theorem decideJoin_flags {outcome : Except Failure JoinAnswer}
    (run : Runs (decideJoin deployment channel fid) transcript outcome)
    (served : Served (.clean before) transcript session) : session.committed.flags = before.flags := by
  rcases runs_bind.mp run with ⟨_, rfl, failed⟩ | ⟨_, found, _, rfl, looked_up, run⟩
  · rw [ofFetch_answered failed (served_answered served)]
    rfl
  obtain ⟨_, for_user, served⟩ := answered_append.mp served
  obtain rfl := ofFetch_answered looked_up (served_answered for_user)
  cases found with
  | none =>
    cases run
    cases served
    rfl
  | some user =>
    have begun : Frames ⟨channel, user, none, false⟩ (Case.outside ⟨channel, user, none, false⟩ before)
        (.clean before) := ⟨rfl, rfl⟩
    have decided := moderate_spares deployment ⟨channel, user, none, false⟩
    rcases runs_bind.mp run with ⟨_, rfl, failed⟩ | ⟨_, logs, _, rfl, moderated, ended⟩
    · exact flags_outside (decided before rfl failed served begun).committed
    · obtain ⟨rfl, rfl⟩ := runs_done.mp ended
      rw [List.append_nil] at served
      exact flags_outside (decided before rfl moderated served begun).committed

/-- A request to join leaves the flags of all channels as they are. -/
theorem join_flags {outcome : Except Failure JoinAnswer}
    (run : Runs (join deployment spelling fid) transcript outcome)
    (served : Served (.clean before) transcript session) : session.committed.flags = before.flags := by
  rw [join_eq] at run
  cases run with
  | ask tables run =>
  cases served with
  | cons looks served =>
  obtain ⟨-, rfl⟩ := looks
  simp only [Program.bind] at run
  rcases runs_bind.mp run with ⟨_, rfl, unread⟩ | ⟨_, found, _, rfl, known, run⟩
  · obtain ⟨-, rfl⟩ := runs_ofExcept.mp unread
    cases served
    rfl
  obtain ⟨-, rfl⟩ := runs_ofExcept.mp known
  rw [List.nil_append] at served
  cases found with
  | none =>
    cases run
    cases served
    rfl
  | some channel =>
    rcases runs_recover.mp run with ⟨_, rfl, decided⟩ | ⟨_, _, _, rfl, failed, told⟩
    · exact decideJoin_flags decided served
    · obtain ⟨rfl, rfl⟩ := runs_done.mp told
      rw [List.append_nil] at served
      exact decideJoin_flags failed served

/-- A request to join asks what moderation may ask. -/
theorem join_asks (deployment : Deployment) (spelling : String) (fid : Int) :
    Asks IsModerating (join deployment spelling fid) := by
  have reads : AllowsReading IsModerating := ⟨fun _ => trivial, trivial, trivial⟩
  rw [join_eq]
  refine Asks.bind (.ask trivial .done) fun tables => (ofExcept_asks _).bind fun found => ?_
  cases found with
  | none => exact .failed _
  | some channel =>
    refine Asks.recover ((ofFetch_asks reads _).bind fun found => ?_) fun _ => .done _
    cases found with
    | none => exact .done _
    | some user => exact (moderate_asks deployment _).bind fun logs => .done _

/-! ## Arrivals -/

/-- What came to a channel, and what was answered: an event, or somebody who asked to join. -/
inductive Arrival where
  | delivery (event : Event) (outcome : Except Failure String)
  | request (spelling : String) (fid : Int) (outcome : Except Failure JoinAnswer)

namespace Arrival

/-- Whether the channel with this key was meant. -/
def IsFor (key : String) : Arrival → Prop
  | .delivery event _ => event.channel? = some key
  | .request spelling _ _ => Text.lower spelling = key

def isRequest : Arrival → Bool
  | .delivery .. => false
  | .request .. => true

/-- The answer may come after these exchanges. -/
def Comes (deployment : Deployment) (transcript : Transcript) : Arrival → Prop
  | .delivery event outcome => Runs (takeIn deployment event) transcript outcome
  | .request spelling fid outcome => Runs (join deployment spelling fid) transcript outcome

end Arrival

/-- An arrival with what was asked about it, and the store before and after it. -/
structure Attended where
  arrival : Arrival
  before : Tables
  transcript : Transcript
  after : Tables

namespace Attended

/-- It was attended to in a session of its own, of which is left what was committed. -/
def Holds (deployment : Deployment) (attended : Attended) : Prop :=
  attended.arrival.Comes deployment attended.transcript ∧
    ∃ session, Served (.clean attended.before) attended.transcript session ∧
      session.committed = attended.after

end Attended

/-- The arrival as it would have been attended to in a guise of the store. -/
def Guise.attended (guise : Guise) (attended : Attended) : Attended :=
  ⟨attended.arrival, guise.tables attended.before, guise.retelling.tell attended.transcript,
    guise.tables attended.after⟩

/-- Arrivals at a channel, attended to one after the other. -/
inductive Attends (deployment : Deployment) (key : String) : Tables → List Attended → Tables → Prop where
  | nil (tables : Tables) : Attends deployment key tables [] tables
  | cons {attended : Attended} {later : List Attended} {last : Tables} :
    attended.arrival.IsFor key → attended.Holds deployment →
    Attends deployment key attended.after later last →
    Attends deployment key attended.before (attended :: later) last

/-- A cast that comes to a channel that is off is ignored. -/
theorem Attended.Holds.ignores {attended : Attended} (holds : attended.Holds deployment)
    (own : attended.arrival.IsFor key) (off : attended.before.IsOff key) {outcome : Except Failure String}
    (delivered : attended.arrival = .delivery event outcome) :
    Ignores key attended.before attended.transcript outcome attended.after := by
  obtain ⟨arrival, before, transcript, after⟩ := attended
  cases delivered
  obtain ⟨run, session, served, rfl⟩ := holds
  exact takeIn_off off own run served

/-- What comes to a channel that is off leaves it off. -/
theorem Attended.Holds.off {attended : Attended} (holds : attended.Holds deployment)
    (own : attended.arrival.IsFor key) (off : attended.before.IsOff key) : attended.after.IsOff key := by
  cases arrival : attended.arrival with
  | delivery event outcome => exact off.of_flags (holds.ignores own off arrival).flags
  | request spelling fid outcome =>
    obtain ⟨run, session, served, same⟩ := holds
    rw [arrival] at run
    exact off.of_flags (same ▸ join_flags run served)

/-- A request to join is attended to in a guise of the store as it is without. -/
theorem Guise.holds {guise : Guise} {attended : Attended} (holds : attended.Holds deployment)
    (own : attended.arrival.IsFor guise.key) (request : attended.arrival.isRequest = true) :
    (guise.attended attended).Holds deployment := by
  obtain ⟨arrival, before, transcript, after⟩ := attended
  obtain ⟨run, session, served, rfl⟩ := holds
  cases arrival with
  | delivery => cases request
  | request spelling fid outcome =>
    have asked := (join_asks deployment spelling fid).of_runs run
    refine ⟨(join_follows own fid).runs run, guise.session session, ?_, rfl⟩
    exact served.retold asked fun ask moderating _ _ _ serves => serves_session moderating serves

variable {start last : Tables} {arrivals : List Attended}

theorem Attends.off (attends : Attends deployment key start arrivals last) (off : start.IsOff key) :
    last.IsOff key := by
  induction attends with
  | nil => exact off
  | cons own holds _ ih => exact ih (holds.off own off)

theorem Attends.ignores (attends : Attends deployment key start arrivals last) (off : start.IsOff key)
    {attended : Attended} (listed : attended ∈ arrivals) {outcome : Except Failure String}
    (delivered : attended.arrival = .delivery event outcome) :
    Ignores key attended.before attended.transcript outcome attended.after := by
  induction attends with
  | nil => cases listed
  | cons own holds _ ih =>
    rcases List.mem_cons.mp listed with rfl | later
    · exact holds.ignores own off delivered
    · exact ih (holds.off own off) later

/-- Requests to join come to the same in any guise of the store. -/
theorem Attends.shown (attends : Attends deployment key start arrivals last)
    (requests : ∀ attended ∈ arrivals, attended.arrival.isRequest = true) {guise : Guise}
    (same : guise.key = key) :
    Attends deployment key (guise.tables start) (arrivals.map guise.attended) (guise.tables last) := by
  induction attends with
  | nil => exact .nil _
  | @cons attended later last own holds _ ih =>
    obtain ⟨request, requests⟩ := List.forall_mem_cons.mp requests
    have shown := guise.holds holds (same ▸ own) request
    exact @Attends.cons deployment key (guise.attended attended) _ _ own shown (ih requests)

/-- Of what came to a channel that is off the requests to join would have come to the same in any guise
of the store, and without the casts in between. -/
theorem Attends.requests (attends : Attends deployment key start arrivals last) (off : start.IsOff key)
    {guise : Guise} (same : guise.key = key) :
    Attends deployment key (guise.tables start)
      ((arrivals.filter fun attended => attended.arrival.isRequest).map guise.attended)
      (guise.tables last) := by
  induction attends with
  | nil => exact .nil _
  | @cons attended later last own holds _ ih =>
    have ih := ih (holds.off own off)
    cases request : attended.arrival.isRequest with
    | true =>
      simp only [List.filter_cons, request, if_true, List.map_cons]
      have shown := guise.holds holds (same ▸ own) request
      exact @Attends.cons deployment key (guise.attended attended) _ _ own shown ih
    | false =>
      simp only [List.filter_cons, request, Bool.false_eq_true, if_false]
      cases arrival : attended.arrival with
      | delivery event outcome =>
        rw [← (holds.ignores own off arrival).shown guise]
        exact ih
      | request =>
        rw [arrival] at request
        cases request

/-- The guise in which a channel is off is the store itself, if it is. -/
theorem Guise.tables_off (off : start.IsOff key) :
    (⟨key, false, start.casts⟩ : Guise).tables start = start := by
  have same : start.channels.map (⟨key, false, start.casts⟩ : Guise).row = start.channels := by
    refine (List.map_congr_left fun row listed => ?_).trans (List.map_id _)
    unfold Guise.row
    split
    · rename_i own
      exact congrArg (fun active => { row with active }) (off.off row listed own).symm
    · rfl
  exact congrArg (fun channels => { start with channels }) same

/-- Switching a channel off spares casts, and it spares them alone. Whatever is delivered to a channel
that is off, and whoever asks to join it, it stays off, and of a cast no more is left than a row that
says that it was ignored. The requests to join come to what they come to in the same channel while it
is on: in any sequence of arrivals they ask the same, are answered the same, and leave the same but
for the flag; and whatever they can come to while it is on, they can come to while it is off. The
checks do not tell one from the other either. -/
theorem switched_off_channel_spares_casts_only (off : start.IsOff key)
    (attends : Attends deployment key start arrivals last) :
    let whileOn : Guise := ⟨key, true, start.casts⟩
    let whileOff : Guise := ⟨key, false, start.casts⟩
    last.IsOff key ∧
      (∀ attended ∈ arrivals, ∀ event outcome, attended.arrival = .delivery event outcome →
        Ignores key attended.before attended.transcript outcome attended.after) ∧
      Attends deployment key (whileOn.tables start)
        ((arrivals.filter fun attended => attended.arrival.isRequest).map whileOn.attended)
        (whileOn.tables last) ∧
      (∀ requests last', (∀ attended ∈ requests, attended.arrival.isRequest = true) →
        Attends deployment key (whileOn.tables start) requests last' →
        Attends deployment key start (requests.map whileOff.attended) (whileOff.tables last')) ∧
      ∀ stage case rule strategy world,
        Rehearsal.evaluate stage (whileOn.case case) rule strategy world =
          Rehearsal.evaluate stage case rule strategy world := by
  intro whileOn whileOff
  refine ⟨attends.off off, fun _ listed _ _ delivered => attends.ignores off listed delivered,
    attends.requests off rfl, fun requests last' all attended => ?_,
    fun stage case rule strategy world => ?_⟩
  · have shown := attended.shown all (rfl : whileOff.key = key)
    have same : whileOff.key = whileOn.key := rfl
    rwa [Guise.tables_tables same, Guise.tables_off off] at shown
  · exact Rehearsal.evaluate_amid (case.channel.flagged true) rule strategy

/-! ## A newcomer at a closed door -/

section Witness

/-- A channel that is off. It lets everyone in, and mutes them. -/
def closedChannel : Channel :=
  { welcoming with
    active := false
    inclusion := { welcoming.inclusion with actions := [.like, .mute] } }

theorem closedChannel_valid : closedChannel.Valid :=
  { welcoming_valid with
    inclusion := {
      rule := welcoming_valid.inclusion.rule
      actions := List.cons_ne_nil _ _
      each := List.forall_mem_cons.mpr ⟨trivial, List.forall_mem_singleton.mpr trivial⟩ } }

/-- That channel is all that is stored, with some casts. -/
def closedDoor (casts : List CastRow) : Tables :=
  { (Change.channel (Store.ChannelRow.configured none closedChannel .epoch)).apply {} with casts }

theorem closedDoor_known (casts : List CastRow) :
    (closedDoor casts).configuration? "c" = .ok (some closedChannel) :=
  (saved_written closedChannel_valid {} .epoch).found "c" (by decide)

theorem closedDoor_off : (closedDoor []).IsOff "c" where
  stored := ⟨_, .head _, rfl⟩
  off := List.forall_mem_singleton.mpr fun _ => rfl

/-- Actions reach the network, and all checks are known. -/
def closedStage : Rehearsal.Stage := ⟨⟨default, Check.registry, true, 60, 1⟩, .whole 20, .whole 10⟩

/-- What is left of the cast. -/
def ignoredRow : CastRow := ⟨"a", "c", 7, Store.ignored, "\x7b\x7d", Moment.epoch.stored⟩

/-- The services answer at once: the channel belongs to user 7, and user 8 is known. -/
def closedWorld : Rehearsal.World where
  session := .clean (closedDoor [ignoredRow])
  stubs := [
    ⟨"/v1/channel", none, none, none, none, .whole 0, .answered ⟨200, ownerText⟩⟩,
    ⟨"/v2/farcaster/user/bulk", none, none, none, none, .whole 0,
      .answered ⟨200, "\x7b\"users\":[\x7b\"fid\":8\x7d]\x7d"⟩⟩,
    ⟨"/fc/channel-invites", none, none, none, none, .whole 0, .answered ⟨200, "\x7b\x7d"⟩⟩]

private theorem firstCast_ignored : ∃ transcript,
    Runs (takeIn closedStage.deployment firstCast) transcript (.ok "Channel c is not active") ∧
      Served (.clean (closedDoor [])) transcript (.clean (closedDoor [ignoredRow])) := by
  obtain ⟨cast, _, brings, hash, author, -⟩ := firstCast_brings
  have recorded : Store.recordCast (closedDoor []) .epoch cast.hash "c" cast.author.fid Store.ignored
      (.obj []) = ignoredRow := by
    rw [hash, author]
    rfl
  refine ⟨_, brings.takeIn_ignores (closedDoor_known []) rfl recorded, ?_⟩
  exact .cons ⟨rfl, rfl⟩ (.cons ⟨rfl, rfl⟩ (.cons rfl (.cons rfl (.cons rfl (.nil _)))))

/-- User 8 is invited, and muted. -/
private theorem newcomer_invited : ∃ transcript session,
    Runs (join closedStage.deployment "c" 8) transcript (.ok ⟨inviteSent, some "like"⟩) ∧
      Served (.clean (closedDoor [ignoredRow])) transcript session ∧
      session.committed.logs.map (·.action) = ["like", "mute"] ∧
      session.committed.cooldowns.map (·.fid) = ["8"] := by
  let deciding := decideJoin closedStage.deployment closedChannel 8
  have rehearsed :
      let ended := deciding.run (Rehearsal.answerModeration closedStage) closedWorld
      ended.1.toOption = some ⟨inviteSent, some "like"⟩ ∧
        ended.2.session.committed.logs.map (·.action) = ["like", "mute"] ∧
        ended.2.session.committed.cooldowns.map (·.fid) = ["8"] := by decide +kernel
  obtain ⟨told, logs, cooldowns⟩ := rehearsed
  obtain ⟨transcript, decided, served⟩ := Rehearsal.run_served closedStage deciding closedWorld
  rw [Program.ok_of_toOption told] at decided
  have run := join_runs (closedDoor_known [ignoredRow]) decided
  exact ⟨_, _, run, .cons ⟨rfl, rfl⟩ served, logs, cooldowns⟩

/-- A cast comes to a channel that is off and is ignored. Then somebody asks to join: he is looked up and
evaluated, invited and muted, as he would be if the channel were on. -/
theorem closed_channel_invites :
    ∃ first second : Attended, ∃ last : Tables,
      let whileOn : Guise := ⟨"c", true, []⟩
      (closedDoor []).IsOff "c" ∧ Attends closedStage.deployment "c" (closedDoor []) [first, second] last ∧
      first.arrival = .delivery firstCast (.ok "Channel c is not active") ∧
      second.arrival = .request "c" 8 (.ok ⟨inviteSent, some "like"⟩) ∧
      last.logs.map (·.action) = ["like", "mute"] ∧ last.cooldowns.map (·.fid) = ["8"] ∧
      last.IsOff "c" ∧
      Attends closedStage.deployment "c" (whileOn.tables (closedDoor [])) [whileOn.attended second]
        (whileOn.tables last) := by
  obtain ⟨delivering, delivered, ignored⟩ := firstCast_ignored
  obtain ⟨requesting, session, requested, served, logs, cooldowns⟩ := newcomer_invited
  let first : Attended :=
    ⟨.delivery firstCast (.ok "Channel c is not active"), closedDoor [], delivering,
      closedDoor [ignoredRow]⟩
  let second : Attended :=
    ⟨.request "c" 8 (.ok ⟨inviteSent, some "like"⟩), closedDoor [ignoredRow], requesting, session.committed⟩
  have holds : first.Holds closedStage.deployment := ⟨delivered, _, ignored, rfl⟩
  have holds' : second.Holds closedStage.deployment := ⟨requested, _, served, rfl⟩
  have named : first.arrival.IsFor "c" := rfl
  have named' : second.arrival.IsFor "c" := (by decide +kernel : Text.lower "c" = "c")
  have attends : Attends closedStage.deployment "c" (closedDoor []) [first, second] session.committed :=
    @Attends.cons _ _ first _ _ named holds (@Attends.cons _ _ second _ _ named' holds' (.nil _))
  obtain ⟨still, -, requests, -⟩ := switched_off_channel_spares_casts_only closedDoor_off attends
  exact ⟨first, second, _, closedDoor_off, attends, rfl, rfl, logs, cooldowns, still, requests⟩

end Witness

end Intake

end Curation
