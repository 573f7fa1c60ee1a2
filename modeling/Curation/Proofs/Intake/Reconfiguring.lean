import Curation.Proofs.Intake.Recording

/-! Deliveries between changes of configuration. Whether a channel is active is looked at before the
row of the cast. So a cast that comes to an inactive channel is recorded as ignored, whatever its row
has said before: a row about actions is lost, and a cast that failed is not moderated any more. All
other deliveries leave a row alone or moderate the cast. -/
namespace Curation

/-- The row of a cast says that it was ignored, and nothing else. -/
def Store.Tables.IsIgnored (tables : Store.Tables) (hash : String) : Prop :=
  ∃ row, tables.cast? hash = some row ∧ row.status = Store.ignored ∧ row.data = (Json.obj []).spaced

theorem Store.Tables.IsIgnored.isDone {tables : Store.Tables} {hash : String} (ignored : tables.IsIgnored hash) :
    tables.IsDone hash := by
  obtain ⟨row, found, status, -⟩ := ignored
  refine ⟨row, found, ?_⟩
  rw [status]
  decide

namespace Intake

open Moderation
open Program (Runs runs_bind runs_done runs_ofExcept answered_append answered_question)
open Store (Change Tables)

variable {deployment : Deployment} {event : Event} {channelId : String} {channel : Channel} {cast : Cast}
  {hash : String} {transcript : Transcript} {desk after : Desk}

/-! ## Looks at an event -/

/-- An event brings a cast with this hash to a channel that is not active. -/
def Desk.Ignores (desk : Desk) (event : Event) (hash : String) : Prop :=
  ∃ channelId channel cast, Brings event channelId cast ∧ cast.hash = hash ∧
    desk.committed.configuration? channelId = .ok (some channel) ∧ channel.active = false

/-- What a look at an event comes to: the event is answered or refused, the cast is recorded as
ignored, or it is admitted. -/
inductive Admission (event : Event) (desk : Desk) : Except Failure (String ⊕ Channel × Cast) → Desk → Prop
  | spared {outcome : Except Failure (String ⊕ Channel × Cast)} {after : Desk} :
    (∀ admission, outcome ≠ .ok (.inr admission)) → desk.Drifts after →
    (∀ text hash, outcome = .ok (.inl text) → ¬ desk.Ignores event hash) → Admission event desk outcome after
  | ignored {row : Store.CastRow} {text : String} {after : Desk} : desk.Ignores event row.hash →
    row.status = Store.ignored → row.data = (Json.obj []).spaced →
    after.committed = (Change.cast row).apply desk.committed → Admission event desk (.ok (.inl text)) after
  | admitted {channelId : String} {channel : Channel} {cast : Cast} {after : Desk} :
    Brings event channelId cast → desk.committed.configuration? channelId = .ok (some channel) →
    channel.active = true → ¬ desk.committed.IsDone cast.hash → desk.Drifts after →
    Admission event desk (.ok (.inr (channel, cast))) after

theorem Brings.unique {channelId' : String} {cast' : Cast} (brings : Brings event channelId cast)
    (brings' : Brings event channelId' cast') : channelId' = channelId ∧ cast' = cast := by
  have named := brings'.named
  rw [brings.named] at named
  have read := brings'.read
  rw [brings.read] at read
  cases named
  cases read
  exact ⟨rfl, rfl⟩

/-- An event brings at most one cast. -/
theorem Desk.Ignores.unique {hash' : String} (ignores : desk.Ignores event hash)
    (ignores' : desk.Ignores event hash') : hash' = hash := by
  obtain ⟨_, _, _, brings, rfl, -⟩ := ignores
  obtain ⟨_, _, _, brings', rfl, -⟩ := ignores'
  obtain ⟨-, rfl⟩ := brings.unique brings'
  rfl

/-- A cast of an active channel is not ignored. -/
theorem Desk.not_ignores (brings : Brings event channelId cast)
    (known : desk.committed.configuration? channelId = .ok (some channel)) (active : channel.active = true) :
    ¬ desk.Ignores event hash := by
  rintro ⟨channelId', channel', cast', brings', -, known', inactive⟩
  obtain ⟨rfl, rfl⟩ := brings.unique brings'
  rw [known] at known'
  cases known'
  rw [active] at inactive
  cases inactive

/-- A look at the rows shows what is there. -/
private theorem looking_met {α : Type} {rest : Tables → Moderation α} {outcome : Except Failure α}
    (run : Runs (Moderation.tables.bind rest) transcript outcome) (met : desk.Met deployment transcript after) :
    ∃ later ready, Runs (rest desk.tables) later outcome ∧ desk.Drifts ready ∧ ready.Met deployment later after ∧
      transcript = ⟨.tables, desk.tables⟩ :: later := by
  cases run with
  | ask tables run =>
  cases met with
  | cons looks met =>
  obtain ⟨ready, drifts, rfl, rfl⟩ := looks
  rw [drifts.tables] at run ⊢
  exact ⟨_, _, run, drifts, met, rfl⟩

/-- A cast is recorded as ignored, or admitted if nothing has been done about it. -/
private theorem admitInto_met {outcome : Except Failure (String ⊕ Channel × Cast)} (idle : desk.pending = [])
    (brings : Brings event channelId cast)
    (known : desk.committed.configuration? channelId = .ok (some channel))
    (run : Runs (admitInto channel cast) transcript outcome) (met : desk.Met deployment transcript after) :
    Admission event desk outcome after := by
  unfold admitInto at run
  cases active : channel.active with
  | false =>
    simp only [active, Bool.not_false, if_true] at run
    have status : Store.fits Store.ignored = true := by decide
    rcases runs_bind.mp run with ⟨failure, rfl, unrecorded⟩ | ⟨_, _, _, rfl, recorded, ended⟩
    · rcases recordCast_met status unrecorded met with ⟨-, same, -⟩ | ⟨drifts, -⟩
      · cases same
      · exact .spared (by simp) drifts (by simp)
    · obtain ⟨rfl, rfl⟩ := runs_done.mp ended
      rw [List.append_nil] at met
      rcases recordCast_met status recorded met with ⟨-, -, time, -, written⟩ | ⟨-, ⟨same, -⟩ | ⟨same, -⟩⟩
      · rw [Desk.tables_idle idle] at written
        have hash := Store.recordCast_hash desk.committed time cast.hash channel.id cast.author.fid Store.ignored
          (.obj [])
        exact .ignored ⟨channelId, channel, cast, brings, hash.symm, known, active⟩
          (Store.recordCast_status ..) (Store.recordCast_data ..) written
      · cases same
      · cases same
  | true =>
    simp only [active, Bool.not_true, Bool.false_eq_true, if_false] at run
    obtain ⟨_, ready, run, drifts, met, -⟩ := looking_met run met
    rw [Desk.tables_idle idle] at run
    split at run
    · obtain ⟨rfl, rfl⟩ := runs_done.mp run
      cases met
      exact .spared (by simp) drifts fun _ _ _ => Desk.not_ignores brings known active
    · rename_i undone
      obtain ⟨rfl, rfl⟩ := runs_done.mp run
      cases met
      exact .admitted brings known active (by rwa [isDone_iff]) drifts

theorem Admission.drifted {ready : Desk} {outcome : Except Failure (String ⊕ Channel × Cast)}
    (drifts : desk.Drifts ready) (admission : Admission event ready outcome after) :
    Admission event desk outcome after := by
  have same : ready.committed = desk.committed := drifts.committed
  have ignores (hash : String) : ready.Ignores event hash ↔ desk.Ignores event hash := by
    simp only [Desk.Ignores, same]
  cases admission with
  | spared spared drifts' unignored =>
    refine .spared spared (drifts.trans drifts') fun text hash told => ?_
    exact (ignores hash).not.mp (unignored text hash told)
  | ignored ignored status data written =>
    exact .ignored ((ignores _).mp ignored) status data (same ▸ written)
  | admitted brings known active undone drifts' =>
    exact .admitted brings (same ▸ known) active (same ▸ undone) (drifts.trans drifts')

theorem admission_met {outcome : Except Failure (String ⊕ Channel × Cast)} (idle : desk.pending = [])
    (run : Runs (admitEvent event) transcript outcome) (met : desk.Met deployment transcript after) :
    Admission event desk outcome after := by
  have unread (unlooked : ∀ channelId cast, ¬ Brings event channelId cast) (text : String) (hash : String) :
      ¬ desk.Ignores event hash := by
    rintro ⟨channelId, channel, cast, brings, -⟩
    exact unlooked channelId cast brings
  rcases admitEvent_cases event with ⟨text, admitted⟩ | ⟨failure, admitted⟩ | ⟨channelId, cast, brings⟩
  · have unlooked (channelId : String) (cast : Cast) : ¬ Brings event channelId cast := by
      intro brings
      rw [brings.admitEvent_eq] at admitted
      cases admitted
    rw [admitted] at run
    cases run
    cases met
    exact .spared (by simp) (.refl desk) fun text hash _ => unread unlooked text hash
  · rw [admitted] at run
    cases run
    cases met
    exact .spared (by simp) (.refl desk) (by simp)
  rw [brings.admitEvent_eq] at run
  obtain ⟨_, ready, run, drifts, met, -⟩ := looking_met run met
  have idle' : ready.pending = [] := drifts.pending.trans idle
  rw [Desk.tables_idle idle] at run
  cases known : desk.committed.configuration? channelId with
  | error failure =>
    rw [known] at run
    cases run
    cases met
    exact .spared (by simp) drifts (by simp)
  | ok found =>
  rw [known] at run
  cases found with
  | none =>
    cases run
    cases met
    refine .spared (by simp) drifts fun _ hash _ => ?_
    rintro ⟨channelId', channel', cast', brings', -, known', -⟩
    obtain ⟨rfl, rfl⟩ := brings.unique brings'
    rw [known] at known'
    cases known'
  | some channel =>
    have known : ready.committed.configuration? channelId = .ok (some channel) := by
      rw [drifts.committed]
      exact known
    exact (admitInto_met idle' brings known run met).drifted drifts

/-! ## Whole deliveries -/

/-- What is recorded about a cast leaves the rows of all others alone. -/
private theorem recordCast_others {tables : Tables} {status : Int} {data : Json} {outcome : Except Failure Unit}
    (known : Store.fits status = true) (shows_ : ShowsCasts tables.casts desk.session) (apart : cast.hash ≠ hash)
    (run : Runs (recordCast channel cast status data) transcript outcome)
    (met : desk.Met deployment transcript after) :
    after.committed.cast? hash = tables.cast? hash := by
  rcases recordCast_met known run met with ⟨-, -, time, -, written⟩ | ⟨drifts, -⟩
  · rw [written, Store.cast?_written_other (by rwa [Store.recordCast_hash])]
    exact Store.Tables.cast?_of_casts shows_.working hash
  · rw [drifts.committed]
    exact Store.Tables.cast?_of_casts shows_.committed hash

/-- What is left to do after moderation leaves the rows of other casts alone. -/
private theorem closing_others {tables : Tables} {result : Except Failure (List Log)}
    {outcome : Except Failure String} (shows_ : ShowsCasts tables.casts desk.session) (apart : cast.hash ≠ hash)
    (run : Runs ((Stage.inside channel cast 0 (.ofExcept result)).program deployment) transcript outcome)
    (met : desk.Met deployment transcript after) : after.committed.cast? hash = tables.cast? hash := by
  cases result with
  | ok logs =>
    have known : Store.fits Store.processed = true := by decide
    rw [Program.ofExcept, done_eq] at run
    rcases runs_bind.mp run with ⟨_, -, recording⟩ | ⟨_, _, _, rfl, recording, ended⟩
    · exact recordCast_others known shows_ apart recording met
    · obtain ⟨-, rfl⟩ := runs_done.mp ended
      rw [List.append_nil] at met
      exact recordCast_others known shows_ apart recording met
  | error failure =>
    rw [Program.ofExcept, failed_eq] at run
    obtain ⟨_, _, rfl, recording, -⟩ := releasing_exchanges run
    cases met with
    | cons releases met =>
    cases met with
    | cons undoes met =>
    obtain ⟨ready, drifts, rfl⟩ := releases
    obtain ⟨ready', drifts', rfl⟩ := undoes
    have committed : ready'.committed.casts = tables.casts := by
      rw [drifts'.committed]
      show ready.committed.casts = _
      rw [drifts.committed]
      exact shows_.committed
    have undone : ShowsCasts tables.casts ready'.undone.session := ⟨committed, committed⟩
    exact recordCast_others (by decide) undone apart recording met

/-- A delivery that has come to its end, and the desk at which it began. -/
structure Delivered where
  desk : Desk
  event : Event
  transcript : Transcript
  outcome : Except Failure String

namespace Delivered

/-- The cast with this hash was recorded as ignored. -/
def Ignores (delivered : Delivered) (hash : String) : Prop :=
  delivered.desk.Ignores delivered.event hash ∧ ∃ text, delivered.outcome = .ok text

/-- The cast with this hash was moderated, whatever came of it. -/
def Moderates (delivered : Delivered) (deployment : Deployment) (hash : String) : Prop :=
  ∃ channel cast, cast.hash = hash ∧ Intake.Moderates deployment channel cast delivered.transcript

/-- What becomes of the row of a cast while an event is delivered. -/
inductive Leaves (deployment : Deployment) (delivered : Delivered) (hash : String) (after : Desk) : Prop
  | stands : ¬ delivered.Ignores hash → after.committed.cast? hash = delivered.desk.committed.cast? hash →
    Leaves deployment delivered hash after
  | ignored : delivered.Ignores hash → after.committed.IsIgnored hash → Leaves deployment delivered hash after
  | moderated : ¬ delivered.Ignores hash → delivered.Moderates deployment hash →
    ¬ delivered.desk.committed.IsDone hash → Leaves deployment delivered hash after

/-- A delivery moderates a cast that is not done, or records one as ignored, or leaves all rows alone. -/
theorem leaves {delivered : Delivered} (idle : delivered.desk.pending = [])
    (run : Runs (takeIn deployment delivered.event) delivered.transcript delivered.outcome)
    (met : delivered.desk.Met deployment delivered.transcript after) (hash : String) :
    delivered.Leaves deployment hash after := by
  obtain ⟨desk, event, transcript, outcome⟩ := delivered
  simp only at idle run met
  rw [takeIn_eq] at run
  rcases runs_bind.mp run with ⟨failure, rfl, refused⟩ | ⟨looking, admission, rest, rfl, looked, claiming⟩
  · cases admission_met idle refused met with
    | spared _ drifts _ =>
      refine .stands ?_ (by rw [drifts.committed])
      rintro ⟨-, _, same⟩
      cases same
  obtain ⟨between, for_looking, for_claiming⟩ := answered_append.mp met
  cases admission_met idle looked for_looking with
  | @spared _ _ unadmitted drifts unignored =>
    cases admission with
    | inr admission => exact absurd rfl (unadmitted admission)
    | inl text =>
    cases claiming
    cases for_claiming
    refine .stands ?_ (by rw [drifts.committed])
    exact fun ignores => unignored text hash rfl ignores.1
  | @ignored row text _ ignores status data written =>
    cases claiming
    cases for_claiming
    by_cases same : row.hash = hash
    · subst same
      refine .ignored ⟨ignores, text, rfl⟩ ⟨row, ?_, status, data⟩
      rw [written]
      exact Store.cast?_written_self row _
    · refine .stands (fun ignores' => same (Desk.Ignores.unique ignores'.1 ignores)) ?_
      rw [written]
      exact Store.cast?_written_other same _
  | @admitted channelId channel cast _ brings known active undone drifts =>
    have unignored : ¬ Delivered.Ignores ⟨desk, event, looking ++ rest, outcome⟩ hash :=
      fun ignores => Desk.not_ignores brings known active ignores.1
    cases claiming with
    | ask taken claimed =>
    cases for_claiming with
    | cons claims for_claimed =>
    obtain ⟨ready, drifts', -, rfl⟩ := claims
    have since := drifts.trans drifts'
    have shown : (ready.claimed deployment cast).session = .clean desk.committed := by
      show ready.session = _
      rw [since.session, Desk.session, Desk.tables_idle idle]
      rfl
    cases taken with
    | false =>
      cases claimed
      cases for_claimed
      refine .stands unignored ?_
      show ready.committed.cast? hash = desk.committed.cast? hash
      rw [since.committed]
    | true =>
      have claimed : Runs (moderateClaimed deployment channel cast) _ outcome := claimed
      rw [← inside_eq channel cast 0] at claimed
      obtain ⟨moderating, result, closing, rfl, moderated, closes⟩ := inside_runs claimed
      by_cases own : cast.hash = hash
      · subst own
        exact .moderated unignored ⟨channel, cast, rfl, .mk moderated⟩ undone
      · obtain ⟨worked, for_moderating, for_closing⟩ := answered_append.mp for_claimed
        have shows_ : ShowsCasts desk.committed.casts (ready.claimed deployment cast).session := by
          rw [shown]
          exact ⟨rfl, rfl⟩
        have spared := shows_.moderated moderated (Desk.met_served for_moderating)
        exact .stands unignored (closing_others spared own closes for_closing)

end Delivered

/-! ## One after the other -/

/-- What happens at a desk: events are delivered one after the other, configurations change, and time
passes. The deliveries are listed. -/
inductive History (deployment : Deployment) (start : Desk) : List Delivered → Desk → Prop
  | start : History deployment start [] start
  | delivery {past : List Delivered} {delivered : Delivered} {after : Desk} :
    History deployment start past delivered.desk →
    Runs (takeIn deployment delivered.event) delivered.transcript delivered.outcome →
    delivered.desk.Met deployment delivered.transcript after →
    History deployment start (past ++ [delivered]) after.undone
  | configuration {past : List Delivered} {desk : Desk} (channels : List Store.ChannelRow) :
    History deployment start past desk →
    History deployment start past { desk with committed := { desk.committed with channels } }
  | passage {past : List Delivered} {desk after : Desk} : History deployment start past desk →
    desk.Drifts after → History deployment start past after

variable {start last : Desk} {past : List Delivered}

theorem History.idle (history : History deployment start past last) (idle : start.pending = []) :
    last.pending = [] := by
  induction history with
  | start => exact idle
  | delivery => rfl
  | configuration _ _ ih => exact ih
  | passage _ drifts ih => exact drifts.pending.trans ih

/-- The row of a cast that is done, or that is not moderated meanwhile, stands until the cast is
ignored, and from then on says no more than that. -/
theorem History.row (history : History deployment start past last) (idle : start.pending = [])
    (spared : start.committed.IsDone hash ∨ ∀ delivered ∈ past, ¬ delivered.Moderates deployment hash) :
    (∀ delivered ∈ past, ¬ delivered.Ignores hash) ∧ last.committed.cast? hash = start.committed.cast? hash ∨
      (∃ delivered ∈ past, delivered.Ignores hash) ∧ last.committed.IsIgnored hash := by
  induction history with
  | start => exact .inl ⟨List.forall_mem_nil _, rfl⟩
  | configuration channels _ ih => exact ih spared
  | passage _ drifts ih =>
    rw [drifts.committed]
    exact ih spared
  | @delivery past delivered after earlier run met ih =>
    have earlier_spared : start.committed.IsDone hash ∨ ∀ delivered ∈ past, ¬ delivered.Moderates deployment hash :=
      spared.imp_right fun none_ other listed => none_ other (List.mem_append_left _ listed)
    have ih := ih earlier_spared
    show _ ∧ after.committed.cast? hash = _ ∨ _ ∧ after.committed.IsIgnored hash
    cases Delivered.leaves (earlier.idle idle) run met hash with
    | ignored ignores ignored =>
      exact .inr ⟨⟨delivered, List.mem_append_right _ (.head _), ignores⟩, ignored⟩
    | stands unignored same =>
      rcases ih with ⟨none_, stood⟩ | ⟨⟨other, listed, ignores⟩, row, found, ignored⟩
      · refine .inl ⟨fun other listed => ?_, same.trans stood⟩
        rcases List.mem_append.mp listed with before | here
        · exact none_ other before
        · rwa [List.mem_singleton.mp here]
      · exact .inr ⟨⟨other, List.mem_append_left _ listed, ignores⟩, row, same.trans found, ignored⟩
    | moderated _ moderates undone =>
      refine absurd ?_ undone
      rcases ih with ⟨-, stood⟩ | ⟨-, ignored⟩
      · rcases spared with done | none_
        · obtain ⟨row, found, status⟩ := done
          exact ⟨row, stood.trans found, status⟩
        · exact absurd moderates (none_ delivered (List.mem_append_right _ (.head _)))
      · exact ignored.isDone

/-- A row that says that a cast is done stands through all deliveries and changes of configuration
until the cast comes to its channel while that is not active; from then on it only says that the
cast was ignored. A cast that has failed is moderated by the first delivery that comes to an active
channel and does not find the claim taken, unless the cast was ignored meanwhile: then it is never
moderated again. -/
theorem rows_stand_until_ignored (history : History deployment start past last) (idle : start.pending = [])
    (hash : String) :
    (start.committed.IsDone hash →
      ((∀ delivered ∈ past, ¬ delivered.Ignores hash) →
        last.committed.cast? hash = start.committed.cast? hash) ∧
      ((∃ delivered ∈ past, delivered.Ignores hash) → last.committed.IsIgnored hash)) ∧
    (start.committed.HasStatus hash Store.failed → (∀ delivered ∈ past, ¬ delivered.Moderates deployment hash) →
      ∀ {event : Event} {channelId : String} {channel : Channel} {cast : Cast} {transcript : Transcript}
        {outcome : Except Failure String} {after : Desk}, Brings event channelId cast → cast.hash = hash →
        last.committed.configuration? channelId = .ok (some channel) → channel.active = true →
        Runs (takeIn deployment event) transcript outcome → last.Met deployment transcript after →
        ((∀ delivered ∈ past, ¬ delivered.Ignores hash) →
          ⟨.claim (claimKey cast) (.whole deployment.claimTime), false⟩ ∉ transcript →
          Moderates deployment channel cast transcript) ∧
        ((∃ delivered ∈ past, delivered.Ignores hash) →
          outcome = .ok "Already processed" ∧ ¬ Moderates deployment channel cast transcript)) := by
  have apart (none_ : ∀ delivered ∈ past, ¬ delivered.Ignores hash) :
      ¬ ∃ delivered ∈ past, delivered.Ignores hash := by
    rintro ⟨delivered, listed, ignores⟩
    exact none_ delivered listed ignores
  constructor
  · intro done
    rcases history.row idle (.inl done) with ⟨none_, stood⟩ | ⟨some_, ignored⟩
    · exact ⟨fun _ => stood, fun some_ => absurd some_ (apart none_)⟩
    · exact ⟨fun none_ => absurd some_ (apart none_), fun _ => ignored⟩
  · intro failed unmoderated event channelId channel cast transcript outcome after brings same known active run met
    subst same
    have next := takeIn_met (history.idle idle) brings known active run met
    rcases history.row idle (.inr unmoderated) with ⟨none_, stood⟩ | ⟨some_, ignored⟩
    · have undone : ¬ last.committed.IsDone cast.hash := by
        rintro ⟨row, found, status⟩
        rw [stood] at found
        exact failed.not_isDone ⟨row, found, status⟩
      refine ⟨fun _ unclaimed => ?_, fun some_ => absurd some_ (apart none_)⟩
      rcases next with ⟨done, -⟩ | ⟨-, ready, -, claims, moderates⟩
      · exact absurd done undone
      · refine moderates (Bool.eq_true_of_not_eq_false fun taken => ?_)
        rw [taken] at claims
        exact unclaimed claims
    · refine ⟨fun none_ => absurd some_ (apart none_), fun _ => ?_⟩
      rcases next with ⟨-, told, unmoderated⟩ | ⟨undone, -⟩
      · exact ⟨told, unmoderated⟩
      · exact absurd ignored.isDone undone

/-- Something has been done about a cast of a channel that is not active any more. -/
def closedTables (status : Int) (data : String) : Tables :=
  { bareTables with
    channels := bareTables.channels.map fun row => { row with active := false }
    casts := [⟨"a", "c", 7, status, data, .epoch⟩] }

/-- The cast is delivered again and recorded as ignored, and then the channel is active again. -/
theorem closed_channel_ignores (deployment : Deployment) (status : Int) (data : String) :
    ∃ delivered last, History deployment ⟨closedTables status data, [], {}, 0⟩ [delivered] last ∧
      delivered.Ignores "a" ∧ ¬ delivered.Moderates deployment "a" ∧
      ∃ channel, last.committed.configuration? "c" = .ok (some channel) ∧ channel.active = true := by
  let desk : Desk := ⟨closedTables status data, [], {}, 0⟩
  let row : Store.CastRow := ⟨"a", "c", 7, Store.ignored, "\x7b\x7d", Moment.epoch.stored⟩
  let transcript : Transcript := [⟨.tables, desk.tables⟩, ⟨.tables, desk.tables⟩, ⟨.clock, some .epoch⟩,
    ⟨.write (.cast row), .ok ()⟩, ⟨.commit, ()⟩]
  have run : Runs (takeIn deployment firstCast) transcript (.ok "Channel c is not active") :=
    .ask _ (.ask _ (.ask _ (.ask _ (.ask _ (.done _)))))
  have answered : desk.Answered transcript (desk.kept (.cast row)) :=
    .cons ⟨rfl, rfl⟩ (.cons ⟨rfl, rfl⟩ (.cons rfl (.cons ⟨rfl, rfl⟩ (.cons rfl (.nil _)))))
  have ignores : desk.Ignores firstCast "a" := ⟨"c", _, _, ⟨rfl, rfl, rfl, rfl⟩, rfl, rfl, rfl⟩
  let delivered : Delivered := ⟨desk, firstCast, transcript, .ok "Channel c is not active"⟩
  have history : History deployment desk ([] ++ [delivered]) (desk.kept (.cast row)).undone :=
    .delivery .start run (Desk.answered_met answered)
  refine ⟨delivered, _, .configuration bareTables.channels history, ⟨ignores, _, rfl⟩, ?_, _, rfl, rfl⟩
  rintro ⟨channel, cast, -, moderates⟩
  obtain _ | ⟨_, _ | ⟨_, _ | ⟨_, _ | ⟨_, _ | ⟨_, ⟨⟩⟩⟩⟩⟩⟩ := moderates.claims

/-- A row that lists actions is lost, and a cast that failed is not moderated when its channel is
active again. -/
theorem ignored_cast_is_forgotten :
    let deployment : Deployment := ⟨default, ⟨[], .nil⟩, false, 60, 1⟩
    let processed : Desk := ⟨closedTables Store.processed "\x7b\"actions\": [\"like\"]\x7d", [], {}, 0⟩
    let failed : Desk := ⟨closedTables Store.failed "\x7b\"error\": \"timeout\"\x7d", [], {}, 0⟩
    (∃ past last, History deployment processed past last ∧
      processed.committed.HasStatus "a" Store.processed ∧ last.committed.IsIgnored "a") ∧
    ∃ past last transcript outcome after, History deployment failed past last ∧
      failed.committed.HasStatus "a" Store.failed ∧ (∀ delivered ∈ past, ¬ delivered.Moderates deployment "a") ∧
      (∃ channel, last.committed.configuration? "c" = .ok (some channel) ∧ channel.active = true) ∧
      Runs (takeIn deployment firstCast) transcript outcome ∧ last.Met deployment transcript after ∧
      outcome = .ok "Already processed" := by
  intro deployment processed failed
  constructor
  · obtain ⟨delivered, last, history, ignores, -⟩ := closed_channel_ignores deployment Store.processed
      "\x7b\"actions\": [\"like\"]\x7d"
    have recorded : processed.committed.HasStatus "a" Store.processed := ⟨_, rfl, rfl⟩
    obtain ⟨stands, -⟩ := rows_stand_until_ignored history rfl "a"
    exact ⟨[delivered], last, history, recorded, (stands recorded.isDone).2 ⟨delivered, .head _, ignores⟩⟩
  · obtain ⟨delivered, last, history, ignores, unmoderated, channel, known, active⟩ :=
      closed_channel_ignores deployment Store.failed "\x7b\"error\": \"timeout\"\x7d"
    obtain ⟨cast, _, brings, hash, -⟩ := firstCast_brings
    have gaveUp : failed.committed.HasStatus "a" Store.failed := ⟨_, rfl, rfl⟩
    have none_ : ∀ other ∈ [delivered], ¬ other.Moderates deployment "a" := by
      intro other listed
      rwa [List.mem_singleton.mp listed]
    obtain ⟨transcript, outcome, after, run, answered⟩ := Desk.exists_run (takeIn deployment firstCast) last
    have met : last.Met deployment transcript after := Desk.answered_met answered
    obtain ⟨-, retries⟩ := rows_stand_until_ignored history rfl "a"
    have next := retries gaveUp none_ brings hash known active run met
    exact ⟨[delivered], last, transcript, outcome, after, history, gaveUp, none_, ⟨channel, known, active⟩, run, met,
      (next.2 ⟨delivered, .head _, ignores⟩).1⟩

end Intake

end Curation
