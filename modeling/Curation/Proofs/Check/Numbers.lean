import Curation.Check.Catalogue
import Curation.Proofs.Check.Acceptance

/-! Numbers among the arguments of checks. They are looked at twice, when a rule is saved
and when a check reads them, and both looks have their own notion of a blank. The two
notions differ in the empty list alone, which is blank for the first look and no number
for the second, so that it is the one accepted value that fails a check. -/
namespace Curation

/-! ## Whole numbers -/

theorem Binary64.truncate?_of_isWhole {x : Binary64} (whole : x.isWhole = true) :
    ∃ n, x.truncate? = some n := by
  cases x with
  | nan | infinity => cases whole
  | finite => exact ⟨_, rfl⟩

/-- What stands for a whole number can be read as one. -/
theorem Json.Whole.read {value : Json} (whole : value.Whole) : ∃ n, value.toWhole = .ok n := by
  cases whole with
  | @number x n equal =>
    cases x with
    | whole m => exact ⟨m, rfl⟩
    | real x =>
      obtain ⟨m, truncated⟩ := Binary64.truncate?_of_isWhole (x.isWhole_iff.mpr ⟨n, equal⟩)
      exact ⟨m, by simp [toWhole, truncated]⟩
  | @text s n read => exact ⟨n, by simp [toWhole, read]⟩

/-- The arguments of a check that are numbers. -/
def Definition.numbers (definition : Definition) : List Argument :=
  definition.args.filter (·.type == "number")

theorem Definition.mem_numbers {definition : Definition} {arg : Argument} :
    arg ∈ definition.numbers ↔ arg ∈ definition.args ∧ arg.type = "number" := by
  simp [numbers]

namespace Check

theorem number?_given {value : Json} (given : ¬ value.Blank) : number? value = value.toWhole.map some := by
  cases value with
  | null => exact absurd .null given
  | str s =>
    have present : ¬ s = "" := fun empty => given (empty ▸ .text)
    rw [number?]
    · cases Json.toWhole (.str s) <;> rfl
    · simp
    · simp [present]
  | bool b | number x | arr items | obj members =>
    rw [number?]
    · cases Json.toWhole _ <;> rfl
    · simp
    · simp

/-- What becomes of a list where a number is wanted. -/
def listMisuse : Misuse := .notConvertible "list"

variable {ctx : Context} {name : String} {arg : Argument}

theorem arg_of_get? {value : Json} (found : Json.Members.get? name ctx.args = some value) :
    ctx.arg name = value := by
  rw [Context.arg, Context.arg?, found]
  rfl

/-- A number that is given is read alike, whether it is needed or not. -/
theorem needed_toWhole {value : Json} (found : Json.Members.get? name ctx.args = some value)
    (given : ¬ value.Blank) :
    (do (← ctx.needed name).toWhole : Except Misuse Int) = (number? (ctx.arg name)).map (·.getD 0) := by
  have needed : ctx.needed name = .ok value := by rw [Context.needed, Json.entry, found]
  rw [arg_of_get? found, needed, number?_given given]
  change value.toWhole = _
  cases value.toWhole <;> rfl

/-! ## Arguments that are accepted -/

/-- A check can read a number: as none where it is blank, and if it is needed, it is given. -/
structure Readable (ctx : Context) (name : String) (needed : Bool) : Prop where
  read : ∃ number, number? (ctx.arg name) = .ok number
  given : needed = true → ∃ value, Json.Members.get? name ctx.args = some value ∧ ¬ value.Blank

theorem Readable.not_list {needed : Bool} (readable : Readable ctx name needed) : ctx.arg name ≠ .arr [] := by
  intro list
  obtain ⟨number, read⟩ := readable.read
  rw [list] at read
  cases read

/-- Of what is accepted for a number, everything but an empty list can be read, and that
is accepted only where the number may be left out. -/
theorem readable_or_list (accepts : arg.Accepts ctx.args) (number : arg.type = "number") :
    Readable ctx arg.name arg.required ∨ arg.required = false ∧ ctx.arg arg.name = .arr [] := by
  cases found : Json.Members.get? arg.name ctx.args with
  | none =>
    have blank : ctx.arg arg.name = .null := by rw [Context.arg, Context.arg?, found]; rfl
    exact .inl ⟨⟨none, by rw [blank]; rfl⟩, fun required => found ▸ accepts.given required⟩
  | some value =>
    have here := arg_of_get? found
    by_cases blank : value.Blank
    · have optional : arg.required = false := by
        by_contra required
        obtain ⟨other, same, given⟩ := accepts.given (by simpa using required)
        exact given (Option.some.inj (found.symm.trans same) ▸ blank)
      cases blank with
      | null | text => exact .inl ⟨⟨none, by rw [here]; rfl⟩, by simp [optional]⟩
      | list => exact .inr ⟨optional, here⟩
    · obtain ⟨n, read⟩ := (accepts.whole number value found blank).read
      exact .inl ⟨⟨some n, by rw [here, number?_given blank, read]; rfl⟩, fun _ => ⟨value, found, blank⟩⟩

/-! ## Checks that read numbers -/

/-- A check reads numbers before it asks anything, and sees nothing of its arguments but
them. Of each it is told whether it is needed. -/
inductive ReadsFirst : List (String × Bool) → (Context → Check Verdict) → Prop where
  | goesOn {run : Context → Check Verdict} :
    (∀ ctx args, run { ctx with args } = run ctx) → (∀ ctx failure, run ctx ≠ .failed failure) →
    ReadsFirst [] run
  | reads {name : String} {needed : Bool} {names : List (String × Bool)} {run : Context → Check Verdict}
      {rest : Context → Option Int → Check Verdict} :
    (∀ ctx, run ctx = Program.bind (liftM (number? (ctx.arg name))) (rest ctx)) →
    (∀ number, ReadsFirst names fun ctx => rest ctx number) → ReadsFirst ((name, needed) :: names) run
  | needs {name : String} {names : List (String × Bool)} {run : Context → Check Verdict}
      {rest : Context → Int → Check Verdict} :
    (∀ ctx, run ctx =
      Program.bind (liftM (do (← ctx.needed name).toWhole : Except Misuse Int)) (rest ctx)) →
    (∀ number, ReadsFirst names fun ctx => rest ctx number) → ReadsFirst ((name, true) :: names) run

variable {names : List (String × Bool)} {run : Context → Check Verdict}

/-- Where the numbers can be read, the check goes on. -/
theorem ReadsFirst.starts (first : ReadsFirst names run)
    (readable : ∀ pair ∈ names, Readable ctx pair.1 pair.2) (failure : Failure) : run ctx ≠ .failed failure := by
  induction first with
  | goesOn _ starts => exact starts ctx failure
  | @reads name needed names run rest run_eq _ ih =>
    obtain ⟨here, later⟩ := List.forall_mem_cons.mp readable
    obtain ⟨number, read⟩ := here.read
    rw [run_eq, read]
    exact ih number later
  | @needs name names run rest run_eq _ ih =>
    obtain ⟨here, later⟩ := List.forall_mem_cons.mp readable
    obtain ⟨number, read⟩ := here.read
    obtain ⟨value, found, given⟩ := here.given rfl
    rw [run_eq, needed_toWhole found given, read]
    exact ih _ later

/-- Arguments whose numbers are read alike make no difference. -/
theorem ReadsFirst.alike (first : ReadsFirst names run) {args : Json.Members}
    (readable : ∀ pair ∈ names, Readable ctx pair.1 pair.2)
    (readable' : ∀ pair ∈ names, Readable { ctx with args } pair.1 pair.2)
    (same : ∀ pair ∈ names, number? (({ ctx with args } : Context).arg pair.1) = number? (ctx.arg pair.1)) :
    run { ctx with args } = run ctx := by
  induction first with
  | goesOn blind _ => exact blind ctx args
  | @reads name needed names run rest run_eq _ ih =>
    obtain ⟨here, later⟩ := List.forall_mem_cons.mp readable
    obtain ⟨-, later'⟩ := List.forall_mem_cons.mp readable'
    obtain ⟨same, others⟩ := List.forall_mem_cons.mp same
    obtain ⟨number, read⟩ := here.read
    rw [run_eq, run_eq, same, read]
    exact ih number later later' others
  | @needs name names run rest run_eq _ ih =>
    obtain ⟨here, later⟩ := List.forall_mem_cons.mp readable
    obtain ⟨here', later'⟩ := List.forall_mem_cons.mp readable'
    obtain ⟨same, others⟩ := List.forall_mem_cons.mp same
    obtain ⟨number, read⟩ := here.read
    obtain ⟨value, found, given⟩ := here.given rfl
    obtain ⟨value', found', given'⟩ := here'.given rfl
    rw [run_eq, run_eq, needed_toWhole found given, needed_toWhole found' given', same, read]
    exact ih _ later later' others

/-- An empty list in place of a number fails the check before it has asked anything. -/
theorem ReadsFirst.fails (first : ReadsFirst names run)
    (standing : ∀ pair ∈ names, Readable ctx pair.1 pair.2 ∨ pair.2 = false ∧ ctx.arg pair.1 = .arr [])
    (list : ∃ pair ∈ names, ctx.arg pair.1 = .arr []) : run ctx = .failed (.misuse listMisuse) := by
  induction first with
  | goesOn => obtain ⟨pair, inside, -⟩ := list; cases inside
  | @reads name needed names run rest run_eq _ ih =>
    obtain ⟨here, later⟩ := List.forall_mem_cons.mp standing
    rw [run_eq]
    rcases here with readable | ⟨-, empty⟩
    · have others : ∃ pair ∈ names, ctx.arg pair.1 = .arr [] := by
        obtain ⟨pair, inside, empty⟩ := list
        rcases List.mem_cons.mp inside with rfl | inside
        · exact absurd empty readable.not_list
        · exact ⟨pair, inside, empty⟩
      obtain ⟨number, read⟩ := readable.read
      rw [read]
      exact ih number later others
    · rw [show ctx.arg name = .arr [] from empty]
      rfl
  | @needs name names run rest run_eq _ ih =>
    obtain ⟨here, later⟩ := List.forall_mem_cons.mp standing
    have readable := here.resolve_right nofun
    have others : ∃ pair ∈ names, ctx.arg pair.1 = .arr [] := by
      obtain ⟨pair, inside, empty⟩ := list
      rcases List.mem_cons.mp inside with rfl | inside
      · exact absurd empty readable.not_list
      · exact ⟨pair, inside, empty⟩
    obtain ⟨number, read⟩ := readable.read
    obtain ⟨value, found, given⟩ := readable.given rfl
    rw [run_eq, needed_toWhole found given, read]
    exact ih _ later others

theorem ReadsFirst.readsOr {absent : Int} {needed : Bool} {rest : Context → Int → Check Verdict}
    (run_eq : ∀ ctx, run ctx = Program.bind (liftM (Content.numberOr absent (ctx.arg name))) (rest ctx))
    (later : ∀ number, ReadsFirst names fun ctx => rest ctx number) :
    ReadsFirst ((name, needed) :: names) run := by
  refine @ReadsFirst.reads name needed names run (fun ctx number => rest ctx (number.getD absent))
    (fun ctx => ?_) fun _ => later _
  rw [run_eq, Content.numberOr]
  cases number? (ctx.arg name) <;> rfl

theorem ReadsFirst.readsBound {needed : Bool} {rest : Context → Option Int → Check Verdict}
    (run_eq : ∀ ctx, run ctx = Program.bind (liftM (Profile.bound? (ctx.arg name))) (rest ctx))
    (later : ∀ number, ReadsFirst names fun ctx => rest ctx number) :
    ReadsFirst ((name, needed) :: names) run := by
  refine @ReadsFirst.reads name needed names run (fun ctx number => rest ctx (number.filter (· != 0)))
    (fun ctx => ?_) fun _ => later _
  rw [run_eq, Profile.bound?]
  cases number? (ctx.arg name) <;> rfl

/-- A check that has its verdict goes on. -/
theorem ReadsFirst.verdict {verdict : Context → Verdict}
    (blind : ∀ ctx args, verdict { ctx with args } = verdict ctx) : ReadsFirst [] fun ctx => pure (verdict ctx) :=
  .goesOn (fun ctx args => congrArg Program.done (blind ctx args)) fun _ _ => nofun

/-- A check that asks something goes on. -/
theorem ReadsFirst.asks {question : Context → Ask}
    {next : (ctx : Context) → Answer (question ctx) → Check Verdict}
    (blind : ∀ ctx args, (Program.ask (question { ctx with args }) (next { ctx with args }) : Check Verdict) =
      .ask (question ctx) (next ctx)) :
    ReadsFirst [] fun ctx => .ask (question ctx) (next ctx) :=
  .goesOn blind fun _ _ => nofun

/-! ## The catalogue -/

/-- The numbers of a check by name, and whether it needs them. -/
def numberNames (entry : Entry) : List (String × Bool) :=
  entry.definition.numbers.map fun arg => (arg.name, arg.required)

/-- A check that takes numbers reads them first. One that looks at casts does so where there
is a cast. -/
inductive Numeric (entry : Entry) : Prop where
  | user : entry.definition.subject = .user → ReadsFirst (numberNames entry) entry.run → Numeric entry
  | cast {looks : Context → Cast → Check Verdict} :
    entry.definition.subject = .cast → (∀ ctx, entry.run ctx = Content.onCast ctx (looks ctx)) →
    (∀ cast, ReadsFirst (numberNames entry) fun ctx => looks ctx cast) → Numeric entry

theorem castLength_numeric : Numeric Content.castLength := by
  have names : numberNames Content.castLength = [("min", false), ("max", false)] := by decide
  refine .cast rfl (fun _ => rfl) fun cast => ?_
  rw [names]
  exact .readsOr (fun _ => rfl) fun least => .readsOr (fun _ => rfl) fun most => .verdict fun _ _ => rfl

theorem tooManyMentions_numeric : Numeric Content.tooManyMentions := by
  have names : numberNames Content.tooManyMentions = [("maxMentions", true)] := by decide
  refine .cast rfl (fun _ => rfl) fun cast => ?_
  rw [names]
  exact .readsOr (fun _ => rfl) fun most => .verdict fun _ _ => rfl

theorem tooManyLinks_numeric : Numeric Content.tooManyLinks := by
  have names : numberNames Content.tooManyLinks = [("maxLinks", false)] := by decide
  refine .cast rfl (fun _ => rfl) fun cast => ?_
  rw [names]
  exact .readsOr (fun _ => rfl) fun most => .verdict fun _ _ => rfl

theorem followerCount_numeric : Numeric Profile.followerCount := by
  have names : numberNames Profile.followerCount = [("min", false), ("max", false)] := by decide
  refine .user rfl ?_
  rw [names]
  exact .readsBound (fun _ => rfl) fun least => .readsBound (fun _ => rfl) fun most =>
    .verdict fun _ _ => rfl

theorem fidInRange_numeric : Numeric Profile.fidInRange := by
  have names : numberNames Profile.fidInRange = [("minFid", false), ("maxFid", false)] := by decide
  refine .user rfl ?_
  rw [names]
  exact .readsBound (fun _ => rfl) fun least => .readsBound (fun _ => rfl) fun most =>
    .verdict fun _ _ => rfl

theorem rank_numeric {entry : Entry} (listed : entry ∈ [Standing.farRank, Standing.globalEngagement,
    Standing.channelEngagement]) : Numeric entry := by
  have ranks {entry : Entry} (names : numberNames entry = [("minRank", true)])
      (first : ReadsFirst [("minRank", true)] entry.run) (user : entry.definition.subject = .user) : Numeric entry :=
    .user user (names ▸ first)
  simp only [List.mem_cons, List.not_mem_nil, or_false] at listed
  rcases listed with rfl | rfl | rfl
  · exact ranks (by decide) (.needs (fun _ => rfl) fun least => .asks fun _ _ => rfl) rfl
  · exact ranks (by decide) (.needs (fun _ => rfl) fun least => .asks fun _ _ => rfl) rfl
  · exact ranks (by decide) (.needs (fun _ => rfl) fun least => .asks fun _ _ => rfl) rfl

theorem guildRole_numeric : Numeric Credentials.guildRole := by
  have names : numberNames Credentials.guildRole = [("guildId", true), ("roleId", false)] := by decide
  refine .user rfl ?_
  rw [names]
  exact .needs (fun _ => rfl) fun guild => .reads (fun _ => rfl) fun role =>
    .asks fun _ _ => rfl

/-- The checks of the catalogue that take numbers. -/
theorem numeric_eq : catalogue.filter (fun entry => !(numberNames entry).isEmpty) =
    [Profile.followerCount, Profile.fidInRange, Content.castLength, Content.tooManyMentions,
      Content.tooManyLinks, Standing.farRank, Standing.globalEngagement, Standing.channelEngagement,
      Credentials.guildRole] := by
  rfl

theorem catalogue_numeric {entry : Entry} (listed : entry ∈ catalogue) (takes : numberNames entry ≠ []) :
    Numeric entry := by
  have numeric : entry ∈ catalogue.filter fun entry => !(numberNames entry).isEmpty :=
    List.mem_filter.mpr ⟨listed, by simpa using takes⟩
  rw [numeric_eq] at numeric
  simp only [List.mem_cons, List.not_mem_nil, or_false] at numeric
  rcases numeric with rfl | rfl | rfl | rfl | rfl | rank | rank | rank | rfl
  · exact followerCount_numeric
  · exact fidInRange_numeric
  · exact castLength_numeric
  · exact tooManyMentions_numeric
  · exact tooManyLinks_numeric
  · exact rank_numeric (by simp [rank])
  · exact rank_numeric (by simp [rank])
  · exact rank_numeric (by simp [rank])
  · exact guildRole_numeric

theorem Numeric.starts {entry : Entry} (numeric : Numeric entry)
    (readable : ∀ pair ∈ numberNames entry, Readable ctx pair.1 pair.2) (failure : Failure) :
    entry.run ctx ≠ .failed failure := by
  cases numeric with
  | user _ first => exact first.starts readable failure
  | cast _ run_eq first =>
    rw [run_eq, Content.onCast]
    cases ctx.cast with
    | none => exact nofun
    | some cast => exact (first cast).starts readable failure

theorem Numeric.alike {entry : Entry} (numeric : Numeric entry) {args : Json.Members}
    (readable : ∀ pair ∈ numberNames entry, Readable ctx pair.1 pair.2)
    (readable' : ∀ pair ∈ numberNames entry, Readable { ctx with args } pair.1 pair.2)
    (same : ∀ pair ∈ numberNames entry,
      number? (({ ctx with args } : Context).arg pair.1) = number? (ctx.arg pair.1)) :
    entry.run { ctx with args } = entry.run ctx := by
  cases numeric with
  | user _ first => exact first.alike readable readable' same
  | cast _ run_eq first =>
    rw [run_eq, run_eq, Content.onCast, Content.onCast]
    cases here : ctx.cast with
    | none => rfl
    | some cast =>
      have alike := (first cast).alike readable readable' same
      simpa only [here] using alike

theorem Numeric.fails {entry : Entry} (numeric : Numeric entry)
    (standing : ∀ pair ∈ numberNames entry,
      Readable ctx pair.1 pair.2 ∨ pair.2 = false ∧ ctx.arg pair.1 = .arr [])
    (list : ∃ pair ∈ numberNames entry, ctx.arg pair.1 = .arr [])
    (present : entry.definition.subject = .cast → ctx.cast.isSome = true) :
    entry.run ctx = .failed (.misuse listMisuse) := by
  cases numeric with
  | user _ first => exact first.fails standing list
  | cast ofCast run_eq first =>
    obtain ⟨cast, here⟩ := Option.isSome_iff_exists.mp (present ofCast)
    rw [run_eq, Content.onCast, here]
    exact (first cast).fails standing list

/-! ## Rules that are accepted -/

theorem mem_catalogue {entry : Entry} (named : byName? name = some entry) :
    entry ∈ catalogue ∧ entry.definition.name = name :=
  ⟨List.mem_of_find?_eq_some named, by simpa using List.find?_some named⟩

/-- The numbers of a leaf that was accepted can be read, but for empty lists. -/
theorem accepted_numbers {kind : Option RuleSetKind} {rule : Rule} {leaf : Condition} {entry : Entry}
    (accepted : registry.check kind rule = .ok ()) (inside : leaf ∈ rule.leaves)
    (named : byName? leaf.name = some entry) (given : ctx.args = leaf.args) :
    ∀ arg ∈ entry.definition.numbers,
      Readable ctx arg.name arg.required ∨ arg.required = false ∧ ctx.arg arg.name = .arr [] := by
  intro arg listed
  obtain ⟨listed, number⟩ := Definition.mem_numbers.mp listed
  obtain ⟨member, named⟩ := mem_catalogue named
  have admits := (Registry.check_accepts_iff.mp accepted).each leaf inside
  have accepts := admits.supplied entry.definition (List.mem_map_of_mem member) named arg listed
  exact readable_or_list (given ▸ accepts) number

/-- A number as it reads where it is written out itself. -/
theorem readable_written {args : Json.Members} {number : Option Int} {needed : Bool}
    (readable : Readable ctx name needed) (read : number? (ctx.arg name) = .ok number)
    (written : Json.Members.get? name args = number.map .int) :
    Readable { ctx with args } name needed ∧
      number? (({ ctx with args } : Context).arg name) = number? (ctx.arg name) := by
  cases number with
  | none =>
    have blank : ({ ctx with args } : Context).arg name = .null := by
      rw [Context.arg, Context.arg?, written]
      rfl
    have same : number? (({ ctx with args } : Context).arg name) = .ok none := by rw [blank]; rfl
    refine ⟨⟨⟨none, same⟩, fun isNeeded => ?_⟩, same.trans read.symm⟩
    -- A number that is needed was given, so it was not read as none.
    obtain ⟨value, found, present⟩ := readable.given isNeeded
    rw [arg_of_get? found, number?_given present] at read
    cases whole : value.toWhole <;> simp [whole, Except.map] at read
  | some n =>
    have here : ({ ctx with args } : Context).arg name = .int n := arg_of_get? written
    have same : number? (({ ctx with args } : Context).arg name) = .ok (some n) := by rw [here]; rfl
    exact ⟨⟨⟨some n, same⟩, fun _ => ⟨.int n, written, nofun⟩⟩, same.trans read.symm⟩

/-- Of the numbers in a rule that was accepted, an empty list is the one thing that cannot be
read, and it is accepted only where a number may be left out. A check reads its numbers before
it asks anything. Without such a list it goes on, as it would with the numbers themselves for
its arguments; with one it fails. -/
theorem only_empty_lists_break_numbers {kind : Option RuleSetKind} {rule : Rule} {leaf : Condition}
    {entry : Entry} (accepted : registry.check kind rule = .ok ()) (inside : leaf ∈ rule.leaves)
    (named : byName? leaf.name = some entry) (given : ctx.args = leaf.args) :
    (∀ arg ∈ entry.definition.numbers,
      (∃ number, number? (ctx.arg arg.name) = .ok number) ↔ ctx.arg arg.name ≠ .arr []) ∧
    (entry.definition.numbers ≠ [] → (∀ arg ∈ entry.definition.numbers, ctx.arg arg.name ≠ .arr []) →
      (∀ failure, entry.run ctx ≠ .failed failure) ∧
      ∀ args, (∀ arg ∈ entry.definition.numbers, ∀ number, number? (ctx.arg arg.name) = .ok number →
        Json.Members.get? arg.name args = number.map .int) → entry.run { ctx with args } = entry.run ctx) ∧
    ∀ arg ∈ entry.definition.numbers, ctx.arg arg.name = .arr [] →
      arg.required = false ∧
      ((entry.definition.subject = .cast → ctx.cast.isSome = true) →
        entry.run ctx = .failed (.misuse (.notConvertible "list"))) := by
  have standing := accepted_numbers accepted inside named given
  have listed := (mem_catalogue named).1
  have pairs {property : String × Bool → Prop} :
      (∀ pair ∈ numberNames entry, property pair) ↔
        ∀ arg ∈ entry.definition.numbers, property (arg.name, arg.required) := by
    simp [numberNames]
  refine ⟨fun arg number => ⟨?_, fun given => ?_⟩, fun takes given => ?_, fun arg number list => ?_⟩
  · rintro ⟨number, read⟩ list
    rw [list] at read
    cases read
  · exact ((standing arg number).resolve_right fun list => given list.2).read
  · have numeric := catalogue_numeric listed (by simpa [numberNames] using takes)
    have readable : ∀ arg ∈ entry.definition.numbers, Readable ctx arg.name arg.required :=
      fun arg number => (standing arg number).resolve_right fun list => given arg number list.2
    refine ⟨numeric.starts (pairs.mpr readable), fun args written => ?_⟩
    have rewritten : ∀ arg ∈ entry.definition.numbers, Readable { ctx with args } arg.name arg.required ∧
        number? (({ ctx with args } : Context).arg arg.name) = number? (ctx.arg arg.name) := by
      intro arg number
      obtain ⟨value, read⟩ := (readable arg number).read
      exact readable_written (readable arg number) read (written arg number value read)
    exact numeric.alike (pairs.mpr readable) (pairs.mpr fun arg number => (rewritten arg number).1)
      (pairs.mpr fun arg number => (rewritten arg number).2)
  · have takes : numberNames entry ≠ [] := by
      simpa [numberNames] using List.ne_nil_of_mem number
    have optional : arg.required = false := by
      rcases standing arg number with readable | ⟨optional, -⟩
      · exact absurd list readable.not_list
      · exact optional
    have named : ∃ pair ∈ numberNames entry, ctx.arg pair.1 = .arr [] :=
      ⟨(arg.name, arg.required), List.mem_map_of_mem number, list⟩
    exact ⟨optional, (catalogue_numeric listed takes).fails (pairs.mpr standing) named⟩

/-- A bound on followers may be saved as an empty list; the check then fails for everybody. -/
theorem empty_bound_breaks_follower_count :
    let leaf : Condition := ⟨"userFollowerCount", [("min", .arr [])]⟩
    let ctx : Context := ⟨default, default, none, leaf.args, default, false, false⟩
    registry.check (some .exclusion) (.condition leaf) = .ok () ∧
      Profile.followerCount.run ctx = .failed (.misuse (.notConvertible "list")) := by
  intro leaf ctx
  have accepted : registry.check (some .exclusion) (.condition leaf) = .ok () := by rfl
  have named : byName? leaf.name = some Profile.followerCount := by rfl
  refine ⟨accepted, ?_⟩
  obtain ⟨-, -, fails⟩ := only_empty_lists_break_numbers accepted (List.mem_singleton.mpr rfl) named
    (show ctx.args = leaf.args from rfl)
  exact (fails _ (Definition.mem_numbers.mpr ⟨.head _, rfl⟩) rfl).2 nofun

end Check

end Curation
