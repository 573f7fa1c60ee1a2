import Curation.Proofs.Check.Numbers

/-! Checks of a range. They compare a number with two bounds, either of which may be left unset,
and their descriptions promise a trigger below the one and above the other. The checks of
followers and of fids keep to that. The check of the length of a cast takes the two bounds for
each other and triggers between them. -/
namespace Curation

/-! ## Bounds -/

/-- The whole number that a value stands for. -/
inductive Json.StandsFor : Json → Int → Prop
  | number {x : Number} {n : Int} : x.eq (.whole n) = true → StandsFor (.number x) n
  | text {s : String} {n : Int} : Text.readWhole? 10 s.toList = some n → StandsFor (.str s) n

/-- The bound that a value sets. A blank value and a zero set none. -/
def Json.Bounds (value : Json) (bound : Option Int) : Prop :=
  ∀ n, bound = some n ↔ value.StandsFor n ∧ n ≠ 0

/-- A number that equals a whole one is that one when its fraction is cut off. -/
theorem Binary64.truncate?_of_eq {x : Binary64} {n : Int} (equal : Number.eq (.real x) (.whole n) = true) :
    x.truncate? = some n := by
  cases x with
  | nan => simp [Number.eq, Number.compare?, Number.compareWhole] at equal
  | infinity negative => cases negative <;> simp [Number.eq, Number.compare?, Number.compareWhole] at equal
  | finite negative m e =>
    have scaled : n * Nat.pow 2 (-(min e 0)).toNat = overPower negative m e (min e 0) := by
      simpa [Number.eq, Number.compare?, Number.compareWhole] using equal
    by_cases point : 0 ≤ e
    · have base : min e 0 = 0 := by omega
      have whole : n = overPower negative m e 0 := by simpa [base] using scaled
      simp [truncate?, point, whole, overPower]
    · have base : min e 0 = e := by omega
      have size : overPower negative m e e = if negative then -(m : Int) else m := by simp [overPower]
      have unit : (Nat.pow 2 (-e).toNat : Int) ≠ 0 := by
        exact_mod_cast Nat.ne_of_gt (Nat.pow_pos (n := (-e).toNat) Nat.two_pos)
      rw [base, size] at scaled
      simp only [truncate?, point, if_false, Option.some.injEq, Int.natCast_ediv]
      cases negative with
      | false =>
        rw [if_neg Bool.false_ne_true] at scaled ⊢
        rw [← scaled, Int.mul_ediv_cancel _ unit]
      | true =>
        rw [if_pos rfl] at scaled ⊢
        rw [show (m : Int) = -n * Nat.pow 2 (-e).toNat by rw [Int.neg_mul, scaled, Int.neg_neg],
          Int.mul_ediv_cancel _ unit, Int.neg_neg]

theorem Json.StandsFor.toWhole {value : Json} {n : Int} (stands : value.StandsFor n) :
    value.toWhole = .ok n := by
  cases stands with
  | @number x _ equal =>
    cases x with
    | whole m =>
      have same : m = n := by simpa [Number.eq, Number.compare?] using equal
      rw [same]
      rfl
    | real x => simp [Json.toWhole, Binary64.truncate?_of_eq equal]
  | text read => simp [Json.toWhole, read]

theorem Json.Whole.standsFor {value : Json} (whole : value.Whole) : ∃ n, value.StandsFor n := by
  cases whole with
  | number equal => exact ⟨_, .number equal⟩
  | text read => exact ⟨_, .text read⟩

theorem Json.StandsFor.bounds {value : Json} {n : Int} (stands : value.StandsFor n) :
    value.Bounds (some n |>.filter (· != 0)) := by
  intro m
  have filtered : (some n |>.filter (· != 0)) = some m ↔ n = m ∧ m ≠ 0 := by
    by_cases zero : n = 0
    · subst zero
      simp only [Option.filter, bne_self_eq_false, Bool.false_eq_true, if_false, reduceCtorEq, false_iff]
      exact fun both => both.2 both.1.symm
    · simpa [Option.filter, zero] using fun same => same ▸ zero
  rw [filtered]
  constructor
  · rintro ⟨rfl, set⟩
    exact ⟨stands, set⟩
  · rintro ⟨other, set⟩
    exact ⟨Except.ok.inj (stands.toWhole.symm.trans other.toWhole), set⟩

/-- What stands for no number sets no bound. -/
theorem Json.Bounds.none {value : Json} (nothing : ∀ n, ¬ value.StandsFor n) : value.Bounds none := by
  intro n
  exact iff_of_false (Option.some_ne_none n).symm fun both => nothing n both.1

namespace Check

variable {ctx : Context} {n : Int} {least most : Option Int}

/-- A bound as the checks read it, which is as it was set. -/
structure ReadsBound (value : Json) (bound : Option Int) : Prop where
  set : value.Bounds bound
  optional : Profile.bound? value = .ok bound
  number : Content.numberOr 0 value = .ok (bound.getD 0)

theorem ReadsBound.nonzero {value : Json} {bound : Option Int} (reads : ReadsBound value bound) :
    bound ≠ some 0 := by
  intro zero
  exact ((reads.set 0).mp zero).2 rfl

theorem readsBound_none {value : Json} (read : number? value = .ok none) (set : value.Bounds none) :
    ReadsBound value none := by
  refine ⟨set, ?_, ?_⟩
  · rw [Profile.bound?, read]
    rfl
  · rw [Content.numberOr, read]
    rfl

theorem readsBound_some {value : Json} (given : ¬ value.Blank) (stands : value.StandsFor n) :
    ReadsBound value (some n |>.filter (· != 0)) := by
  have read : number? value = .ok (some n) := by rw [number?_given given, stands.toWhole]; rfl
  refine ⟨stands.bounds, ?_, ?_⟩
  · rw [Profile.bound?, read]
    rfl
  · rw [Content.numberOr, read]
    by_cases zero : n = 0
    · subst zero
      rfl
    · have kept : (some n |>.filter (· != 0)) = some n := by simp [Option.filter, zero]
      rw [kept]
      rfl

/-- What is accepted for a number is an empty list or sets a bound, if any. -/
theorem readsBound_of_accepts {arg : Argument} (accepts : arg.Accepts ctx.args)
    (number : arg.type = "number") :
    ctx.arg arg.name = .arr [] ∨ ∃ bound, ReadsBound (ctx.arg arg.name) bound := by
  cases found : Json.Members.get? arg.name ctx.args with
  | none =>
    have absent : ctx.arg arg.name = .null := by rw [Context.arg, Context.arg?, found]; rfl
    rw [absent]
    exact .inr ⟨none, readsBound_none rfl (.none fun _ stands => by cases stands)⟩
  | some value =>
    rw [arg_of_get? found]
    by_cases blank : value.Blank
    · cases blank with
      | null => exact .inr ⟨none, readsBound_none rfl (.none fun _ stands => by cases stands)⟩
      | text =>
        have empty : Text.readWhole? 10 "".toList = none := by decide +kernel
        refine .inr ⟨none, readsBound_none rfl (.none fun n stands => ?_)⟩
        cases stands with
        | text read => cases empty.symm.trans read
      | list => exact .inl rfl
    · obtain ⟨n, stands⟩ := (accepts.whole number value found blank).standsFor
      exact .inr ⟨_, readsBound_some blank stands⟩

/-! ## Laws of a range -/

/-- Below a lower bound or above an upper one. -/
def Outside (n : Int) (least most : Option Int) : Prop :=
  (∃ bound ∈ least, n < bound) ∨ ∃ bound ∈ most, bound < n

/-- At a lower bound or above it, and at an upper bound or below it. -/
def Within (n : Int) (least most : Option Int) : Prop :=
  (∀ bound ∈ least, bound ≤ n) ∧ ∀ bound ∈ most, n ≤ bound

/-- Where two bounds are taken for each other, the numbers between them are not the ones outside of
them. Wrong are the numbers that meet every bound, and those on one side of both. With one bound set,
that is the bound itself, and with none it is every number. -/
theorem reversed_departs_iff :
    ¬ (Within n most least ↔ Outside n least most) ↔
      (∀ bound, bound ∈ least ∨ bound ∈ most → n = bound) ∨
        ∃ low ∈ least, ∃ high ∈ most, n < low ∧ n < high ∨ low < n ∧ high < n := by
  unfold Within Outside
  cases least with
  | none =>
    cases most with
    | none => simp
    | some high =>
      simp only [Option.mem_def, reduceCtorEq, false_and, exists_false, false_or, or_false,
        Option.some.injEq, exists_eq_left', forall_eq', IsEmpty.forall_iff, implies_true, and_true]
      omega
  | some low =>
    cases most with
    | none =>
      simp only [Option.mem_def, reduceCtorEq, false_and, exists_false, and_false, or_false,
        Option.some.injEq, exists_eq_left', forall_eq', IsEmpty.forall_iff, implies_true, true_and]
      omega
    | some high =>
      simp only [Option.mem_def, Option.some.injEq, or_imp, forall_and, forall_eq', exists_eq_left']
      omega

theorem outside_iff : Outside n least most ↔ Profile.below n least = true ∨ Profile.above n most = true := by
  have below : Profile.below n least = true ↔ ∃ bound ∈ least, n < bound := by
    cases least <;> simp [Profile.below]
  have above : Profile.above n most = true ↔ ∃ bound ∈ most, bound < n := by
    cases most <;> simp [Profile.above]
  rw [Outside, below, above]

theorem followerVerdict_passed :
    (Profile.followerVerdict n least most).passed = true ↔ Outside n least most := by
  rw [outside_iff]
  unfold Profile.followerVerdict
  split
  · simp_all
  · split <;> simp_all

theorem fidVerdict_passed : (Profile.fidVerdict n least most).passed = true ↔ Outside n least most := by
  rw [outside_iff]
  unfold Profile.fidVerdict
  split
  · simp_all
  · split <;> simp_all

theorem lengthVerdict_passed (lowSet : least ≠ some 0) (highSet : most ≠ some 0) :
    (Content.lengthVerdict n (least.getD 0) (most.getD 0)).passed = true ↔ Within n most least := by
  have above : (least.getD 0 ≠ 0 ∧ least.getD 0 < n) ↔ ∃ bound ∈ least, bound < n := by
    cases least with
    | none => simp
    | some low => simpa using fun _ => by simpa using lowSet
  have below : (most.getD 0 ≠ 0 ∧ n < most.getD 0) ↔ ∃ bound ∈ most, n < bound := by
    cases most with
    | none => simp
    | some high => simpa using fun _ => by simpa using highSet
  have spared : (Content.lengthVerdict n (least.getD 0) (most.getD 0)).passed = true ↔
      ¬ (least.getD 0 ≠ 0 ∧ least.getD 0 < n) ∧ ¬ (most.getD 0 ≠ 0 ∧ n < most.getD 0) := by
    unfold Content.lengthVerdict
    split
    · simp_all
    · split <;> simp_all
  rw [spared, above, below, and_comm]
  simp [Within]

/-! ## The three checks -/

/-- A check of a range fails on an empty list for a bound. Otherwise it comes to a verdict, which
triggers by a law on the bounds that are set. -/
structure Judges (ctx : Context) (entry : Entry) (low high : String)
    (triggers : Option Int → Option Int → Prop) : Prop where
  list : ctx.arg low = .arr [] ∨ ctx.arg high = .arr [] → entry.run ctx = .failed (.misuse listMisuse)
  bounds : ctx.arg low ≠ .arr [] → ctx.arg high ≠ .arr [] → ∃ least most verdict,
    (ctx.arg low).Bounds least ∧ (ctx.arg high).Bounds most ∧ entry.run ctx = .done verdict ∧
      (verdict.passed = true ↔ triggers least most)

variable {low high : String} {triggers : Option Int → Option Int → Prop}

/-- A check that reads both bounds alike, the lower one first, and judges by them. -/
theorem Judges.of_reads {α : Type} {entry : Entry} {read : Json → Except Misuse α} {of : Option Int → α}
    {verdict : α → α → Verdict}
    (run_eq : entry.run ctx = Program.bind (liftM (read (ctx.arg low))) fun least =>
      Program.bind (liftM (read (ctx.arg high))) fun most => .done (verdict least most))
    (list : read (.arr []) = .error listMisuse)
    (reads : ∀ value bound, ReadsBound value bound → read value = .ok (of bound))
    (given : ∀ name ∈ [low, high], ctx.arg name = .arr [] ∨ ∃ bound, ReadsBound (ctx.arg name) bound)
    (law : ∀ least most, least ≠ some 0 → most ≠ some 0 →
      ((verdict (of least) (of most)).passed = true ↔ triggers least most)) :
    Judges ctx entry low high triggers := by
  have lowGiven := given low (by simp)
  have highGiven := given high (by simp)
  constructor
  · intro empty
    rw [run_eq]
    rcases lowGiven with lowEmpty | ⟨least, lowRead⟩
    · rw [lowEmpty, list]
      rfl
    · have highEmpty : ctx.arg high = .arr [] := by
        refine empty.resolve_left fun lowEmpty => ?_
        have failed := reads _ _ lowRead
        rw [lowEmpty, list] at failed
        cases failed
      rw [reads _ _ lowRead, highEmpty, list]
      rfl
  · intro lowFull highFull
    obtain ⟨least, lowRead⟩ := lowGiven.resolve_left lowFull
    obtain ⟨most, highRead⟩ := highGiven.resolve_left highFull
    refine ⟨least, most, verdict (of least) (of most), lowRead.set, highRead.set, ?_, ?_⟩
    · rw [run_eq, reads _ _ lowRead, reads _ _ highRead]
      rfl
    · exact law least most lowRead.nonzero highRead.nonzero

/-- The numbers of an accepted leaf are empty lists or set bounds, if any. -/
theorem accepted_bounds (entry : Entry) (listed : entry ∈ catalogue) {kind : Option RuleSetKind} {rule : Rule}
    {leaf : Condition} {names : List String} (accepted : registry.check kind rule = .ok ())
    (inside : leaf ∈ rule.leaves) (named : leaf.name = entry.definition.name) (given : ctx.args = leaf.args)
    (numbers : entry.definition.numbers.map (·.name) = names) :
    ∀ name ∈ names, ctx.arg name = .arr [] ∨ ∃ bound, ReadsBound (ctx.arg name) bound := by
  intro name member
  rw [← numbers] at member
  obtain ⟨arg, number, rfl⟩ := List.mem_map.mp member
  obtain ⟨member, number⟩ := Definition.mem_numbers.mp number
  have admits := (Registry.check_accepts_iff.mp accepted).each leaf inside
  have accepts := admits.supplied entry.definition (List.mem_map_of_mem listed) named.symm arg member
  exact readsBound_of_accepts (given ▸ accepts) number

/-- The checks of followers and of fids trigger outside of their bounds, as their descriptions say. The
check of the length of a cast takes its bounds for each other: it triggers unless the cast is above the
lower bound or below the upper one. So it departs from its description for every length if no bound is
set, for the bound itself if one is set, and otherwise for lengths that are at both bounds or on one
side of both. -/
theorem length_check_takes_bounds_for_each_other {kind : Option RuleSetKind} {rule : Rule} {leaf : Condition}
    (accepted : registry.check kind rule = .ok ()) (inside : leaf ∈ rule.leaves)
    (given : ctx.args = leaf.args) :
    (leaf.name = "userFollowerCount" →
      Judges ctx Profile.followerCount "min" "max" (Outside ctx.user.followerCount)) ∧
    (leaf.name = "userFidInRange" →
      Judges ctx Profile.fidInRange "minFid" "maxFid" (Outside ctx.user.fid)) ∧
    (leaf.name = "castLength" → ∀ cast, ctx.cast = some cast →
      Judges ctx Content.castLength "min" "max" fun least most => Within cast.text.length most least) ∧
    ∀ (length : Int) (least most : Option Int),
      ¬ (Within length most least ↔ Outside length least most) ↔
        (∀ bound, bound ∈ least ∨ bound ∈ most → length = bound) ∨
          ∃ low ∈ least, ∃ high ∈ most,
            length < low ∧ length < high ∨ low < length ∧ high < length := by
  refine ⟨fun named => ?_, fun named => ?_, fun named cast there => ?_, fun _ _ _ => reversed_departs_iff⟩
  · have listed : Profile.followerCount ∈ catalogue := by simp [catalogue, Profile.entries]
    have bounds := accepted_bounds Profile.followerCount listed accepted inside named given rfl
    exact .of_reads rfl rfl (fun _ _ reads => reads.optional) bounds fun _ _ _ _ => followerVerdict_passed
  · have listed : Profile.fidInRange ∈ catalogue := by simp [catalogue, Profile.entries]
    have bounds := accepted_bounds Profile.fidInRange listed accepted inside named given rfl
    exact .of_reads rfl rfl (fun _ _ reads => reads.optional) bounds fun _ _ _ _ => fidVerdict_passed
  · have listed : Content.castLength ∈ catalogue := by simp [catalogue, Content.entries]
    have bounds := accepted_bounds Content.castLength listed accepted inside named given rfl
    have looks : Content.castLength.run ctx =
        Program.bind (liftM (Content.numberOr 0 (ctx.arg "min"))) fun least =>
          Program.bind (liftM (Content.numberOr 0 (ctx.arg "max"))) fun most =>
            .done (Content.lengthVerdict cast.text.length least most) := by
      simp only [Content.castLength, Content.onCast, there]
      rfl
    exact .of_reads looks rfl (fun _ _ reads => reads.number) bounds fun _ _ => lengthVerdict_passed

/-- A cast of five characters triggers a check for less than five. -/
theorem five_characters_are_less_than_five :
    let leaf : Condition := ⟨"castLength", [("min", .int 5)]⟩
    let cast : Cast := { hash := "0x1", author := default, text := "hello" }
    let ctx : Context := ⟨default, default, some cast, leaf.args, default, false, false⟩
    registry.check (some .exclusion) (.condition leaf) = .ok () ∧
      ¬ Outside cast.text.length (some 5) none ∧
      ∃ verdict, Content.castLength.run ctx = .done verdict ∧ verdict.passed = true := by
  intro leaf cast ctx
  have accepted : registry.check (some .exclusion) (.condition leaf) = .ok () := by rfl
  have law := length_check_takes_bounds_for_each_other accepted (List.mem_singleton.mpr rfl)
    (show ctx.args = leaf.args from rfl)
  obtain ⟨least, most, verdict, low, high, ends, triggers⟩ :=
    (law.2.2.1 rfl cast rfl).bounds nofun nofun
  have five : Number.eq (.whole 5) (.whole 5) = true := by decide
  obtain rfl : least = some 5 := (low 5).mpr ⟨.number five, by decide⟩
  obtain rfl : most = none := Option.eq_none_iff_forall_ne_some.mpr fun n same => nomatch ((high n).mp same).1
  have length : (cast.text.length : Int) = 5 := by decide
  rw [length] at triggers ⊢
  exact ⟨accepted, by simp [Outside], verdict, ends, triggers.mpr (by simp [Within])⟩

end Check

end Curation
