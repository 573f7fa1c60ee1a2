import Mathlib.Data.Rat.Cast.Order
import Mathlib.Order.WithBot
import Curation.Number.Basic
import Curation.Proofs.Number.Rounding

/-! The order of numbers. Every number but NaN has its place among the rational numbers
and the two infinities, and numbers of either kind compare as their places do. Rounding
keeps the order: a ratio that is at most a binary64 number is not rounded beyond it. -/
namespace Curation

/-- Where a number stands: a rational number, or one of the infinities. -/
abbrev Place := WithBot (WithTop ℚ)

/-- The place of a rational number. -/
def placeOf (q : ℚ) : Place := WithBot.some (WithTop.some q)

theorem placeOf_le {p q : ℚ} : placeOf p ≤ placeOf q ↔ p ≤ q := by
  rw [placeOf, placeOf, WithBot.coe_le_coe, WithTop.coe_le_coe]

theorem placeOf_lt {p q : ℚ} : placeOf p < placeOf q ↔ p < q := by
  rw [placeOf, placeOf, WithBot.coe_lt_coe, WithTop.coe_lt_coe]

namespace Binary64

/-- The value of a finite number. -/
def finiteValue (negative : Bool) (significand : Nat) (exponent : Int) : ℚ :=
  (if negative then -(significand : ℚ) else significand) * 2 ^ exponent

def place? : Binary64 → Option Place
  | .nan => none
  | .infinity negative => some (if negative then ⊥ else ⊤)
  | .finite s m e => some (placeOf (finiteValue s m e))

theorem overPower_value (negative : Bool) (m : Nat) {e base : Int} (above : base ≤ e) :
    (overPower negative m e base : ℚ) * 2 ^ base = finiteValue negative m e := by
  have scale : ((2 : ℚ) ^ (e - base).toNat) * 2 ^ base = 2 ^ e := by
    rw [← zpow_natCast, ← zpow_add₀ two_ne_zero]
    congr 1
    omega
  cases negative with
  | true => simp [overPower, finiteValue, mul_assoc, scale]
  | false => simp [overPower, finiteValue, mul_assoc, scale]

/-- Whole multiples of a power of two compare as their factors. -/
theorem compare_scaled (m n : Int) (base : Int) :
    compare m n = compare (placeOf (m * 2 ^ base)) (placeOf (n * 2 ^ base)) := by
  have positive : (0 : ℚ) < 2 ^ base := by positivity
  have mono : StrictMono fun k : Int => placeOf (k * 2 ^ base) := by
    intro k l less
    rw [placeOf_lt]
    exact mul_lt_mul_of_pos_right (by exact_mod_cast less) positive
  rw [← cmp_eq_compare, ← cmp_eq_compare]
  exact (mono.cmp_map_eq m n).symm

theorem finite_compare_infinity (q : ℚ) (negative : Bool) :
    compare (placeOf q) (if negative then ⊥ else ⊤) = if negative then .gt else .lt := by
  cases negative with
  | true => exact compare_gt_iff_gt.mpr (WithBot.bot_lt_coe _)
  | false => exact compare_lt_iff_lt.mpr (WithBot.coe_lt_coe.mpr (WithTop.coe_lt_top q))

theorem infinity_compare_finite (negative : Bool) (q : ℚ) :
    compare (if negative then ⊥ else ⊤) (placeOf q) = if negative then .lt else .gt := by
  cases negative with
  | true => exact compare_lt_iff_lt.mpr (WithBot.bot_lt_coe _)
  | false => exact compare_gt_iff_gt.mpr (WithBot.coe_lt_coe.mpr (WithTop.coe_lt_top q))

theorem compare?_eq (x y : Binary64) : x.compare? y = x.place?.bind fun a => y.place?.map (compare a) := by
  cases x with
  | nan => rfl
  | infinity s =>
    cases y with
    | nan => rfl
    | infinity t => cases s <;> cases t <;> rfl
    | finite t n f =>
      simp only [compare?, place?, Option.bind_some, Option.map_some, infinity_compare_finite]
  | finite s m e =>
    cases y with
    | nan => rfl
    | infinity t =>
      simp only [compare?, place?, Option.bind_some, Option.map_some, finite_compare_infinity]
    | finite t n f =>
      have left := overPower_value s m (min_le_left e f)
      have right := overPower_value t n (min_le_right e f)
      simp only [compare?, place?, Option.bind_some, Option.map_some, ← left, ← right]
      exact congrArg some (compare_scaled _ _ _)

end Binary64

namespace Number

variable {x y z : Number}

def place? : Number → Option Place
  | .whole n => some (placeOf n)
  | .real x => x.place?

theorem compareWhole_eq (n : Int) (x : Binary64) :
    compareWhole n x = x.place?.map (compare (placeOf n)) := by
  cases x with
  | nan => rfl
  | infinity negative =>
    simp only [compareWhole, Binary64.place?, Option.map_some, Binary64.finite_compare_infinity]
  | finite s m e =>
    have value := Binary64.overPower_value s m (min_le_left e 0)
    have scale : (2 : ℚ) ^ (-(min e 0)).toNat * 2 ^ min e 0 = 1 := by
      rw [← zpow_natCast, ← zpow_add₀ two_ne_zero, show ((-(min e 0)).toNat : Int) + min e 0 = 0 by omega,
        zpow_zero]
    have whole : ((n * Nat.pow 2 (-(min e 0)).toNat : Int) : ℚ) * 2 ^ min e 0 = n := by
      push_cast
      rw [mul_assoc]
      simpa using congrArg ((n : ℚ) * ·) scale
    simp only [compareWhole, Binary64.place?, Option.map_some, ← value, ← whole]
    exact congrArg some (Binary64.compare_scaled _ _ _)

/-- Numbers compare as their places. -/
theorem compare?_eq (x y : Number) : x.compare? y = x.place?.bind fun a => y.place?.map (compare a) := by
  cases x with
  | whole m =>
    cases y with
    | whole n =>
      have scaled := Binary64.compare_scaled m n 0
      simp only [zpow_zero, mul_one] at scaled
      simp only [compare?, place?, Option.bind_some, Option.map_some, scaled]
    | real y =>
      simp only [compare?, place?, Option.bind_some, compareWhole_eq]
  | real x =>
    cases y with
    | whole n =>
      simp only [compare?, place?, Option.map_some, compareWhole_eq]
      cases x.place? with
      | none => rfl
      | some a =>
        simp only [Option.map_some, Option.bind_some]
        exact congrArg some (Std.OrientedCmp.eq_swap ..).symm
    | real y => exact Binary64.compare?_eq x y

theorem lt_iff : x.lt y = true ↔ ∃ a b, x.place? = some a ∧ y.place? = some b ∧ a < b := by
  simp only [lt, compare?_eq, beq_iff_eq, Option.bind_eq_some_iff, Option.map_eq_some_iff, compare_lt_iff_lt]
  constructor
  · rintro ⟨a, left, b, right, less⟩
    exact ⟨a, b, left, right, less⟩
  · rintro ⟨a, b, left, right, less⟩
    exact ⟨a, left, b, right, less⟩

theorem le_iff : x.le y = true ↔ ∃ a b, x.place? = some a ∧ y.place? = some b ∧ a ≤ b := by
  simp only [le, compare?_eq]
  cases x.place? with
  | none => simp
  | some a =>
    cases y.place? with
    | none => simp
    | some b =>
      have order := compare_le_iff_le (a := a) (b := b)
      cases compared : compare a b <;> simp_all

/-- A time before one that is not later is before that. -/
theorem lt_of_le_of_lt (first : x.le y = true) (second : y.lt z = true) : x.lt z = true := by
  obtain ⟨a, b, left, middle, least⟩ := le_iff.mp first
  obtain ⟨b', c, middle', right, less⟩ := lt_iff.mp second
  cases middle.symm.trans middle'
  exact lt_iff.mpr ⟨a, c, left, right, least.trans_lt less⟩

end Number

/-! ## Rounding -/

namespace Binary64

variable {negative : Bool} {num den m : Nat} {e s : Int}

/-- The significand of a ratio at a spacing. -/
def significandAt (num den : Nat) (s : Int) : Nat :=
  roundHalfEven (num * 2 ^ (-s).toNat) (den * 2 ^ s.toNat)

theorem significandAt_le (divides : 0 < den) {n : Nat} (most : (num : ℚ) / den ≤ n * 2 ^ s) :
    significandAt num den s ≤ n := by
  have above : 0 < den * 2 ^ s.toNat := Nat.mul_pos divides (Nat.two_pow_pos _)
  have scale : (0 : ℚ) < 2 ^ s := by positivity
  apply roundHalfEven_upper above
  rw [← div_le_iff₀ scale, ← scaleDown_value, div_le_iff₀ (by exact_mod_cast above)] at most
  exact_mod_cast most

theorem le_significandAt (divides : 0 < den) {n : Nat} (least : n * 2 ^ s ≤ (num : ℚ) / den) :
    n ≤ significandAt num den s := by
  have above : 0 < den * 2 ^ s.toNat := Nat.mul_pos divides (Nat.two_pow_pos _)
  have scale : (0 : ℚ) < 2 ^ s := by positivity
  apply roundHalfEven_lower
  rw [← le_div_iff₀ scale, ← scaleDown_value, le_div_iff₀ (by exact_mod_cast above)] at least
  rw [Nat.le_div_iff_mul_le above]
  exact_mod_cast least

theorem ofRatio_atSpacing (positive : 0 < num) (divides : 0 < den) :
    ofRatio negative num den = atSpacing negative (significandAt num den (spacing num den)) (spacing num den) :=
  ofRatio_eq positive divides

theorem significand_small (positive : 0 < num) (divides : 0 < den) :
    significandAt num den (spacing num den) ≤ 0x20000000000000 := by
  have ratio : (0 : ℚ) < num / den := by positivity
  apply significandAt_le divides
  have below : (num : ℚ) / den < 2 ^ (53 + spacing num den) := by
    rw [lt_zpow_iff ratio, spacing_eq positive divides]
    omega
  rw [zpow_add₀ two_ne_zero] at below
  norm_num at below ⊢
  exact below.le

/-- The place of a rounded significand: the value that it stands for, or beyond the greatest
number an infinity. -/
theorem atSpacing_place (negative : Bool) (small : m ≤ 0x20000000000000) :
    (atSpacing negative m e).place? = some (placeOf (finiteValue negative m e)) ∨
      atSpacing negative m e = .infinity negative ∧
        (greatestExponent < e ∨ e = greatestExponent ∧ m = 0x20000000000000) := by
  unfold atSpacing
  split
  · split
    · exact .inr ⟨rfl, .inl ‹_›⟩
    · exact .inl rfl
  · have full : m = 0x20000000000000 := by omega
    split
    · exact .inr ⟨rfl, by omega⟩
    · left
      have next : (2 : ℚ) ^ (e + 1) = 2 ^ e * 2 := by rw [zpow_add₀ two_ne_zero, zpow_one]
      have value : finiteValue negative 0x10000000000000 (e + 1) = finiteValue negative m e := by
        subst full
        cases negative with
        | true => simp only [finiteValue, next, if_pos]; push_cast; ring
        | false => simp only [finiteValue, next]; push_cast; ring
      rw [place?, value]

/-- The spacing around a ratio that is at most a number is no coarser than its own. -/
theorem spacing_le (positive : 0 < num) (divides : 0 < den)
    (canonical : (Binary64.finite negative m e).IsCanonical) (most : (num : ℚ) / den ≤ m * 2 ^ e) :
    spacing num den ≤ e := by
  obtain ⟨narrow, least, -, -⟩ := canonical
  have ratio : (0 : ℚ) < num / den := by positivity
  have scale : (0 : ℚ) < 2 ^ e := by positivity
  have below : Int.log 2 ((num : ℚ) / den) < 53 + e := by
    rw [← lt_zpow_iff ratio, zpow_add₀ two_ne_zero]
    calc (num : ℚ) / den ≤ m * 2 ^ e := most
      _ < 2 ^ (53 : Int) * 2 ^ e := by
        rw [mul_lt_mul_iff_left₀ scale]
        exact_mod_cast narrow
  rw [spacing_eq positive divides]
  omega

/-- A ratio that is at most a number is not rounded beyond it. -/
theorem ofRatio_upper (positive : 0 < num) (divides : 0 < den)
    (canonical : (Binary64.finite negative m e).IsCanonical) (most : (num : ℚ) / den ≤ m * 2 ^ e) :
    ∃ q : ℚ, (ofRatio false num den).place? = some (placeOf q) ∧ q ≤ m * 2 ^ e := by
  have finer := spacing_le positive divides canonical most
  obtain ⟨narrow, -, greatest, -⟩ := canonical
  have whole : ((m * 2 ^ (e - spacing num den).toNat : Nat) : ℚ) * 2 ^ spacing num den = m * 2 ^ e := by
    push_cast
    rw [mul_assoc, ← zpow_natCast, ← zpow_add₀ two_ne_zero]
    congr 2
    omega
  have bound := significandAt_le divides (most.trans_eq whole.symm)
  rw [ofRatio_atSpacing positive divides]
  rcases atSpacing_place false (significand_small positive divides) with placed | ⟨-, large | ⟨last, full⟩⟩
  · refine ⟨_, placed, ?_⟩
    rw [← whole, finiteValue, if_neg Bool.false_ne_true]
    have scale : (0 : ℚ) < 2 ^ spacing num den := by positivity
    exact (mul_le_mul_iff_left₀ scale).mpr (by exact_mod_cast bound)
  · omega
  · have same : (e - spacing num den).toNat = 0 := by omega
    rw [same, full] at bound
    omega

/-- The negative of a rounded ratio is that of its significand, or an infinity below it. -/
theorem ofRatio_below (positive : 0 < num) (divides : 0 < den) :
    ∀ p, (ofRatio true num den).place? = some p →
      p ≤ placeOf (-(significandAt num den (spacing num den) * 2 ^ spacing num den)) := by
  intro p placed
  rw [ofRatio_atSpacing positive divides] at placed
  rcases atSpacing_place true (significand_small positive divides) with finite | ⟨infinite, -⟩
  · cases placed.symm.trans finite
    rw [placeOf_le, finiteValue, if_pos rfl, neg_mul]
  · rw [infinite] at placed
    cases placed
    exact bot_le

theorem ofRatio_negative (positive : 0 < num) (divides : 0 < den) :
    ∀ p, (ofRatio true num den).place? = some p → p ≤ placeOf 0 := by
  intro p placed
  refine (ofRatio_below positive divides p placed).trans (placeOf_le.mpr ?_)
  rw [neg_nonpos]
  positivity

/-- The spacing around a ratio that is at least a number is no finer than its own. -/
theorem le_spacing (positive : 0 < num) (divides : 0 < den)
    (canonical : (Binary64.finite negative m e).IsCanonical) (least : m * 2 ^ e ≤ (num : ℚ) / den) :
    e ≤ spacing num den := by
  obtain ⟨-, -, -, wide⟩ := canonical
  have ratio : (0 : ℚ) < num / den := by positivity
  rw [spacing_eq positive divides]
  rcases wide with wide | rfl
  · have scale : (0 : ℚ) < 2 ^ e := by positivity
    have above : 52 + e ≤ Int.log 2 ((num : ℚ) / den) := by
      rw [← zpow_le_iff ratio, zpow_add₀ two_ne_zero]
      calc (2 : ℚ) ^ (52 : Int) * 2 ^ e ≤ m * 2 ^ e := by
            rw [mul_le_mul_iff_left₀ scale]
            exact_mod_cast wide
        _ ≤ num / den := least
    omega
  · exact le_max_right _ _

/-- Above the finest spacing the significand of a ratio has all its bits. -/
theorem significand_full (positive : 0 < num) (divides : 0 < den) (coarse : leastExponent < spacing num den) :
    0x10000000000000 ≤ significandAt num den (spacing num den) := by
  have ratio : (0 : ℚ) < num / den := by positivity
  have spaced := spacing_eq positive divides
  have high : (2 : ℚ) ^ (52 + spacing num den) ≤ num / den := by
    rw [zpow_le_iff ratio]
    omega
  rw [zpow_add₀ two_ne_zero] at high
  apply le_significandAt divides
  exact_mod_cast high

theorem significand_lower (positive : 0 < num) (divides : 0 < den)
    (canonical : (Binary64.finite negative m e).IsCanonical) (least : m * 2 ^ e ≤ (num : ℚ) / den) :
    (m : ℚ) * 2 ^ e ≤ significandAt num den (spacing num den) * 2 ^ spacing num den := by
  have scale : (0 : ℚ) < 2 ^ spacing num den := by positivity
  rcases (le_spacing positive divides canonical least).eq_or_lt with same | coarser
  · rw [same] at least ⊢
    have enough := le_significandAt divides least
    exact (mul_le_mul_iff_left₀ scale).mpr (by exact_mod_cast enough)
  · obtain ⟨narrow, finest, -, -⟩ := canonical
    have small : (m : ℚ) ≤ 0x10000000000000 * 2 := by exact_mod_cast narrow.le
    have twice : (2 : ℚ) ^ (e + 1) ≤ 2 ^ spacing num den := zpow_le_zpow_right₀ one_le_two coarser
    rw [zpow_add₀ two_ne_zero, zpow_one] at twice
    have full : (0x10000000000000 : ℚ) ≤ significandAt num den (spacing num den) := by
      exact_mod_cast significand_full positive divides (finest.trans_lt coarser)
    calc (m : ℚ) * 2 ^ e ≤ 0x10000000000000 * 2 * 2 ^ e := by gcongr
      _ = 0x10000000000000 * (2 ^ e * 2) := by ring
      _ ≤ 0x10000000000000 * 2 ^ spacing num den := by gcongr
      _ ≤ significandAt num den (spacing num den) * 2 ^ spacing num den := by gcongr

/-- A ratio that is at least a number is not rounded below it. -/
theorem ofRatio_lower (positive : 0 < num) (divides : 0 < den)
    (canonical : (Binary64.finite negative m e).IsCanonical) (least : m * 2 ^ e ≤ (num : ℚ) / den) :
    ∀ p, (ofRatio true num den).place? = some p → p ≤ placeOf (-(m * 2 ^ e)) := by
  intro p placed
  have bound := significand_lower positive divides canonical least
  exact (ofRatio_below positive divides p placed).trans (placeOf_le.mpr (neg_le_neg bound))

/-- What is rounded to a binary64 number is rounded as a ratio. -/
theorem ofBinary_eq (negative : Bool) (m : Nat) (e : Int) :
    ofBinary negative m e = ofRatio negative (m * 2 ^ e.toNat) (2 ^ (-e).toNat) := by
  unfold ofBinary
  split
  · have none : (-e).toNat = 0 := by omega
    rw [none, Nat.pow_zero]
    rfl
  · have none : e.toNat = 0 := by omega
    rw [none, Nat.pow_zero, Nat.mul_one]
    rfl

theorem placeOf_inj {p q : ℚ} (same : some (placeOf p) = some (placeOf q)) : p = q := by
  have same := Option.some.inj same
  exact le_antisymm (placeOf_le.mp same.le) (placeOf_le.mp same.ge)

/-- A number with a rational place is finite. -/
theorem place?_finite {x : Binary64} {q : ℚ} (stands : x.place? = some (placeOf q)) :
    ∃ negative m e, x = .finite negative m e ∧ q = finiteValue negative m e := by
  cases x with
  | nan => cases stands
  | infinity negative => cases negative <;> cases stands
  | finite s m e => exact ⟨s, m, e, rfl, (placeOf_inj stands).symm⟩

/-- A value that is at most a number is not rounded beyond it. -/
theorem ofScaled_upper {x : Binary64} {value : Int} {c : ℚ} (zeroNegative : Bool) (canonical : x.IsCanonical)
    (stands : x.place? = some (placeOf c)) (most : value * 2 ^ e ≤ c) :
    ∀ p, (ofScaled value e zeroNegative).place? = some p → p ≤ placeOf c := by
  intro p placed
  obtain ⟨negative, m, f, rfl, rfl⟩ := place?_finite stands
  have scale : (0 : ℚ) < 2 ^ e := by positivity
  have scale' : (0 : ℚ) < 2 ^ f := by positivity
  have divides : 0 < 2 ^ (-e).toNat := Nat.two_pow_pos _
  have ratio := binary_ratio value.natAbs e
  rw [ofScaled] at placed
  split at placed
  · rename_i zero
    cases placed
    rw [placeOf_le]
    simpa [finiteValue, zero] using most
  rename_i nonzero
  have positive : 0 < value.natAbs * 2 ^ e.toNat :=
    Nat.mul_pos (Int.natAbs_pos.mpr nonzero) (Nat.two_pow_pos _)
  rw [ofBinary_eq] at placed
  rcases lt_or_gt_of_ne nonzero with below | above
  · rw [decide_eq_true below] at placed
    have size : (value.natAbs : ℚ) = -(value : ℚ) := by
      rw [Nat.cast_natAbs, abs_of_neg below, Int.cast_neg]
    cases negative with
    | false =>
      refine (ofRatio_negative positive divides p placed).trans (placeOf_le.mpr ?_)
      simp only [finiteValue, Bool.false_eq_true, if_false]
      positivity
    | true =>
      simp only [finiteValue, if_true, neg_mul] at most ⊢
      refine ofRatio_lower positive divides canonical ?_ p placed
      rw [ratio, size, neg_mul]
      exact le_neg.mpr most
  · rw [decide_eq_false (not_lt.mpr above.le)] at placed
    have size : (value.natAbs : ℚ) = value := by rw [Nat.cast_natAbs, abs_of_pos above]
    cases negative with
    | true =>
      have positive : (0 : ℚ) < value := by exact_mod_cast above
      have : (0 : ℚ) < value * 2 ^ e := by positivity
      simp only [finiteValue, if_true, neg_mul] at most
      have : (0 : ℚ) ≤ m * 2 ^ f := by positivity
      linarith
    | false =>
      simp only [finiteValue, Bool.false_eq_true, if_false] at most ⊢
      obtain ⟨q, finite, most⟩ := ofRatio_upper positive divides canonical (by rw [ratio, size]; exact most)
      cases placed.symm.trans finite
      exact placeOf_le.mpr most

theorem finiteValue_not (negative : Bool) (m : Nat) (e : Int) :
    finiteValue (!negative) m e = -finiteValue negative m e := by
  cases negative with
  | true => simp [finiteValue]
  | false => simp [finiteValue]

/-- A difference exceeds a number only if it did before it was rounded. -/
theorem lt_of_lt_sub {x y z : Binary64} {a b c : ℚ} (canonical : z.IsCanonical)
    (left : x.place? = some (placeOf a)) (right : y.place? = some (placeOf b))
    (stands : z.place? = some (placeOf c)) (less : z.lt (x.sub y) = true) : c < a - b := by
  by_contra most
  obtain ⟨s, m, e, rfl, rfl⟩ := place?_finite left
  obtain ⟨t, n, f, rfl, rfl⟩ := place?_finite right
  have value : ((overPower s m e (min e f) + overPower (!t) n f (min e f) : Int) : ℚ) * 2 ^ min e f =
      finiteValue s m e - finiteValue t n f := by
    rw [Int.cast_add, add_mul, overPower_value s m (min_le_left e f), overPower_value (!t) n (min_le_right e f),
      finiteValue_not, sub_eq_add_neg]
  simp only [lt, compare?_eq, stands, Option.bind_some, beq_iff_eq, Option.map_eq_some_iff,
    compare_lt_iff_lt] at less
  obtain ⟨p, placed, less⟩ := less
  have upper := ofScaled_upper (s && !t) canonical stands (value.trans_le (not_lt.mp most)) p placed
  exact absurd less (not_lt.mpr upper)

end Binary64

/-- A binary64 time lies more than a span behind another one by the clock only if it does so
exactly. -/
theorem Number.elapsed {x y z : Binary64} {span : Number} {a b c : ℚ} (canonical : z.IsCanonical)
    (left : x.place? = some (placeOf a)) (right : y.place? = some (placeOf b))
    (same : span.place? = z.place?) (stands : z.place? = some (placeOf c))
    (less : span.lt ((Number.real x).sub (.real y)) = true) : b + c < a := by
  have less : z.lt (x.sub y) = true := by
    obtain ⟨p, q, first, second, less⟩ := lt_iff.mp less
    have real : (Number.real z).lt (.real (x.sub y)) = true :=
      lt_iff.mpr ⟨p, q, same.symm.trans first, second, less⟩
    exact real
  have := Binary64.lt_of_lt_sub canonical left right stands less
  linarith

end Curation
