import Curation.Number.Decimal
import Curation.Proofs.Number.Rounding

/-! Amounts in base units. An amount is shifted, rounded to twenty-eight digits and cut off at the
point. Rounding leaves an amount of so few digits alone, and it never turns two amounts round, since
what lies between two powers of ten stays there and is rounded at one and the same digit. -/
namespace Curation.Decimal

variable {c c' m : Nat} {e e' k : Int}

/-! ## Sizes -/

/-- A coefficient times a power of ten. -/
def size (c : Nat) (e : Int) : ℚ := c * 10 ^ e

theorem size_nonneg (c : Nat) (e : Int) : 0 ≤ size c e := by unfold size; positivity

theorem size_pos (positive : 0 < c) (e : Int) : 0 < size c e := by unfold size; positivity

theorem size_zero (e : Int) : size 0 e = 0 := by simp [size]

theorem pos_of_size_pos (positive : 0 < size c e) : 0 < c := by
  rcases Nat.eq_zero_or_pos c with rfl | some
  · rw [size_zero] at positive
    exact absurd positive (lt_irrefl 0)
  · exact some

theorem ten_lt_ten {x y : Int} : (10 : ℚ) ^ x < 10 ^ y ↔ x < y := zpow_lt_zpow_iff_right₀ (by norm_num)

theorem ten_le_ten {x y : Int} : (10 : ℚ) ^ x ≤ 10 ^ y ↔ x ≤ y := zpow_le_zpow_iff_right₀ (by norm_num)

theorem lt_pow_digits (c : Nat) : c < 10 ^ digits c :=
  (Nat.length_toDigits_le_iff (by decide) Nat.length_toDigits_pos).mp le_rfl

theorem digits_pos (c : Nat) : 0 < digits c := Nat.length_toDigits_pos

theorem digits_le_iff {n : Nat} (some : 0 < n) : digits c ≤ n ↔ c < 10 ^ n :=
  Nat.length_toDigits_le_iff (by decide) some

theorem pow_digits_le (positive : 0 < c) : 10 ^ (digits c - 1) ≤ c := by
  rcases Nat.eq_zero_or_pos (digits c - 1) with none | some
  · rw [none]
    exact positive
  · by_contra less
    have shorter := (digits_le_iff some).mpr (Nat.not_le.mp less)
    omega

/-- The digits of a coefficient tell between which powers of ten an amount lies. -/
theorem size_lt (c : Nat) (e : Int) : size c e < 10 ^ (e + digits c) := by
  rw [add_comm, zpow_add₀ (by norm_num), zpow_natCast]
  unfold size
  gcongr
  exact_mod_cast lt_pow_digits c

theorem le_size (positive : 0 < c) (e : Int) : 10 ^ (e + digits c - 1) ≤ size c e := by
  have split : e + digits c - 1 = ((digits c - 1 : Nat) : Int) + e := by
    have := digits_pos c
    omega
  rw [split, zpow_add₀ (by norm_num), zpow_natCast]
  unfold size
  gcongr
  exact_mod_cast pow_digits_le positive

/-- An amount lies below a power of ten exactly if its leading digit does. -/
theorem size_lt_ten_iff (positive : 0 < c) {x : Int} : size c e < 10 ^ x ↔ e + digits c ≤ x := by
  constructor
  · intro below
    have := ten_lt_ten.mp ((le_size positive e).trans_lt below)
    omega
  · intro below
    exact (size_lt c e).trans_le (ten_le_ten.mpr below)

/-! ## Rounding -/

/-- What an amount is rounded to. -/
def roundedSize (c : Nat) (e : Int) : ℚ := size (rounded c e).1 (rounded c e).2

/-- The place of the last digit that is kept, where all of them are. -/
def place (c : Nat) (e : Int) : Int := e + digits c - precision

/-- A coefficient over a power of ten, so that all digits that are kept stand before the point. -/
def shifted (c : Nat) : Nat × Nat := (c * 10 ^ (precision - digits c), 10 ^ (digits c - precision))

theorem shifted_pos (c : Nat) : 0 < (shifted c).2 := by unfold shifted; positivity

theorem shifted_value (c : Nat) (e : Int) :
    ((shifted c).1 : ℚ) / (shifted c).2 * 10 ^ place c e = size c e := by
  have scale : (10 : ℚ) ^ (digits c - precision) ≠ 0 := by positivity
  have power : (10 : ℚ) ^ (precision - digits c) * 10 ^ place c e = 10 ^ (digits c - precision) * 10 ^ e := by
    rw [← zpow_natCast, ← zpow_natCast, ← zpow_add₀ (by norm_num), ← zpow_add₀ (by norm_num)]
    congr 1
    unfold place
    omega
  unfold shifted size
  push_cast
  rw [div_mul_eq_mul_div, mul_assoc, power, div_eq_iff scale]
  ring

/-- An amount is rounded to a whole number of units of its last place. -/
theorem roundedSize_eq (c : Nat) (e : Int) :
    roundedSize c e = roundHalfEven (shifted c).1 (shifted c).2 * 10 ^ place c e := by
  unfold roundedSize rounded roundDigits shifted size place
  rcases Nat.le_total (digits c) precision with few | many
  · have none : digits c - precision = 0 := Nat.sub_eq_zero_of_le few
    have whole : roundHalfEven (c * 10 ^ (precision - digits c)) 1 = c * 10 ^ (precision - digits c) := by
      simpa using roundHalfEven_whole (c * 10 ^ (precision - digits c)) Nat.one_pos
    have same : roundHalfEven c 1 = c := by simpa using roundHalfEven_whole c Nat.one_pos
    have power : (10 : ℚ) ^ (precision - digits c) * 10 ^ (e + digits c - precision) = 10 ^ e := by
      rw [← zpow_natCast, ← zpow_add₀ (by norm_num)]
      congr 1
      omega
    simp only [none, Nat.pow_eq, pow_zero, same, whole, Nat.cast_zero, add_zero]
    push_cast
    rw [mul_assoc, power]
  · have none : precision - digits c = 0 := Nat.sub_eq_zero_of_le many
    simp only [none, Nat.pow_eq, pow_zero, mul_one]
    congr 2
    omega

/-- What is a whole number of units of the last place is not passed by rounding. -/
theorem roundedSize_le {n : Nat} (most : size c e ≤ n * 10 ^ place c e) :
    roundedSize c e ≤ n * 10 ^ place c e := by
  have scale : (0 : ℚ) < 10 ^ place c e := by positivity
  have above : (0 : ℚ) < (shifted c).2 := by exact_mod_cast shifted_pos c
  rw [← shifted_value, mul_le_mul_iff_left₀ scale, div_le_iff₀ above] at most
  rw [roundedSize_eq]
  gcongr
  exact roundHalfEven_upper (shifted_pos c) (by exact_mod_cast most)

theorem le_roundedSize {n : Nat} (least : n * 10 ^ place c e ≤ size c e) :
    n * 10 ^ place c e ≤ roundedSize c e := by
  have scale : (0 : ℚ) < 10 ^ place c e := by positivity
  have above : (0 : ℚ) < (shifted c).2 := by exact_mod_cast shifted_pos c
  rw [← shifted_value, mul_le_mul_iff_left₀ scale, le_div_iff₀ above] at least
  rw [roundedSize_eq]
  gcongr
  refine roundHalfEven_lower ((Nat.le_div_iff_mul_le (shifted_pos c)).mpr ?_)
  exact_mod_cast least

/-- An amount is not rounded past the next power of ten. -/
theorem roundedSize_le_ten (c : Nat) (e : Int) : roundedSize c e ≤ 10 ^ (e + digits c) := by
  have whole : ((10 ^ precision : Nat) : ℚ) * 10 ^ place c e = 10 ^ (e + digits c) := by
    rw [Nat.cast_pow, ← zpow_natCast, Nat.cast_ofNat, ← zpow_add₀ (by norm_num)]
    congr 1
    unfold place
    omega
  rw [← whole]
  exact roundedSize_le (whole ▸ (size_lt c e).le)

theorem ten_le_roundedSize (positive : 0 < c) (e : Int) : 10 ^ (e + digits c - 1) ≤ roundedSize c e := by
  have whole : ((10 ^ (precision - 1) : Nat) : ℚ) * 10 ^ place c e = 10 ^ (e + digits c - 1) := by
    rw [Nat.cast_pow, ← zpow_natCast, Nat.cast_ofNat, ← zpow_add₀ (by norm_num)]
    congr 1
    unfold place precision
    omega
  rw [← whole]
  exact le_roundedSize (whole ▸ le_size positive e)

theorem roundedSize_nonneg (c : Nat) (e : Int) : 0 ≤ roundedSize c e := size_nonneg _ _

theorem roundedSize_zero (e : Int) : roundedSize 0 e = 0 := by
  have none := roundedSize_le (c := 0) (e := e) (n := 0) (by simp [size_zero])
  simp only [Nat.cast_zero, zero_mul] at none
  exact le_antisymm none (roundedSize_nonneg 0 e)

/-- Of two amounts the greater is not rounded to less. -/
theorem roundedSize_mono (le : size c e ≤ size c' e') : roundedSize c e ≤ roundedSize c' e' := by
  rcases Nat.eq_zero_or_pos c with rfl | positive
  · rw [roundedSize_zero]
    exact roundedSize_nonneg c' e'
  · have positive' : 0 < c' := pos_of_size_pos ((size_pos positive e).trans_le le)
    have lead : e + digits c ≤ e' + digits c' := (size_lt_ten_iff positive).mp (le.trans_lt (size_lt c' e'))
    rcases lead.lt_or_eq with below | same
    · -- A power of ten lies between the two.
      calc roundedSize c e
          ≤ 10 ^ (e + digits c) := roundedSize_le_ten c e
        _ ≤ 10 ^ (e' + digits c' - 1) := ten_le_ten.mpr (by omega)
        _ ≤ roundedSize c' e' := ten_le_roundedSize positive' e'
    · have level : place c' e' = place c e := by
        unfold place
        omega
      have scale : (0 : ℚ) < 10 ^ place c e := by positivity
      have above : (0 : ℚ) < (shifted c).2 := by exact_mod_cast shifted_pos c
      have above' : (0 : ℚ) < (shifted c').2 := by exact_mod_cast shifted_pos c'
      rw [← shifted_value c e, ← shifted_value c' e', level, mul_le_mul_iff_left₀ scale,
        div_le_div_iff₀ above above'] at le
      rw [roundedSize_eq, roundedSize_eq, level]
      gcongr
      exact roundHalfEven_mono (shifted_pos c) (shifted_pos c') (by exact_mod_cast le)

/-- An amount of at most twenty-eight digits is not rounded at all. -/
theorem roundedSize_exact (few : m < 10 ^ precision) (written : size c e = size m k) :
    roundedSize c e = size m k := by
  rcases Nat.eq_zero_or_pos m with rfl | positive
  · rw [size_zero] at written ⊢
    have none := roundedSize_le (c := c) (e := e) (n := 0) (by simp [written])
    simp only [Nat.cast_zero, zero_mul] at none
    exact le_antisymm none (roundedSize_nonneg c e)
  · have positive' : 0 < c := pos_of_size_pos (written ▸ size_pos positive k)
    have least : place c e ≤ k := by
      have lead : e + digits c ≤ k + digits m := (size_lt_ten_iff positive').mp (written ▸ size_lt m k)
      have short : digits m ≤ precision := (digits_le_iff (by decide)).mpr few
      unfold place
      omega
    have whole : ((m * 10 ^ (k - place c e).toNat : Nat) : ℚ) * 10 ^ place c e = size m k := by
      have power : (10 : ℚ) ^ (k - place c e).toNat * 10 ^ place c e = 10 ^ k := by
        rw [← zpow_natCast, ← zpow_add₀ (by norm_num)]
        congr 1
        omega
      push_cast
      rw [mul_assoc, power, size]
    refine le_antisymm ?_ ?_
    · rw [← whole]
      exact roundedSize_le (by rw [whole, written])
    · rw [← whole]
      exact le_roundedSize (by rw [whole, written])

/-! ## The range of results -/

/-- An amount is in range: it is nearer to the greatest number of twenty-eight digits than to the power of
ten above that. -/
def Fits (q : ℚ) : Prop := |q| < (10 ^ precision - 1 / 2) * 10 ^ (greatestExponent + 1 - precision)

/-- The least amount that is out of range has one digit more than is kept, and a five there. -/
private theorem size_edge :
    size ((2 * 10 ^ 28 - 1) * 5) (greatestExponent - precision) =
      (10 ^ precision - 1 / 2) * 10 ^ (greatestExponent + 1 - precision) := by
  have power : (10 : ℚ) ^ (greatestExponent + 1 - precision) = 10 ^ (greatestExponent - precision) * 10 := by
    rw [← zpow_add_one₀ (by norm_num)]
    congr 1
  rw [size, power]
  norm_num [precision]
  ring

private theorem roundedSize_edge :
    roundedSize ((2 * 10 ^ 28 - 1) * 5) (greatestExponent - precision) = 10 ^ (greatestExponent + 1) := by
  have counted : digits ((2 * 10 ^ 28 - 1) * 5) = 29 := by decide +kernel
  have rounds : roundHalfEven (shifted ((2 * 10 ^ 28 - 1) * 5)).1 (shifted ((2 * 10 ^ 28 - 1) * 5)).2 = 10 ^ 28 := by
    decide +kernel
  have last : place ((2 * 10 ^ 28 - 1) * 5) (greatestExponent - precision) = greatestExponent + 1 - 28 := by
    unfold place precision
    omega
  rw [roundedSize_eq, rounds, last, Nat.cast_pow, ← zpow_natCast, Nat.cast_ofNat, ← zpow_add₀ (by norm_num)]
  congr 1

private theorem top_unit :
    (10 : ℚ) ^ precision * 10 ^ (greatestExponent + 1 - precision) = 10 ^ (greatestExponent + 1) := by
  rw [← zpow_natCast, ← zpow_add₀ (by norm_num)]
  congr 1

/-- An amount in range whose last digit is in the topmost place is not rounded up to one digit more. -/
private theorem roundedSize_lt_top (level : place c e = greatestExponent + 1 - precision)
    (small : size c e < (10 ^ precision - 1 / 2) * 10 ^ (greatestExponent + 1 - precision)) :
    roundedSize c e < 10 ^ (greatestExponent + 1) := by
  have unit : (0 : ℚ) < 10 ^ (greatestExponent + 1 - precision) := by positivity
  have above : (0 : ℚ) < (shifted c).2 := by exact_mod_cast shifted_pos c
  have positive : 0 < 10 ^ precision := by positivity
  rw [← shifted_value, level, mul_lt_mul_iff_left₀ unit, div_lt_iff₀ above] at small
  have half : 2 * (shifted c).1 < (2 * (10 ^ precision - 1) + 1) * (shifted c).2 := by
    rw [← Nat.cast_lt (α := ℚ)]
    push_cast [Nat.cast_sub (Nat.one_le_of_lt positive)]
    linarith
  have most : roundHalfEven (shifted c).1 (shifted c).2 < 10 ^ precision := by
    have := roundHalfEven_le half
    omega
  rw [roundedSize_eq, level, ← top_unit, mul_lt_mul_iff_left₀ unit]
  exact_mod_cast most

theorem fits_size_iff (c : Nat) (e : Int) :
    Fits (size c e) ↔ roundedSize c e < 10 ^ (greatestExponent + 1) := by
  unfold Fits
  rw [abs_of_nonneg (size_nonneg c e)]
  constructor
  · intro small
    rcases Nat.eq_zero_or_pos c with rfl | positive
    · rw [roundedSize_zero]
      positivity
    have below : size c e < 10 ^ (greatestExponent + 1) := by
      rw [← top_unit]
      refine small.trans ?_
      gcongr
      linarith
    rcases ((size_lt_ten_iff positive).mp below).lt_or_eq with lower | lead
    · exact (roundedSize_le_ten c e).trans_lt (ten_lt_ten.mpr lower)
    · refine roundedSize_lt_top ?_ small
      unfold place
      omega
  · intro small
    by_contra large
    rw [not_lt, ← size_edge] at large
    have := roundedSize_mono large
    rw [roundedSize_edge] at this
    exact absurd small (not_lt.mpr this)

/-! ## Base units -/

/-- A size with its sign. -/
def signed (negative : Bool) (q : ℚ) : ℚ := if negative then -q else q

/-- The whole part of a number, towards zero. -/
def truncate (q : ℚ) : ℤ := if 0 ≤ q then ⌊q⌋ else ⌈q⌉

theorem truncate_signed {q : ℚ} (nonneg : 0 ≤ q) (negative : Bool) :
    truncate (signed negative q) = if negative then -⌊q⌋ else ⌊q⌋ := by
  cases negative with
  | false => simp [truncate, signed, nonneg]
  | true =>
    rcases nonneg.eq_or_lt with rfl | positive
    · simp [truncate, signed]
    · have below : ¬ 0 ≤ -q := by linarith
      simp [truncate, signed, below, Int.ceil_neg]

theorem truncate_mono {p q : ℚ} (le : p ≤ q) : truncate p ≤ truncate q := by
  unfold truncate
  split_ifs with first second second
  · exact Int.floor_le_floor le
  · exact absurd (first.trans le) second
  · exact (Int.ceil_le.mpr (by simpa using (not_le.mp first).le)).trans (Int.floor_nonneg.mpr second)
  · exact Int.ceil_le_ceil le

theorem abs_signed {q : ℚ} (nonneg : 0 ≤ q) (negative : Bool) : |signed negative q| = q := by
  cases negative <;> simp [signed, abs_of_nonneg nonneg]

theorem signed_mul (negative : Bool) (q r : ℚ) : signed negative q * r = signed negative (q * r) := by
  cases negative <;> simp [signed]

/-- The digits before the point make up the whole part. -/
theorem wholePart_eq (c : Nat) (e : Int) : (wholePart c e : ℤ) = ⌊size c e⌋ := by
  unfold wholePart size
  split
  · rename_i point
    obtain ⟨n, rfl⟩ := Int.eq_ofNat_of_zero_le point
    rw [Int.toNat_natCast, zpow_natCast, Nat.pow_eq]
    exact_mod_cast (Int.floor_natCast (R := ℚ) (c * 10 ^ n)).symm
  · rename_i below
    have power : (10 : ℚ) ^ e = ((10 ^ (-e).toNat : Nat) : ℚ)⁻¹ := by
      rw [Nat.cast_pow, ← zpow_natCast, Nat.cast_ofNat, ← zpow_neg]
      congr 1
      omega
    rw [power, ← div_eq_mul_inv, Rat.floor_natCast_div_natCast]
    split
    · rename_i short
      have small : c < 10 ^ (-e).toNat :=
        (lt_pow_digits c).trans_le (Nat.pow_le_pow_right (by decide) short)
      exact_mod_cast (Nat.div_eq_of_lt small).symm
    · exact Int.natCast_div c _

variable {negative negative' : Bool} {decimals : Int}

/-- An amount in range has base units: it is shifted, rounded and cut off at the point. -/
theorem toUnits_finite (narrow : decimals.natAbs ≤ greatestShift) (fits : Fits (size c (e + decimals))) :
    toUnits (.finite negative c e) decimals = .ok (truncate (signed negative (roundedSize c (e + decimals)))) := by
  rw [truncate_signed (roundedSize_nonneg _ _), toUnits, if_neg (Int.not_lt.mpr narrow)]
  rcases Nat.eq_zero_or_pos c with rfl | positive
  · cases negative <;> simp [roundedSize_zero]
  · have kept : 0 < (rounded c (e + decimals)).1 :=
      pos_of_size_pos ((zpow_pos (by norm_num) _).trans_le (ten_le_roundedSize positive (e + decimals)))
    have range := (size_lt_ten_iff kept).mp ((fits_size_iff c (e + decimals)).mp fits)
    have inside : ¬ greatestExponent <
        (rounded c (e + decimals)).2 + digits (rounded c (e + decimals)).1 - 1 := by omega
    simp only [positive.ne', if_false, inside, wholePart_eq]
    rfl

/-- An amount out of range has none. -/
theorem toUnits_tooLarge (narrow : decimals.natAbs ≤ greatestShift) (large : ¬ Fits (size c (e + decimals))) :
    toUnits (.finite negative c e) decimals = .error .tooLarge := by
  rw [toUnits, if_neg (Int.not_lt.mpr narrow)]
  rcases Nat.eq_zero_or_pos c with rfl | positive
  · have fits : Fits (size 0 (e + decimals)) := by
      rw [fits_size_iff, roundedSize_zero]
      positivity
    exact absurd fits large
  · have kept : 0 < (rounded c (e + decimals)).1 :=
      pos_of_size_pos ((zpow_pos (by norm_num) _).trans_le (ten_le_roundedSize positive (e + decimals)))
    have range := (size_lt_ten_iff kept).not.mp ((fits_size_iff c (e + decimals)).not.mp large)
    have outside : greatestExponent <
        (rounded c (e + decimals)).2 + digits (rounded c (e + decimals)).1 - 1 := by omega
    simp only [positive.ne', if_false, outside, if_true]

/-- Rounding keeps the order of amounts of any sign. -/
theorem signed_roundedSize_mono (le : signed negative (size c e) ≤ signed negative' (size c' e')) :
    signed negative (roundedSize c e) ≤ signed negative' (roundedSize c' e') := by
  have nonneg := size_nonneg c e
  have nonneg' := size_nonneg c' e'
  have rounds := roundedSize_nonneg c e
  have rounds' := roundedSize_nonneg c' e'
  cases negative with
  | false =>
    cases negative' with
    | false => exact roundedSize_mono le
    | true =>
      -- Then both of them are zero.
      have zero : size c e = size 0 0 := by
        rw [size_zero]
        simp only [signed, Bool.false_eq_true, if_false, if_true] at le
        linarith
      have zero' : size c' e' = size 0 0 := by
        rw [size_zero]
        simp only [signed, Bool.false_eq_true, if_false, if_true] at le
        linarith
      have none := (roundedSize_mono zero.le).trans_eq (roundedSize_zero 0)
      have none' := (roundedSize_mono zero'.le).trans_eq (roundedSize_zero 0)
      simp only [signed, Bool.false_eq_true, if_false, if_true]
      linarith
  | true =>
    cases negative' with
    | false =>
      simp only [signed, Bool.false_eq_true, if_false, if_true]
      linarith
    | true =>
      simp only [signed, if_true, neg_le_neg_iff] at le ⊢
      exact roundedSize_mono le

end Curation.Decimal
