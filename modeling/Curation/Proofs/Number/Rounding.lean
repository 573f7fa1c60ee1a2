import Mathlib.Algebra.Order.Field.Power
import Mathlib.Data.Int.Log
import Mathlib.Data.Rat.Floor
import Mathlib.Tactic.FieldSimp
import Mathlib.Tactic.Linarith
import Mathlib.Tactic.NormNum
import Mathlib.Tactic.Positivity
import Mathlib.Tactic.Ring
import Curation.Number.Binary64

/-! Rounding to binary64 numbers. A rounded ratio depends on its value only, it is always in
the one form that numbers are kept in, and a number in that form is its own rounding. -/
namespace Curation

theorem roundHalfEven_scale {k : Nat} (positive : 0 < k) (num den : Nat) :
    roundHalfEven (k * num) (k * den) = roundHalfEven num den := by
  have less (a b : Nat) : k * a < k * b ↔ a < b := Nat.mul_lt_mul_left positive
  simp only [roundHalfEven, Nat.mul_div_mul_left _ _ positive, Nat.mul_mod_mul_left,
    Nat.mul_left_comm 2 k, less]

theorem roundHalfEven_congr {num den num' den' : Nat} (positive : 0 < den) (positive' : 0 < den')
    (same : num * den' = num' * den) : roundHalfEven num den = roundHalfEven num' den' := by
  rw [← roundHalfEven_scale positive' num den, ← roundHalfEven_scale positive num' den',
    Nat.mul_comm den' num, Nat.mul_comm den num', Nat.mul_comm den' den, same]

theorem roundHalfEven_whole (m : Nat) {den : Nat} (positive : 0 < den) : roundHalfEven (m * den) den = m := by
  simp [roundHalfEven, Nat.mul_div_cancel m positive, positive]

theorem roundHalfEven_lower {num den m : Nat} (least : m ≤ num / den) : m ≤ roundHalfEven num den := by
  simp only [roundHalfEven]
  split <;> (try split) <;> (try split) <;> omega

theorem roundHalfEven_upper {num den m : Nat} (positive : 0 < den) (most : num ≤ m * den) :
    roundHalfEven num den ≤ m := by
  have quotient : num / den ≤ m := Nat.div_le_of_le_mul (by rw [Nat.mul_comm]; exact most)
  rcases quotient.eq_or_lt with full | small
  · have whole := Nat.div_add_mod num den
    rw [full, Nat.mul_comm] at whole
    have none : num % den = 0 := by omega
    simp [roundHalfEven, none, positive, full]
  · simp only [roundHalfEven]
    split <;> (try split) <;> (try split) <;> omega

theorem roundHalfEven_small {num den : Nat} (small : 2 * num < den) : roundHalfEven num den = 0 := by
  have whole : num / den = 0 := Nat.div_eq_of_lt (by omega)
  have rest : num % den = num := Nat.mod_eq_of_lt (by omega)
  simp [roundHalfEven, whole, rest, small]

/-- A quotient below a half is rounded down. -/
theorem roundHalfEven_le {num den m : Nat} (below : 2 * num < (2 * m + 1) * den) : roundHalfEven num den ≤ m := by
  have positive : 0 < den := Nat.pos_of_mul_pos_left (Nat.zero_lt_of_lt below)
  have whole := Nat.div_add_mod num den
  have rest := Nat.mod_lt num positive
  have quotient : num / den ≤ m := by
    by_contra more
    have least : den * (m + 1) ≤ den * (num / den) := Nat.mul_le_mul_left den (by omega)
    have wide : (2 * m + 1) * den ≤ 2 * (den * (m + 1)) := by
      rw [Nat.mul_comm den, ← Nat.mul_assoc]
      exact Nat.mul_le_mul_right den (by omega)
    omega
  rcases quotient.eq_or_lt with full | small
  · have most : 2 * (num % den) < den := by
      rw [full] at whole
      have split : (2 * m + 1) * den = 2 * (den * m) + den := by ring
      omega
    simp [roundHalfEven, most, full]
  · simp only [roundHalfEven]
    split <;> (try split) <;> (try split) <;> omega

private theorem roundHalfEven_mono_num {num num' den : Nat} (positive : 0 < den) (le : num ≤ num') :
    roundHalfEven num den ≤ roundHalfEven num' den := by
  have quotient : num / den ≤ num' / den := Nat.div_le_div_right le
  rcases quotient.eq_or_lt with same | less
  · have rest : num % den ≤ num' % den := by
      have whole := Nat.div_add_mod num den
      have whole' := Nat.div_add_mod num' den
      rw [same] at whole
      omega
    simp only [roundHalfEven, same]
    split_ifs <;> omega
  · calc roundHalfEven num den
        ≤ num / den + 1 := roundHalfEven_upper positive (Nat.lt_mul_of_div_lt (Nat.lt_succ_self _) positive).le
      _ ≤ num' / den := less
      _ ≤ roundHalfEven num' den := roundHalfEven_lower le_rfl

/-- Of two quotients the greater is not rounded to less. -/
theorem roundHalfEven_mono {num den num' den' : Nat} (positive : 0 < den) (positive' : 0 < den')
    (le : num * den' ≤ num' * den) : roundHalfEven num den ≤ roundHalfEven num' den' := by
  rw [← roundHalfEven_scale positive' num den, ← roundHalfEven_scale positive num' den', Nat.mul_comm den den']
  exact roundHalfEven_mono_num (Nat.mul_pos positive' positive) (by rwa [Nat.mul_comm den', Nat.mul_comm den])

namespace Binary64

/-- The form in which numbers are kept: the significand has 53 bits, or the exponent is the
least possible. -/
def IsCanonical : Binary64 → Prop
  | .finite _ m e =>
    m < 0x20000000000000 ∧ leastExponent ≤ e ∧ e ≤ greatestExponent ∧
      (0x10000000000000 ≤ m ∨ e = leastExponent)
  | _ => True

variable {negative : Bool} {num den num' den' m : Nat} {e : Int}

/-! ## Scaling -/

theorem scaleDown_eq (num den : Nat) (e : Int) :
    scaleDown num den e = (num * 2 ^ (-e).toNat, den * 2 ^ e.toNat) := by
  unfold scaleDown
  split
  · have none : (-e).toNat = 0 := by omega
    simp [none]
  · have none : e.toNat = 0 := by omega
    simp [none]

theorem pow_toNat (e : Int) : (2 : ℚ) ^ e.toNat = 2 ^ (-e).toNat * 2 ^ e := by
  rw [← zpow_natCast, ← zpow_natCast, ← zpow_add₀ two_ne_zero]
  congr 1
  omega

/-- Scaling down divides the ratio by a power of two. -/
theorem scaleDown_value (num den : Nat) (e : Int) :
    ((num * 2 ^ (-e).toNat : Nat) : ℚ) / (den * 2 ^ e.toNat : Nat) = num / den / 2 ^ e := by
  have nonzero : (2 : ℚ) ^ (-e).toNat ≠ 0 := by positivity
  push_cast
  rw [pow_toNat e, mul_left_comm, mul_comm (num : ℚ), mul_div_mul_left _ _ nonzero, div_div]

/-! ## Spacing -/

theorem lt_zpow_iff {q : ℚ} (positive : 0 < q) {x : Int} : q < 2 ^ x ↔ Int.log 2 q < x := by
  simpa using Int.lt_zpow_iff_log_lt (b := 2) (by decide) positive (x := x)

theorem zpow_le_iff {q : ℚ} (positive : 0 < q) {x : Int} : 2 ^ x ≤ q ↔ x ≤ Int.log 2 q := by
  simpa using Int.zpow_le_iff_le_log (b := 2) (by decide) positive (x := x)

/-- The binary logarithms of numerator and denominator leave two choices for that of the
ratio. -/
theorem log_bounds (positive : 0 < num) (divides : 0 < den) :
    (Nat.log2 num : Int) - Nat.log2 den - 1 ≤ Int.log 2 ((num : ℚ) / den) ∧
      Int.log 2 ((num : ℚ) / den) ≤ (Nat.log2 num : Int) - Nat.log2 den := by
  have ratio : (0 : ℚ) < num / den := by positivity
  have low : ((2 : ℚ) ^ (Nat.log2 num : Int)) ≤ num := by
    exact_mod_cast Nat.log2_self_le positive.ne'
  have high : (num : ℚ) < 2 ^ ((Nat.log2 num : Int) + 1) := by
    exact_mod_cast Nat.lt_log2_self (n := num)
  have low' : ((2 : ℚ) ^ (Nat.log2 den : Int)) ≤ den := by
    exact_mod_cast Nat.log2_self_le divides.ne'
  have high' : (den : ℚ) < 2 ^ ((Nat.log2 den : Int) + 1) := by
    exact_mod_cast Nat.lt_log2_self (n := den)
  have above : (0 : ℚ) < den := by exact_mod_cast divides
  constructor
  · rw [← zpow_le_iff ratio, le_div_iff₀ above]
    calc (2 : ℚ) ^ ((Nat.log2 num : Int) - Nat.log2 den - 1) * den
        ≤ 2 ^ ((Nat.log2 num : Int) - Nat.log2 den - 1) * 2 ^ ((Nat.log2 den : Int) + 1) := by gcongr
      _ = 2 ^ (Nat.log2 num : Int) := by rw [← zpow_add₀ two_ne_zero]; congr 1; ring
      _ ≤ num := low
  · rw [← Int.lt_add_one_iff, ← lt_zpow_iff ratio, div_lt_iff₀ above]
    calc (num : ℚ) < 2 ^ ((Nat.log2 num : Int) + 1) := high
      _ = 2 ^ ((Nat.log2 num : Int) - Nat.log2 den + 1) * 2 ^ (Nat.log2 den : Int) := by
        rw [← zpow_add₀ two_ne_zero]; congr 1; ring
      _ ≤ 2 ^ ((Nat.log2 num : Int) - Nat.log2 den + 1) * den := by gcongr

/-- Whether a scaled ratio stays below a power of two shows in its whole part. -/
theorem scaled_lt_iff (num : Nat) (divides : 0 < den) (e : Int) (k : Nat) :
    num * 2 ^ (-e).toNat / (den * 2 ^ e.toNat) < 2 ^ k ↔ (num : ℚ) / den < 2 ^ (e + k) := by
  have above : 0 < den * 2 ^ e.toNat := Nat.mul_pos divides (Nat.two_pow_pos _)
  have scale : (0 : ℚ) < 2 ^ e := by positivity
  rw [Nat.div_lt_iff_lt_mul above, ← Nat.cast_lt (α := ℚ), Nat.cast_mul (2 ^ k),
    ← div_lt_iff₀ (by exact_mod_cast above), scaleDown_value, div_lt_iff₀ scale, zpow_add₀ two_ne_zero,
    mul_comm]
  simp

/-- The spacing around a ratio follows from its binary logarithm. -/
theorem spacing_eq (positive : 0 < num) (divides : 0 < den) :
    spacing num den = max (Int.log 2 ((num : ℚ) / den) - 52) leastExponent := by
  have ratio : (0 : ℚ) < num / den := by positivity
  obtain ⟨low, high⟩ := log_bounds positive divides
  simp only [spacing, scaleDown_eq]
  have narrow := scaled_lt_iff num divides ((Nat.log2 num : Int) - Nat.log2 den - 53) 53
  rw [lt_zpow_iff ratio, show (2 : Nat) ^ 53 = 0x20000000000000 from rfl] at narrow
  split
  · rename_i small
    have := narrow.mp small
    congr 1
    omega
  · rename_i large
    have := mt narrow.mpr large
    congr 1
    omega

/-! ## Ratios -/

/-- The number that a rounded significand makes at a spacing. One that was rounded up to the
next power of two is written with the next exponent. -/
def atSpacing (negative : Bool) (m : Nat) (e : Int) : Binary64 :=
  if m < 0x20000000000000 then
    if greatestExponent < e then .infinity negative else .finite negative m e
  else if greatestExponent < e + 1 then .infinity negative
  else .finite negative 0x10000000000000 (e + 1)

theorem ofRatio_eq (positive : 0 < num) (divides : 0 < den) :
    ofRatio negative num den =
      atSpacing negative
        (roundHalfEven (num * 2 ^ (-spacing num den).toNat) (den * 2 ^ (spacing num den).toNat))
        (spacing num den) := by
  rw [ofRatio, if_neg (by omega)]
  simp only [scaleDown_eq, atSpacing]
  split <;> rfl

/-- Equal ratios round to one number. -/
theorem ofRatio_congr (divides : 0 < den) (divides' : 0 < den') (same : num * den' = num' * den) :
    ofRatio negative num den = ofRatio negative num' den' := by
  rcases Nat.eq_zero_or_pos num with rfl | positive
  · have none : num' = 0 := by
      have : num' * den = 0 := by omega
      exact (Nat.mul_eq_zero.mp this).resolve_right divides.ne'
    simp [ofRatio, none]
  have positive' : 0 < num' := by
    have : 0 < num' * den := same ▸ Nat.mul_pos positive divides'
    exact Nat.pos_of_mul_pos_right this
  have value : (num : ℚ) / den = num' / den' := by
    rw [div_eq_div_iff (by exact_mod_cast divides.ne') (by exact_mod_cast divides'.ne')]
    exact_mod_cast same
  have spaced : spacing num den = spacing num' den' := by
    rw [spacing_eq positive divides, spacing_eq positive' divides', value]
  rw [ofRatio_eq positive divides, ofRatio_eq positive' divides', spaced]
  congr 1
  refine roundHalfEven_congr (Nat.mul_pos divides (Nat.two_pow_pos _))
    (Nat.mul_pos divides' (Nat.two_pow_pos _)) ?_
  calc num * 2 ^ (-spacing num' den').toNat * (den' * 2 ^ (spacing num' den').toNat)
      = num * den' * (2 ^ (-spacing num' den').toNat * 2 ^ (spacing num' den').toNat) := by ring
    _ = num' * 2 ^ (-spacing num' den').toNat * (den * 2 ^ (spacing num' den').toNat) := by
      rw [same]; ring

theorem atSpacing_canonical (least : leastExponent ≤ e)
    (wide : 0x10000000000000 ≤ m ∨ e = leastExponent) : (atSpacing negative m e).IsCanonical := by
  unfold atSpacing
  split
  · split
    · trivial
    · exact ⟨by assumption, least, by omega, wide⟩
  · split
    · trivial
    · exact ⟨by decide, by omega, by omega, .inl (by decide)⟩

/-- A rounded ratio is in the form that numbers are kept in. -/
theorem ofRatio_canonical (negative : Bool) (num den : Nat) : (ofRatio negative num den).IsCanonical := by
  by_cases none : num = 0 ∨ den = 0
  · rw [ofRatio, if_pos none]
    exact ⟨by decide, by decide, by decide, .inr rfl⟩
  have positive : 0 < num := by omega
  have divides : 0 < den := by omega
  rw [ofRatio_eq positive divides]
  have spaced := spacing_eq positive divides
  apply atSpacing_canonical
  · rw [spaced]
    exact le_max_right _ _
  · rcases le_total (Int.log 2 ((num : ℚ) / den) - 52) leastExponent with low | high
    · right
      rw [spaced, max_eq_right low]
    · left
      rw [max_eq_left high] at spaced
      apply roundHalfEven_lower
      have wide := scaled_lt_iff num divides (spacing num den) 52
      rw [lt_zpow_iff (by positivity)] at wide
      have := mt wide.mp (by omega)
      omega

/-- A significand over a power of two, as a ratio. -/
theorem binary_ratio (m : Nat) (e : Int) :
    ((m * 2 ^ e.toNat : Nat) : ℚ) / (2 ^ (-e).toNat : Nat) = m * 2 ^ e := by
  push_cast
  rw [pow_toNat e]
  field_simp

/-- A number in its form is its own rounding. -/
theorem ofRatio_exact (positive : 0 < m) (canonical : (Binary64.finite negative m e).IsCanonical) :
    ofRatio negative (m * 2 ^ e.toNat) (2 ^ (-e).toNat) = .finite negative m e := by
  obtain ⟨narrow, least, greatest, wide⟩ := canonical
  have divides : 0 < 2 ^ (-e).toNat := Nat.two_pow_pos _
  have scaled : 0 < m * 2 ^ e.toNat := Nat.mul_pos positive (Nat.two_pow_pos _)
  have value := binary_ratio m e
  have above : (0 : ℚ) < 2 ^ e := by positivity
  have ratio : (0 : ℚ) < m * 2 ^ e := by positivity
  have high : Int.log 2 ((m : ℚ) * 2 ^ e) < 53 + e := by
    rw [← lt_zpow_iff ratio, zpow_add₀ two_ne_zero, mul_lt_mul_iff_left₀ above]
    exact_mod_cast narrow
  have spaced : spacing (m * 2 ^ e.toNat) (2 ^ (-e).toNat) = e := by
    rw [spacing_eq scaled divides, value]
    rcases wide with wide | rfl
    · have low : 52 + e ≤ Int.log 2 ((m : ℚ) * 2 ^ e) := by
        rw [← zpow_le_iff ratio, zpow_add₀ two_ne_zero, mul_le_mul_iff_left₀ above]
        exact_mod_cast wide
      omega
    · omega
  rw [ofRatio_eq scaled divides, spaced, Nat.mul_assoc, Nat.mul_comm (2 ^ (-e).toNat),
    roundHalfEven_whole m (Nat.mul_pos (Nat.two_pow_pos _) (Nat.two_pow_pos _)), atSpacing, if_pos narrow,
    if_neg (by omega)]

/-! ## Decimals -/

/-- Less than half of the smallest number rounds to zero. -/
theorem ofRatio_small (positive : 0 < num) (small : 2 ^ (1074 + 1) * num < den) :
    ofRatio negative num den = .finite negative 0 leastExponent := by
  have divides : 0 < den := by omega
  have below : (num : ℚ) / den < 2 ^ (-((1074 + 1 : Nat) : Int)) := by
    have above : (0 : ℚ) < den := by exact_mod_cast divides
    have cast : (2 : ℚ) ^ (1074 + 1) * num < den := by exact_mod_cast small
    rw [div_lt_iff₀ above, zpow_neg, zpow_natCast, ← div_eq_inv_mul, lt_div_iff₀ (by positivity), mul_comm]
    exact cast
  rw [lt_zpow_iff (by positivity)] at below
  have spaced : spacing num den = leastExponent := by
    rw [spacing_eq positive divides, leastExponent]
    omega
  have none : roundHalfEven (num * 2 ^ (-leastExponent).toNat) (den * 2 ^ leastExponent.toNat) = 0 := by
    apply roundHalfEven_small
    have exponent : (-leastExponent).toNat = 1074 := rfl
    have twice (n : Nat) : 2 * (num * 2 ^ n) = 2 ^ (n + 1) * num := by ring
    calc 2 * (num * 2 ^ (-leastExponent).toNat) = 2 ^ (1074 + 1) * num := by
          rw [exponent, twice]
      _ < den := small
      _ = den * 2 ^ leastExponent.toNat := by simp [leastExponent]
  rw [ofRatio_eq positive divides, spaced, none]
  rfl

/-- From the next power of two behind the greatest number on, ratios round to infinity. -/
theorem ofRatio_large (divides : 0 < den) (large : 2 ^ 1024 * den ≤ num) :
    ofRatio negative num den = .infinity negative := by
  have positive : 0 < num := Nat.lt_of_lt_of_le (Nat.mul_pos (Nat.two_pow_pos _) divides) large
  have above : (2 : ℚ) ^ (1024 : Int) ≤ num / den := by
    have cast : (2 : ℚ) ^ 1024 * den ≤ num := by exact_mod_cast large
    rw [le_div_iff₀ (by exact_mod_cast divides)]
    exact_mod_cast cast
  rw [zpow_le_iff (by positivity)] at above
  have spaced : greatestExponent < spacing num den := by
    rw [spacing_eq positive divides, greatestExponent, leastExponent]
    omega
  rw [ofRatio_eq positive divides, atSpacing]
  split
  · rfl
  · rw [if_pos (by omega)]

/-- A number has fewer decimal digits than a third of its binary ones. -/
theorem lt_pow_log2 (c : Nat) : c < 10 ^ (Nat.log2 c / 3 + 1) := by
  calc c < 2 ^ (Nat.log2 c + 1) := Nat.lt_log2_self
    _ ≤ 2 ^ (3 * (Nat.log2 c / 3 + 1)) := Nat.pow_le_pow_right (by decide) (by omega)
    _ = 8 ^ (Nat.log2 c / 3 + 1) := by rw [Nat.pow_mul]
    _ ≤ 10 ^ (Nat.log2 c / 3 + 1) := Nat.pow_le_pow_left (by decide) _

/-- The shortcuts for exponents far outside the range round as the ratio itself does. -/
theorem ofDecimal_eq (negative : Bool) (c : Nat) (k : Int) :
    ofDecimal negative c k = ofRatio negative (c * 10 ^ k.toNat) (10 ^ (-k).toNat) := by
  have tens (n : Nat) : 0 < 10 ^ n := Nat.pow_pos (by decide)
  unfold ofDecimal
  split
  · rename_i none
    simp [ofRatio, none]
  rename_i some
  have positive : 0 < c := Nat.pos_of_ne_zero some
  split
  · rename_i small
    refine (ofRatio_small (Nat.mul_pos positive (tens _)) ?_).symm
    have none : k.toNat = 0 := by omega
    have far : Nat.log2 c / 3 + 1 + 331 ≤ (-k).toNat := by omega
    calc 2 ^ (1074 + 1) * (c * 10 ^ k.toNat) = 2 ^ (1074 + 1) * c := by rw [none, Nat.pow_zero, Nat.mul_one]
      _ < 10 ^ 331 * 10 ^ (Nat.log2 c / 3 + 1) :=
        Nat.mul_lt_mul'' (by decide +kernel) (lt_pow_log2 c)
      _ = 10 ^ (Nat.log2 c / 3 + 1 + 331) := by rw [Nat.mul_comm, ← Nat.pow_add]
      _ ≤ 10 ^ (-k).toNat := Nat.pow_le_pow_right (by decide) far
  split
  · rename_i large
    refine (ofRatio_large (tens _) ?_).symm
    have none : (-k).toNat = 0 := by omega
    calc 2 ^ 1024 * 10 ^ (-k).toNat = 2 ^ 1024 := by rw [none, Nat.pow_zero, Nat.mul_one]
      _ ≤ 10 ^ 401 := by decide +kernel
      _ ≤ 10 ^ k.toNat := by gcongr <;> omega
      _ ≤ c * 10 ^ k.toNat := Nat.le_mul_of_pos_left _ positive
  split
  · rename_i whole
    have none : (-k).toNat = 0 := by omega
    rw [none, Nat.pow_zero]
    rfl
  · have none : k.toNat = 0 := by omega
    rw [none, Nat.pow_zero, Nat.mul_one]
    rfl

/-- Decimals of one value are rounded alike. -/
theorem ofDecimal_congr {c c' : Nat} {k k' : Int}
    (same : c * 10 ^ k.toNat * 10 ^ (-k').toNat = c' * 10 ^ k'.toNat * 10 ^ (-k).toNat) :
    ofDecimal negative c k = ofDecimal negative c' k' := by
  rw [ofDecimal_eq, ofDecimal_eq]
  exact ofRatio_congr (Nat.pow_pos (by decide)) (Nat.pow_pos (by decide)) same

theorem ofDecimal_canonical (negative : Bool) (c : Nat) (k : Int) : (ofDecimal negative c k).IsCanonical :=
  ofDecimal_eq negative c k ▸ ofRatio_canonical ..

end Binary64

end Curation
