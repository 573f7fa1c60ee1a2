import Curation.Proofs.Number.Order
import Curation.Time.Span

/-! How long a number of hours is. Whole hours are converted exactly. The fraction of an
hour is rounded, but rounding keeps it between nothing and an hour, so hours that are not
negative make a length between their whole hours and one hour more. -/
namespace Curation

namespace Binary64

variable {x y : Binary64} {negative : Bool} {m n : Nat} {e f whole : Int} {u : ℚ}

/-- A finite number that is neither negative nor beyond a bound. -/
def IsWithin (x : Binary64) (u : ℚ) : Prop := ∃ q, x.place? = some (placeOf q) ∧ 0 ≤ q ∧ q ≤ u

/-- A negative zero is not negative. -/
theorem finiteValue_nonneg : 0 ≤ finiteValue negative m e ↔ negative = false ∨ m = 0 := by
  have scale : (0 : ℚ) < 2 ^ e := by positivity
  cases negative with
  | false =>
    simp only [finiteValue, Bool.false_eq_true, if_false, true_or, iff_true]
    positivity
  | true =>
    rw [finiteValue, if_pos rfl, mul_nonneg_iff_of_pos_right scale, neg_nonneg]
    simp

theorem finiteValue_of_nonneg (above : 0 ≤ finiteValue negative m e) :
    finiteValue negative m e = m * 2 ^ e := by
  rcases finiteValue_nonneg.mp above with rfl | rfl
  · rfl
  · cases negative <;> simp [finiteValue]

theorem zero_within (bound : 0 ≤ u) : (Binary64.finite negative 0 e).IsWithin u := by
  refine ⟨_, rfl, finiteValue_nonneg.mpr (.inr rfl), ?_⟩
  rw [finiteValue_of_nonneg (finiteValue_nonneg.mpr (.inr rfl))]
  simpa using bound

/-- What is at most a number is not rounded beyond it, nor below zero. -/
theorem ofBinary_within (canonical : (Binary64.finite false n f).IsCanonical)
    (most : (m : ℚ) * 2 ^ e ≤ n * 2 ^ f) : (ofBinary false m e).IsWithin (n * 2 ^ f) := by
  rw [ofBinary_eq]
  rcases Nat.eq_zero_or_pos m with rfl | positive
  · rw [Nat.zero_mul, ofRatio, if_pos (.inl rfl)]
    exact zero_within (by positivity)
  have scaled : 0 < m * 2 ^ e.toNat := Nat.mul_pos positive (Nat.two_pow_pos _)
  have divides : 0 < 2 ^ (-e).toNat := Nat.two_pow_pos _
  obtain ⟨q, placed, most⟩ := ofRatio_upper scaled divides canonical (by rw [binary_ratio]; exact most)
  refine ⟨q, placed, ?_, most⟩
  rw [ofRatio_atSpacing scaled divides] at placed
  rcases atSpacing_place false (significand_small scaled divides) with finite | ⟨infinite, -⟩
  · rw [placeOf_inj (placed.symm.trans finite)]
    exact finiteValue_nonneg.mpr (.inl rfl)
  · rw [infinite] at placed
    cases placed

/-- What is at most one times a number stays at most that number. -/
theorem mul_within (canonical : (Binary64.finite false n f).IsCanonical) (within : x.IsWithin 1) :
    (x.mul (.finite false n f)).IsWithin (n * 2 ^ f) := by
  obtain ⟨q, placed, above, most⟩ := within
  obtain ⟨negative, m, e, rfl, rfl⟩ := place?_finite placed
  simp only [mul]
  split
  · exact zero_within (by positivity)
  · rename_i nonzero
    have positive : negative = false := by
      apply (finiteValue_nonneg.mp above).resolve_right
      rintro rfl
      exact nonzero (Nat.zero_mul n)
    subst positive
    apply ofBinary_within canonical
    have scale : (2 : ℚ) ^ (e + f) = 2 ^ e * 2 ^ f := zpow_add₀ two_ne_zero e f
    calc ((m * n : Nat) : ℚ) * 2 ^ (e + f) = m * 2 ^ e * (n * 2 ^ f) := by rw [scale]; push_cast; ring
      _ ≤ 1 * (n * 2 ^ f) := by
        rw [finiteValue_of_nonneg above] at most
        gcongr
      _ = n * 2 ^ f := one_mul _

/-! ## Whole part and fraction -/

/-- A number that is not negative, by its sign. -/
theorem of_lt_zero (spared : (Binary64.finite negative m e).lt .zero = false) : negative = false ∨ m = 0 := by
  rw [← finiteValue_nonneg (e := e)]
  by_contra below
  have zero : finiteValue false 0 leastExponent = 0 := by simp [finiteValue]
  have less : Number.lt (.real (.finite negative m e)) (.real .zero) = true := by
    refine Number.lt_iff.mpr ⟨_, _, rfl, rfl, ?_⟩
    rw [zero, placeOf_lt]
    exact not_le.mp below
  cases spared.symm.trans less

theorem truncate?_nonneg (spared : x.lt .zero = false) (given : x.truncate? = some whole) : 0 ≤ whole := by
  cases x with
  | nan | infinity => cases given
  | finite negative m e =>
    cases given
    rcases of_lt_zero spared with rfl | rfl
    · exact Int.natCast_nonneg _
    · simp

/-- The fraction of a number that is not negative lies between nothing and one. -/
theorem fraction_within (spared : x.lt .zero = false) (given : x.truncate? = some whole) :
    x.fraction.IsWithin 1 := by
  cases x with
  | nan | infinity => cases given
  | finite negative m e =>
    simp only [fraction]
    split
    · exact zero_within zero_le_one
    rename_i below
    have one : (0x10000000000000 : Nat) * (2 : ℚ) ^ (-52 : Int) = 1 := by norm_num
    have canonical : (Binary64.finite false 0x10000000000000 (-52)).IsCanonical := by
      refine ⟨?_, ?_, ?_, .inl le_rfl⟩ <;> decide
    rcases of_lt_zero spared with rfl | rfl
    · rw [← one]
      apply ofBinary_within canonical
      have divides : 0 < 2 ^ (-e).toNat := Nat.two_pow_pos _
      have small : m % 2 ^ (-e).toNat ≤ 2 ^ (-e).toNat := (Nat.mod_lt m divides).le
      have whole : (2 : ℚ) ^ (-e).toNat * 2 ^ e = 1 := by
        rw [← pow_toNat e, show e.toNat = 0 by omega, pow_zero]
      calc ((m % 2 ^ (-e).toNat : Nat) : ℚ) * 2 ^ e ≤ (2 ^ (-e).toNat : Nat) * 2 ^ e := by gcongr
        _ = 1 := by push_cast; exact whole
        _ = _ := one.symm
    · rw [Nat.zero_mod, ofBinary_eq, Nat.zero_mul, ofRatio, if_pos (.inl rfl)]
      exact zero_within zero_le_one

end Binary64

namespace Span

open Binary64 (IsWithin place?_finite finiteValue overPower_value)

variable {hours : Binary64} {part : Binary64} {length whole most : Int}

/-- A quotient rounded to the nearest whole number lies between the whole numbers that the
quotient does. -/
private theorem nearest_between {num den : Int} (positive : 0 < den) (above : whole * den ≤ num)
    (below : num ≤ most * den) :
    let q := num / den
    let r := num % den
    let nearest := if 2 * r < den then q else if den < 2 * r then q + 1 else if q % 2 = 0 then q else q + 1
    whole ≤ nearest ∧ nearest ≤ most := by
  intro q r nearest
  have least : whole ≤ q := (Int.le_ediv_iff_mul_le positive).mpr above
  have greatest : q ≤ most := Int.ediv_le_of_le_mul positive below
  have parts : den * q + r = num := Int.mul_ediv_add_emod num den
  -- Only a quotient with a remainder is rounded up, and then it is below the bound.
  have less : 0 < r → q < most := by
    intro remainder
    refine greatest.lt_of_ne fun same => ?_
    rw [same, mul_comm] at parts
    omega
  have rounded : nearest = q ∨ nearest = q + 1 ∧ 0 < r := by
    simp only [nearest]
    split
    · exact .inl rfl
    · have remainder : 0 < r := by omega
      split
      · exact .inr ⟨rfl, remainder⟩
      · split
        · exact .inl rfl
        · exact .inr ⟨rfl, remainder⟩
  rcases rounded with same | ⟨same, remainder⟩
  · omega
  · have := less remainder
    omega

/-- The nearest whole number to a sum lies between the whole numbers that the sum does. -/
theorem roundSum_between (whole : Int) (within : part.IsWithin most) :
    whole ≤ roundSum whole part ∧ roundSum whole part ≤ whole + most := by
  obtain ⟨_, placed, above, below⟩ := within
  obtain ⟨negative, m, e, rfl, rfl⟩ := place?_finite placed
  simp only [roundSum]
  split
  · rename_i coarse
    rw [← overPower_value negative m coarse, zpow_zero, mul_one] at above below
    have above : 0 ≤ Binary64.overPower negative m e 0 := by exact_mod_cast above
    have below : Binary64.overPower negative m e 0 ≤ most := by exact_mod_cast below
    omega
  rename_i fine
  have positive : 0 < ((Nat.pow 2 (-e).toNat : Nat) : Int) := by exact_mod_cast Nat.two_pow_pos _
  -- Over the denominator the part is a whole number.
  have value : finiteValue negative m e * (Nat.pow 2 (-e).toNat : Nat) =
      ((if negative then -(m : Int) else m : Int) : ℚ) := by
    have scale : (2 : ℚ) ^ e * (Nat.pow 2 (-e).toNat : Nat) = 1 := by
      have power := Binary64.pow_toNat e
      rw [show e.toNat = 0 by omega, pow_zero, mul_comm] at power
      rw [Nat.pow_eq]
      push_cast
      exact power.symm
    rw [finiteValue, mul_assoc, scale, mul_one]
    cases negative <;> simp
  have scaled : (0 : ℚ) ≤ (Nat.pow 2 (-e).toNat : Nat) := Nat.cast_nonneg _
  have above := mul_nonneg above scaled
  have below := mul_le_mul_of_nonneg_right below scaled
  rw [value] at above below
  apply nearest_between positive
  · have above : 0 ≤ (if negative then -(m : Int) else m) := by exact_mod_cast above
    omega
  · have below : (if negative then -(m : Int) else m) ≤ most * (Nat.pow 2 (-e).toNat : Nat) := by
      exact_mod_cast below
    rw [add_mul]
    omega

theorem bounded_exact {micros : Int} (given : bounded micros = .ok length) : length = micros := by
  simp only [bounded] at given
  split at given
  · cases given
  · cases given
    rfl

theorem bounded_short {micros : Int} (above : 0 ≤ micros)
    (below : micros < (greatestDays + 1) * (24 * microsPerHour)) : bounded micros = .ok micros := by
  have short : ¬ (micros / (24 * microsPerHour) < -greatestDays ∨
      greatestDays < micros / (24 * microsPerHour)) := by
    simp only [greatestDays, microsPerHour] at below ⊢
    omega
  simp only [bounded, if_neg short]

/-! ## Hours -/

/-- Hours that are not negative come to their whole hours, exactly, and at most one hour
more. -/
theorem ofHours_real (spared : hours.lt .zero = false) (given : hours.truncate? = some whole) :
    ∃ micros, ofHours (.real hours) = bounded micros ∧
      whole * microsPerHour ≤ micros ∧ micros ≤ (whole + 1) * microsPerHour := by
  have unit : Number.toReal (.whole microsPerHour) = .finite false 7549747200000000 (-21) := by decide
  have value : (7549747200000000 : Nat) * (2 : ℚ) ^ (-21 : Int) = (microsPerHour : Int) := by
    norm_num [microsPerHour]
  have canonical : (Binary64.finite false 7549747200000000 (-21)).IsCanonical := by
    refine ⟨?_, ?_, ?_, .inl ?_⟩ <;> decide
  have within := Binary64.mul_within canonical (Binary64.fraction_within spared given)
  rw [value, ← unit] at within
  obtain ⟨least, most⟩ := roundSum_between (whole * microsPerHour) within
  refine ⟨_, ?_, least, ?_⟩
  · simp only [ofHours, ofUnits, given]
  · rw [add_mul, one_mul]
    exact most

/-- Hours that have a length are finite, and it is between their whole hours and one more. -/
theorem ofHours_between (spared : hours.lt .zero = false) (given : ofHours (.real hours) = .ok length) :
    ∃ whole, hours.truncate? = some whole ∧
      whole * microsPerHour ≤ length ∧ length ≤ (whole + 1) * microsPerHour := by
  cases whole : hours.truncate? with
  | none => simp [ofHours, ofUnits, whole] at given
  | some n =>
    obtain ⟨micros, same, least, most⟩ := ofHours_real spared whole
    rw [bounded_exact (same.symm.trans given)]
    exact ⟨n, rfl, least, most⟩

end Span

end Curation
