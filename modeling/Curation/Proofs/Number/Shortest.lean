import Curation.Number.Shortest
import Curation.Proofs.Number.Rounding

/-! The shortest decimal of a number reads back as it: a candidate was read back before it was
taken, the expansion that stands in where none was found is exact, and zeros at the end of a
coefficient do not change what it reads as. -/
namespace Curation.Binary64

variable {negative : Bool} {m num den : Nat} {e : Int}

theorem gridHit_reads {x : Binary64} {k : Int} {hit : Nat × Int} (found : gridHit x num den k = some hit) :
    ofDecimal false hit.1 hit.2 = x := by
  simp only [gridHit] at found
  generalize (if (gridBelow num den k).2 = true then ((gridBelow num den k).1 + 1, (gridBelow num den k).1)
    else ((gridBelow num den k).1, (gridBelow num den k).1 + 1)) = order at found
  split at found
  · rename_i reads
    cases found
    exact eq_of_beq reads
  · split at found
    · rename_i reads
      cases found
      exact eq_of_beq reads
    · cases found

theorem searchGrids_reads {x : Binary64} {leading : Int} {hit : Nat × Int} {tries digits : Nat}
    (found : searchGrids x num den leading tries digits = some hit) : ofDecimal false hit.1 hit.2 = x := by
  induction tries generalizing digits with
  | zero => cases found
  | succ tries ih =>
    rw [searchGrids] at found
    split at found
    · rename_i here
      cases found
      exact gridHit_reads here
    · exact ih found

theorem exactDecimal_reads (positive : 0 < m) (canonical : (Binary64.finite negative m e).IsCanonical) :
    ofDecimal negative (exactDecimal m e).1 (exactDecimal m e).2 = .finite negative m e := by
  rw [← ofRatio_exact positive canonical, exactDecimal]
  split
  · rename_i whole
    have none : (-e).toNat = 0 := by omega
    rw [ofDecimal_eq, none]
    simp
  · rename_i fractional
    have none : e.toNat = 0 := by omega
    rw [ofDecimal_eq, none]
    refine ofRatio_congr (Nat.pow_pos (by decide)) (Nat.two_pow_pos _) ?_
    have tens (n : Nat) : m * 5 ^ n * 10 ^ 0 * 2 ^ n = m * 2 ^ 0 * 10 ^ n := by
      have factors : 10 ^ n = 5 ^ n * 2 ^ n := by rw [← Nat.mul_pow]
      rw [factors]
      ring
    exact tens _

/-- A zero at the end of a coefficient stands for one power of ten more. -/
theorem ofDecimal_shift (c : Nat) (k : Int) : ofDecimal negative (10 * c) k = ofDecimal negative c (k + 1) := by
  apply ofDecimal_congr
  rcases Int.lt_or_le k 0 with below | above
  · have one : (k + 1).toNat = k.toNat := by omega
    have other : (-k).toNat = (-(k + 1)).toNat + 1 := by omega
    rw [one, other, pow_succ]
    ring
  · have one : (k + 1).toNat = k.toNat + 1 := by omega
    have other : (-(k + 1)).toNat = (-k).toNat := by omega
    rw [one, other, pow_succ]
    ring

theorem ofDecimal_shifts (c n : Nat) (k : Int) :
    ofDecimal negative (c * 10 ^ n) k = ofDecimal negative c (k + n) := by
  induction n generalizing k with
  | zero => simp
  | succ n ih =>
    rw [pow_succ, ← Nat.mul_assoc, Nat.mul_comm _ 10, ofDecimal_shift, ih]
    congr 1
    push_cast
    ring

theorem stripZeros_reads (fuel c : Nat) (k : Int) :
    ofDecimal negative (stripZeros fuel c k).1 (stripZeros fuel c k).2 = ofDecimal negative c k := by
  induction fuel generalizing c k with
  | zero => rfl
  | succ fuel ih =>
    rw [stripZeros]
    split
    · rename_i ends
      rw [ih, ← ofDecimal_shift, Nat.mul_div_cancel' (Nat.dvd_of_mod_eq_zero ends.2)]
    · rfl

/-- The sign takes no part in rounding. -/
theorem ofRatio_true (num den : Nat) : ofRatio true num den = (ofRatio false num den).neg := by
  rcases Nat.eq_zero_or_pos num with rfl | positive
  · rfl
  rcases Nat.eq_zero_or_pos den with rfl | divides
  · simp [ofRatio, neg]
  rw [ofRatio_eq positive divides, ofRatio_eq positive divides]
  simp only [atSpacing]
  split <;> split <;> rfl

theorem ofDecimal_true (c : Nat) (k : Int) : ofDecimal true c k = (ofDecimal false c k).neg := by
  rw [ofDecimal_eq, ofDecimal_eq, ofRatio_true]

/-- The shortest decimal of a number reads back as it. -/
theorem shortestDecimal_reads (positive : 0 < m) (canonical : (Binary64.finite negative m e).IsCanonical) :
    ofDecimal negative (shortestDecimal m e).1 (shortestDecimal m e).2 = .finite negative m e := by
  have unsigned : ofDecimal false (shortestDecimal m e).1 (shortestDecimal m e).2 = .finite false m e := by
    simp only [shortestDecimal]
    rw [stripZeros_reads]
    generalize found : searchGrids _ _ _ _ _ _ = hit
    cases hit with
    | none => exact exactDecimal_reads positive canonical
    | some hit => exact searchGrids_reads found
  cases negative with
  | false => exact unsigned
  | true => rw [ofDecimal_true, unsigned, neg, Bool.not_false]

/-- A number other than zero has a digit other than zero. -/
theorem shortestDecimal_pos (positive : 0 < m) (canonical : (Binary64.finite negative m e).IsCanonical) :
    0 < (shortestDecimal m e).1 := by
  have reads := shortestDecimal_reads positive canonical
  refine Nat.pos_of_ne_zero fun none => ?_
  rw [none, ofDecimal, if_pos rfl] at reads
  cases reads
  exact Nat.lt_irrefl _ positive

end Curation.Binary64
