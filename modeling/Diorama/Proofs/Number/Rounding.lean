import Mathlib

open Float.Model (UnpackedFloat Format totalExponent)
open Float.Model.UnpackedFloat (Accuracy ExtendedMantissa)

namespace Diorama.Grid

-- What is left of a mantissa and the two bits behind it, counted in quarters. The second of these
-- bits stands for all that follow.
def quarters (em : ExtendedMantissa) : Nat :=
  4 * em.mantissa + 2 * em.roundBit.toNat + em.stickyBit.toNat

-- One digit further the quarters are halved, and what does not come out is remembered.
theorem quarters_shiftRightOne (em : ExtendedMantissa) :
    quarters em.shiftRightOne = 2 * (quarters em / 4) + (quarters em % 4 + 3) / 4 := by
  obtain ⟨mantissa, roundBit, stickyBit⟩ := em
  have hbit : (mantissa % 2 != 0).toNat = mantissa % 2 := by
    rcases Nat.mod_two_eq_zero_or_one mantissa with h | h <;> simp [h]
  cases roundBit <;> cases stickyBit <;>
    simp only [quarters, ExtendedMantissa.shiftRightOne, hbit, Bool.toNat_true, Bool.toNat_false,
      Bool.or_true, Bool.or_false] <;> omega

theorem quarters_shiftRight_mono {a b : ExtendedMantissa} (h : quarters a ≤ quarters b) (k : Nat) :
    quarters (a >>> k) ≤ quarters (b >>> k) := by
  induction k with
  | zero => exact h
  | succ k ih =>
      change quarters (a >>> k).shiftRightOne ≤ quarters (b >>> k).shiftRightOne
      rw [quarters_shiftRightOne, quarters_shiftRightOne]
      omega

-- Rounding is to the nearest, a tie to the even neighbour.
theorem roundedMantissa_eq (em : ExtendedMantissa) :
    em.roundedMantissa = (quarters em + 1 + quarters em / 4 % 2) / 4 := by
  obtain ⟨mantissa, roundBit, stickyBit⟩ := em
  have hwhole : quarters ⟨mantissa, roundBit, stickyBit⟩ / 4 = mantissa := by
    rw [quarters]
    cases roundBit <;> cases stickyBit <;> simp only [Bool.toNat_true, Bool.toNat_false] <;> omega
  have hparity := Nat.mod_two_eq_zero_or_one mantissa
  rw [hwhole]
  cases roundBit <;> cases stickyBit <;>
    simp only [quarters, ExtendedMantissa.roundedMantissa, ExtendedMantissa.accuracy,
      Accuracy.roundToNearestEven, Bool.toNat_true, Bool.toNat_false] <;> omega

theorem roundedMantissa_mono {a b : ExtendedMantissa} (h : quarters a ≤ quarters b) :
    a.roundedMantissa ≤ b.roundedMantissa := by
  rw [roundedMantissa_eq, roundedMantissa_eq]
  rcases (Nat.div_le_div_right h : quarters a / 4 ≤ quarters b / 4).eq_or_lt with heq | hlt
  · rw [heq]
    omega
  · omega

-- How many times a power of two goes into a whole number, to the nearest.
def rounded (n k : Nat) : Nat := ((⟨n, false, false⟩ : ExtendedMantissa) >>> k).roundedMantissa

theorem rounded_mono {n n' : Nat} (h : n ≤ n') (k : Nat) : rounded n k ≤ rounded n' k := by
  apply roundedMantissa_mono
  apply quarters_shiftRight_mono
  simpa [quarters] using h

theorem shiftRight_add (em : ExtendedMantissa) (k j : Nat) : em >>> (k + j) = em >>> j >>> k := by
  induction k with
  | zero => rw [Nat.zero_add]; rfl
  | succ k ih =>
      rw [Nat.succ_add]
      exact congrArg ExtendedMantissa.shiftRightOne ih

theorem shiftRight_exact (n k : Nat) :
    (⟨n * 2 ^ k, false, false⟩ : ExtendedMantissa) >>> k = ⟨n, false, false⟩ := by
  induction k generalizing n with
  | zero => simp; rfl
  | succ k ih =>
      have hshifted : (⟨n * 2 ^ (k + 1), false, false⟩ : ExtendedMantissa) >>> k =
          ⟨2 * n, false, false⟩ := by
        rw [show n * 2 ^ (k + 1) = 2 * n * 2 ^ k by ring]
        exact ih (2 * n)
      refine (congrArg ExtendedMantissa.shiftRightOne hshifted).trans ?_
      simp [ExtendedMantissa.shiftRightOne]

theorem rounded_mul (n k j : Nat) : rounded (n * 2 ^ j) (k + j) = rounded n k := by
  rw [rounded, shiftRight_add, shiftRight_exact, rounded]

theorem rounded_exact (n k : Nat) : rounded (n * 2 ^ k) k = n := by
  have h := rounded_mul n 0 k
  rwa [Nat.zero_add] at h

-- A mantissa has 24 digits: those that a whole number has besides.
def excess (n : Nat) : Nat := n.log2 - 23

-- A whole number without them.
def roundOff (n : Nat) : Nat := rounded n (excess n) * 2 ^ excess n

theorem lt_two_pow_excess (n : Nat) : n < 2 ^ (24 + excess n) := by
  have hlog : n < 2 ^ (n.log2 + 1) := Nat.lt_log2_self
  exact hlog.trans_le (Nat.pow_le_pow_right (by decide) (by rw [excess]; omega))

theorem two_pow_excess_le {n : Nat} (h : excess n ≠ 0) : 2 ^ (23 + excess n) ≤ n := by
  have hn : n ≠ 0 := by
    rintro rfl
    exact h rfl
  rw [show 23 + excess n = n.log2 by rw [excess] at h ⊢; omega]
  exact Nat.log2_self_le hn

theorem rounded_excess_le (n : Nat) : rounded n (excess n) ≤ 2 ^ 24 := by
  have hle : n ≤ 2 ^ 24 * 2 ^ excess n := by
    rw [← Nat.pow_add]
    exact (lt_two_pow_excess n).le
  exact (rounded_mono hle _).trans_eq (rounded_exact _ _)

theorem le_rounded_excess {n : Nat} (h : excess n ≠ 0) : 2 ^ 23 ≤ rounded n (excess n) := by
  have hle : 2 ^ 23 * 2 ^ excess n ≤ n := by
    rw [← Nat.pow_add]
    exact two_pow_excess_le h
  exact (rounded_exact _ _).symm.trans_le (rounded_mono hle _)

theorem excess_mono {n n' : Nat} (h : n ≤ n') : excess n ≤ excess n' := by
  have hlog : n.log2 ≤ n'.log2 := by
    rw [Nat.log2_eq_log_two, Nat.log2_eq_log_two]
    exact Nat.log_mono_right h
  exact Nat.sub_le_sub_right hlog 23

theorem roundOff_mono {n n' : Nat} (h : n ≤ n') : roundOff n ≤ roundOff n' := by
  rcases (excess_mono h).eq_or_lt with heq | hlt
  · rw [roundOff, roundOff, ← heq]
    exact Nat.mul_le_mul_right _ (rounded_mono h _)
  · -- a power of two lies between the two
    calc roundOff n ≤ 2 ^ 24 * 2 ^ excess n := Nat.mul_le_mul_right _ (rounded_excess_le n)
      _ = 2 ^ (23 + (excess n + 1)) := by ring
      _ ≤ 2 ^ (23 + excess n') := Nat.pow_le_pow_right (by decide) (by omega)
      _ = 2 ^ 23 * 2 ^ excess n' := Nat.pow_add ..
      _ ≤ roundOff n' := Nat.mul_le_mul_right _ (le_rounded_excess (by omega))

theorem excess_mul_two_pow {m : Nat} (hm : 0 < m) (j : Nat) :
    excess (m * 2 ^ j) = m.log2 + j - 23 := by
  have hlog : (m * 2 ^ j).log2 = m.log2 + j := by
    have hlow := Nat.mul_le_mul_right (2 ^ j) (Nat.log2_self_le hm.ne')
    have hhigh := Nat.mul_lt_mul_of_pos_right (Nat.lt_log2_self (n := m)) (Nat.two_pow_pos j)
    rw [Nat.log2_eq_iff (Nat.mul_pos hm (Nat.two_pow_pos j)).ne']
    exact ⟨by rwa [Nat.pow_add], by rwa [Nat.add_right_comm, Nat.pow_add]⟩
  rw [excess, hlog]

theorem target_eq {m : Nat} (hm : 0 < m) (j : Nat) :
    Format.binary32.targetExponent (totalExponent m ((j : Int) - 149)) =
      (excess (m * 2 ^ j) : Int) - 149 := by
  simp only [Format.targetExponent, totalExponent, Format.mantissaBits, Format.minExponent,
    excess_mul_two_pow hm]
  omega

-- A mantissa of 24 digits, the last of which counts `2 ^ k` units. Fewer digits are for what is
-- counted in the least units.
structure Canonical (m k : Nat) : Prop where
  positive : 0 < m
  below : m < 2 ^ 24
  leading : k = 0 ∨ 2 ^ 23 ≤ m

theorem Canonical.excess_eq {m k : Nat} (h : Canonical m k) : excess (m * 2 ^ k) = k := by
  have hhigh : m.log2 < 24 := (Nat.log2_lt h.positive.ne').mpr h.below
  rw [excess_mul_two_pow h.positive]
  rcases h.leading with rfl | hleading
  · omega
  · have hlow : 23 ≤ m.log2 := (Nat.le_log2 h.positive.ne').mpr hleading
    omega

-- What a format of 24 digits can hold stays what it is.
theorem Canonical.roundOff_eq {m k : Nat} (h : Canonical m k) :
    roundOff (m * 2 ^ k) = m * 2 ^ k := by
  rw [roundOff, h.excess_eq, rounded_exact]

theorem shiftToTarget_eq {m : Nat} (hm : 0 < m) {j : Nat} (hj : j ≤ excess (m * 2 ^ j)) :
    UnpackedFloat.shiftToTargetExponent .binary32 m ((j : Int) - 149) .exact =
      ((⟨m, false, false⟩ : ExtendedMantissa) >>> (excess (m * 2 ^ j) - j),
        (excess (m * 2 ^ j) : Int) - 149) := by
  have hshift : ((excess (m * 2 ^ j) : Int) - 149 - (j - 149)).toNat = excess (m * 2 ^ j) - j := by
    omega
  rw [UnpackedFloat.shiftToTargetExponent, target_eq hm, UnpackedFloat.shiftToExponent, hshift]
  simp only [ExtendedMantissa.ofMantissaAndAccuracy, Prod.mk.injEq, true_and]
  omega

theorem rounded_excess_pos {n : Nat} (h : 0 < n) : 0 < rounded n (excess n) := by
  by_cases hexcess : excess n = 0
  · rw [hexcess]
    have hexact := rounded_exact n 0
    rw [Nat.pow_zero, Nat.mul_one] at hexact
    omega
  · have hle := le_rounded_excess hexcess
    omega

-- Where rounding has made one more digit, it goes.
theorem exists_shiftToTarget {r k : Nat} (hpos : 0 < r) (hle : r ≤ 2 ^ 24)
    (hleading : k = 0 ∨ 2 ^ 23 ≤ r) :
    ∃ m' k', Canonical m' k' ∧
      UnpackedFloat.shiftToTargetExponent .binary32 r ((k : Int) - 149) .exact =
        (⟨m', false, false⟩, (k' : Int) - 149) ∧ m' * 2 ^ k' = r * 2 ^ k := by
  by_cases hr : r = 2 ^ 24
  · have hcanonical : Canonical (2 ^ 23) (k + 1) := ⟨by decide, by decide, .inr le_rfl⟩
    have hvalue : 2 ^ 23 * 2 ^ (k + 1) = r * 2 ^ k := by rw [hr]; ring
    have hexcess : excess (r * 2 ^ k) = k + 1 := by rw [← hvalue, hcanonical.excess_eq]
    have hshift : (⟨r, false, false⟩ : ExtendedMantissa) >>> 1 = ⟨2 ^ 23, false, false⟩ := by
      rw [hr]
      exact shiftRight_exact (2 ^ 23) 1
    refine ⟨2 ^ 23, k + 1, hcanonical, ?_, hvalue⟩
    rw [shiftToTarget_eq hpos (by omega), hexcess, Nat.add_sub_cancel_left, hshift]
  · have hcanonical : Canonical r k := ⟨hpos, by omega, hleading⟩
    refine ⟨r, k, hcanonical, ?_, rfl⟩
    rw [shiftToTarget_eq hpos hcanonical.excess_eq.ge, hcanonical.excess_eq, Nat.sub_self]
    rfl

theorem exists_roundWithAccuracy {m : Nat} (hm : 0 < m) {j : Nat} (hj : j ≤ excess (m * 2 ^ j)) :
    ∃ m' k, ∃ h : Canonical m' k,
      UnpackedFloat.roundWithAccuracy .binary32 .positive m ((j : Int) - 149) .exact =
        .finite .positive m' ((k : Int) - 149) h.positive ∧
      m' * 2 ^ k = roundOff (m * 2 ^ j) := by
  have hpos : 0 < m * 2 ^ j := Nat.mul_pos hm (Nat.two_pow_pos j)
  have hfirst :
      ((⟨m, false, false⟩ : ExtendedMantissa) >>> (excess (m * 2 ^ j) - j)).roundedMantissa =
        rounded (m * 2 ^ j) (excess (m * 2 ^ j)) := by
    have hmul := rounded_mul m (excess (m * 2 ^ j) - j) j
    rw [Nat.sub_add_cancel hj] at hmul
    exact hmul.symm
  have hleading : excess (m * 2 ^ j) = 0 ∨ 2 ^ 23 ≤ rounded (m * 2 ^ j) (excess (m * 2 ^ j)) := by
    by_cases h : excess (m * 2 ^ j) = 0
    · exact .inl h
    · exact .inr (le_rounded_excess h)
  obtain ⟨m', k, hcanonical, hshift, hvalue⟩ :=
    exists_shiftToTarget (rounded_excess_pos hpos) (rounded_excess_le _) hleading
  refine ⟨m', k, hcanonical, ?_, hvalue⟩
  simp only [UnpackedFloat.roundWithAccuracy, shiftToTarget_eq hm hj, hfirst, hshift,
    hcanonical.positive.ne', ↓reduceDIte]

theorem exists_round {m : Nat} (hm : 0 < m) (j : Nat) :
    ∃ m' k, ∃ h : Canonical m' k,
      UnpackedFloat.round .binary32 .positive m ((j : Int) - 149) =
        .finite .positive m' ((k : Int) - 149) h.positive ∧
      m' * 2 ^ k = roundOff (m * 2 ^ j) := by
  obtain ⟨i, hi⟩ : ∃ i, i = j - excess (m * 2 ^ j) := ⟨_, rfl⟩
  have hvalue : m * 2 ^ i * 2 ^ (j - i) = m * 2 ^ j := by
    rw [Nat.mul_assoc, ← Nat.pow_add, Nat.add_sub_cancel' (by omega)]
  obtain ⟨m', k, hcanonical, hround, hunits⟩ :=
    exists_roundWithAccuracy (Nat.mul_pos hm (Nat.two_pow_pos i)) (j := j - i) (by
      rw [hvalue]
      omega)
  rw [hvalue] at hunits
  refine ⟨m', k, hcanonical, ?_, hunits⟩
  have hamount : ((j : Int) - 149 - ((excess (m * 2 ^ j) : Int) - 149)).toNat = i := by omega
  have hexponent : (j : Int) - 149 - i = ((j - i : Nat) : Int) - 149 := by omega
  rw [UnpackedFloat.round, target_eq hm, UnpackedFloat.decreaseExponent, hamount, Nat.shiftLeft_eq,
    hexponent]
  exact hround

end Diorama.Grid
