import Diorama.Proofs.Number.Addition

open Float.Model (UnpackedFloat Format)
open Float.Model.UnpackedFloat (Sign)

namespace Diorama

namespace Binary

-- The parts of a number that was unpacked from a single.
def ofUnpacked : UnpackedFloat → Binary
  | .notANumber => .nan
  | .infinity s => .infinite (s == .negative)
  | .zero s => .finite (s == .negative) 0 (-149)
  | .finite s m e _ => .finite (s == .negative) m e

theorem toNat_unpackMantissa (b : BitVec Format.binary32.numBits) :
    (UnpackedFloat.unpackMantissa b).toNat = b.toNat % 2 ^ 23 := by
  simp [UnpackedFloat.unpackMantissa, BitVec.extractLsb]

theorem toNat_unpackExponent (b : BitVec Format.binary32.numBits) :
    (UnpackedFloat.unpackExponent b).toNat = b.toNat / 2 ^ 23 % 2 ^ 8 := by
  simp [UnpackedFloat.unpackExponent, BitVec.extractLsb, Nat.shiftRight_eq_div_pow]

theorem ofBitVec_unpackSign (b : BitVec Format.binary32.numBits) :
    (Sign.ofBitVec (UnpackedFloat.unpackSign b) == .negative) =
      (b.toNat / 2 ^ 23 / 2 ^ 8 % 2 == 1) := by
  have hbit : (UnpackedFloat.unpackSign b).toNat = b.toNat / 2 ^ 23 / 2 ^ 8 % 2 := by
    simp [UnpackedFloat.unpackSign, BitVec.extractLsb, Nat.shiftRight_eq_div_pow,
      Nat.div_div_eq_div_mul]
  rw [← hbit, Sign.ofBitVec]
  have hcases : UnpackedFloat.unpackSign b = 0#1 ∨ UnpackedFloat.unpackSign b = 1#1 := by
    rcases Nat.mod_two_eq_zero_or_one (b.toNat / 2 ^ 23 / 2 ^ 8) with h | h
    · exact .inl (BitVec.eq_of_toNat_eq (hbit.trans h))
    · exact .inr (BitVec.eq_of_toNat_eq (hbit.trans h))
  rcases hcases with h | h <;> rw [h] <;> rfl

theorem ofBits_single (b : BitVec Format.binary32.numBits) :
    ofBits single b.toNat = ofUnpacked (UnpackedFloat.unpack .binary32 b) := by
  have hfraction := toNat_unpackMantissa b
  have hfield := toNat_unpackExponent b
  have hnone : UnpackedFloat.unpackMantissa b = 0#23 ↔ b.toNat % 2 ^ 23 = 0 := by
    rw [← hfraction, ← BitVec.toNat_inj]
    rfl
  have htop : UnpackedFloat.unpackExponent b = -1#8 ↔ b.toNat / 2 ^ 23 % 2 ^ 8 = 255 := by
    rw [← hfield, ← BitVec.toNat_inj]
    rfl
  have hlow : UnpackedFloat.unpackExponent b = 0#8 ↔ b.toNat / 2 ^ 23 % 2 ^ 8 = 0 := by
    rw [← hfield, ← BitVec.toNat_inj]
    rfl
  have hsingle : ofBits single b.toNat =
      if b.toNat / 2 ^ 23 % 2 ^ 8 = 255 then
        if b.toNat % 2 ^ 23 = 0 then .infinite (b.toNat / 2 ^ 23 / 2 ^ 8 % 2 == 1) else .nan
      else if b.toNat / 2 ^ 23 % 2 ^ 8 = 0 then
        .finite (b.toNat / 2 ^ 23 / 2 ^ 8 % 2 == 1) (b.toNat % 2 ^ 23) (-149)
      else .finite (b.toNat / 2 ^ 23 / 2 ^ 8 % 2 == 1) (2 ^ 23 + b.toNat % 2 ^ 23)
        (-149 + (b.toNat / 2 ^ 23 % 2 ^ 8 - 1 : Nat)) := rfl
  rw [hsingle, ← ofBitVec_unpackSign, UnpackedFloat.unpack]
  simp only [htop, hlow, hnone]
  by_cases hinfinite : b.toNat / 2 ^ 23 % 2 ^ 8 = 255
  · rw [if_pos hinfinite, if_pos hinfinite]
    split <;> rfl
  rw [if_neg hinfinite, if_neg hinfinite]
  by_cases hsubnormal : b.toNat / 2 ^ 23 % 2 ^ 8 = 0
  · rw [if_pos hsubnormal, if_pos hsubnormal]
    split
    · rename_i hzero
      rw [hzero]
      rfl
    · rw [ofUnpacked, hfraction, hfield, hsubnormal]
      rfl
  · rw [if_neg hsubnormal, if_neg hsubnormal, ofUnpacked, Grid.toNat_leading, hfraction, hfield]
    congr 1
    change (-149 : Int) + _ = _ - (127 + 23)
    omega

theorem ofSingle_eq (x : Float32) : ofSingle x = ofUnpacked x.toModel.unpack :=
  ofBits_single x.toModel.toBits.toBitVec

-- A quotient that is rounded up stays what it is when both sides are taken so many times.
theorem div_up_mul (m : Nat) {c d : Nat} (hc : 0 < c) (hd : 0 < d) :
    (m * c + (c * d - 1)) / (c * d) = (m + (d - 1)) / d := by
  have hlast : c * d = c * (d - 1) + c := by
    rw [← Nat.mul_succ, Nat.succ_eq_add_one, Nat.sub_add_cancel hd]
  have hsplit : m * c + (c * d - 1) = c * (m + (d - 1)) + (c - 1) := by
    rw [Nat.mul_add, Nat.mul_comm m]
    omega
  have hrest : (c - 1) / c = 0 := Nat.div_eq_of_lt (by omega)
  rw [hsplit, ← Nat.div_div_eq_div_mul, Nat.mul_add_div hc, hrest, Nat.add_zero]

-- Rounding up, in the least units of the format.
theorem wholeMagnitude_up (m k : Nat) :
    wholeMagnitude .up false m ((k : Int) - 149) = (m * 2 ^ k + (2 ^ 149 - 1)) / 2 ^ 149 := by
  rcases Nat.lt_or_ge k 149 with hk | hk
  · obtain ⟨j, hj⟩ := Nat.exists_eq_add_of_lt hk
    have hexponent : (k : Int) - 149 = Int.negSucc j := by omega
    have hpow : 2 ^ 149 = 2 ^ k * 2 ^ (j + 1) := by rw [← Nat.pow_add, hj, Nat.add_assoc]
    rw [hexponent, hpow, div_up_mul m (Nat.two_pow_pos k) (Nat.two_pow_pos (j + 1))]
    rfl
  · obtain ⟨j, rfl⟩ := Nat.exists_eq_add_of_le hk
    have hexponent : ((149 + j : Nat) : Int) - 149 = Int.ofNat j := by
      rw [Int.ofNat_eq_natCast]
      omega
    rw [hexponent, Nat.pow_add, Nat.mul_left_comm, Nat.mul_add_div (by decide)]
    rfl

end Binary

namespace Grid

-- Below a power of two there is a gap of one unit of the last of 24 digits.
theorem Amounts.le_of_lt {a : UnpackedFloat} {n : Nat} (h : Amounts a n) {j : Nat} (hj : j ≤ 253)
    (hlt : n < 2 ^ 24 * 2 ^ j) : n ≤ (2 ^ 24 - 1) * 2 ^ j := by
  cases h with
  | zero s => exact Nat.zero_le _
  | @finite m k h hk =>
      have hkj : k ≤ j := by
        by_contra hgt
        exact absurd hlt (h.two_pow_le (by omega)).not_gt
      have hm : m ≤ 2 ^ 24 - 1 := by have := h.below; omega
      exact Nat.mul_le_mul hm (Nat.pow_le_pow_right (by decide) hkj)
  | infinity =>
      have hbeyond : 2 ^ 24 * 2 ^ j ≤ beyond :=
        Nat.mul_le_mul_left _ (Nat.pow_le_pow_right (by decide) hj)
      exact absurd hlt hbeyond.not_gt

end Grid

namespace Scalar

open Grid (Amounts beyond)

-- The least whole number that a number does not exceed, and zero for what is below zero or no
-- number.
def wholeUp (x : Float32) : Nat := if 0 ≤ x then (units x + (2 ^ 149 - 1)) / 2 ^ 149 else 0

variable {x : Float32}

-- What is not at least zero is below zero or no number.
theorem nonneg_or (x : Float32) :
    0 ≤ x ∨ x.toModel.unpack = .notANumber ∨ x.toModel.unpack = .infinity .negative ∨
      ∃ m e, ∃ hm : 0 < m, x.toModel.unpack = .finite .negative m e hm := by
  cases hx : x.toModel.unpack with
  | notANumber => exact .inr (.inl rfl)
  | zero s => exact .inl (nonneg_of_amounts (n := 0) (hx ▸ .zero s))
  | infinity s => cases s with
      | negative => exact .inr (.inr (.inl rfl))
      | positive => exact .inl (nonneg_of_amounts (n := beyond) (hx ▸ .infinity))
  | finite s m e hm => cases s with
      | negative => exact .inr (.inr (.inr ⟨m, e, hm, rfl⟩))
      | positive =>
          obtain ⟨k, rfl, hcanonical, hk⟩ := Grid.exists_canonical hx
          exact .inl (nonneg_of_amounts (n := m * 2 ^ k) (hx ▸ .finite hcanonical hk))

theorem units_two_pow_64 : units 18446744073709551616 = 2 ^ 24 * 2 ^ 189 := by decide +kernel

-- No single lies between the greatest whole number of 64 digits and the next power of two.
theorem le_wholeUp_iff (x : Float32) : 2 ^ 64 - 1 ≤ wholeUp x ↔ 18446744073709551616 ≤ x := by
  have hbig : (0 : Float32) ≤ 18446744073709551616 := by decide +kernel
  rw [wholeUp]
  split_ifs with hx
  · have hamounts := amounts_units hx
    rw [le_iff_units hbig hx, units_two_pow_64]
    constructor
    · intro hle
      by_contra hlt
      have hgap := hamounts.le_of_lt (j := 189) (by decide) (by omega)
      omega
    · intro hle
      omega
  · refine iff_of_false (by omega) fun hle => hx (nonneg_of_le hbig hle)

end Scalar

namespace Binary

open Grid (Amounts beyond)
open Scalar (units wholeUp)

-- Rounding up to a whole number between zero and a bound is exact up to the bound.
theorem toInt_up_ofSingle (x : Float32) {hi : Nat} (hhi : hi ≤ 2 ^ 128) :
    (ofSingle x).toInt .up 0 hi = (min hi (wholeUp x) : Nat) := by
  rw [ofSingle_eq, wholeUp]
  split_ifs with hx
  · have hamounts := Scalar.amounts_units hx
    generalize units x = n at hamounts
    generalize x.toModel.unpack = a at hamounts
    cases hamounts with
    | zero s => cases s <;> simp [ofUnpacked, toInt, clampInt, wholeMagnitude]
    | @finite m k h hk =>
        change clampInt 0 hi (wholeMagnitude .up false m ((k : Int) - 149) : Nat) = _
        rw [wholeMagnitude_up, clampInt]
        generalize (m * 2 ^ k + (2 ^ 149 - 1)) / 2 ^ 149 = whole
        omega
    | infinity =>
        have hwhole : hi ≤ (beyond + (2 ^ 149 - 1)) / 2 ^ 149 := by
          rw [beyond]
          omega
        rw [min_eq_left hwhole]
        rfl
  · rcases (Scalar.nonneg_or x).resolve_left hx with h | h | ⟨m, e, hm, h⟩
    · simp [h, ofUnpacked, toInt]
    · simp [h, ofUnpacked, toInt]
    · simp [h, ofUnpacked, toInt, clampInt]

end Binary

end Diorama
