import Diorama.Number.Height
import Diorama.Proofs.Number.Ceiling

open Float.Model (UnpackedFloat Format)
open Float.Model.UnpackedFloat (Sign)

namespace Diorama

namespace Grid

-- Numbers of one sign stand in the order of their bit patterns.
theorem Canonical.compare_steps {m k m' k' : Nat} (h : Canonical m k) (h' : Canonical m' k') :
    (compare ((k : Int) - 149) ((k' : Int) - 149)).then (compare m m') =
      compare (k * 2 ^ 23 + m) (k' * 2 ^ 23 + m') := by
  have hbelow := h.below
  have hbelow' := h'.below
  have hleading := h.leading
  have hleading' := h'.leading
  rcases Nat.lt_trichotomy k k' with hlt | rfl | hgt
  · have hless : k * 2 ^ 23 + m < k' * 2 ^ 23 + m' := by omega
    rw [compare_lt_iff_lt.mpr hless, compare_lt_iff_lt.mpr (by omega)]
    rfl
  · have hsame : compare (k * 2 ^ 23 + m) (k * 2 ^ 23 + m') = compare m m' := by
      rcases Nat.lt_trichotomy m m' with hm | rfl | hm
      · have hless : k * 2 ^ 23 + m < k * 2 ^ 23 + m' := by omega
        rw [compare_lt_iff_lt.mpr hless, compare_lt_iff_lt.mpr hm]
      · rw [compare_eq_iff_eq.mpr rfl, compare_eq_iff_eq.mpr rfl]
      · have hless : k * 2 ^ 23 + m' < k * 2 ^ 23 + m := by omega
        rw [compare_gt_iff_gt.mpr hless, compare_gt_iff_gt.mpr hm]
    rw [compare_eq_iff_eq.mpr rfl, hsame]
    rfl
  · have hless : k' * 2 ^ 23 + m' < k * 2 ^ 23 + m := by omega
    rw [compare_gt_iff_gt.mpr hless, compare_gt_iff_gt.mpr (by omega)]
    rfl

-- The sign of a number, and how many numbers of its sign are nearer to zero.
inductive Counts : UnpackedFloat → Sign → Nat → Prop where
  | zero (s : Sign) : Counts (.zero s) s 0
  | finite (s : Sign) {m k : Nat} (h : Canonical m k) (hk : k ≤ 253) :
      Counts (.finite s m ((k : Int) - 149) h.positive) s (k * 2 ^ 23 + m)
  | infinity (s : Sign) : Counts (.infinity s) s (255 * 2 ^ 23)

-- The place of a number on either side of zero.
def signed : Sign → Nat → Int
  | .positive, n => n
  | .negative, n => -n

theorem compare_signed (s : Sign) (n n' : Nat) : compare (signed s n) (signed s n') =
    match s with
    | .positive => compare n n'
    | .negative => (compare n n').swap := by
  rw [← cmp_eq_compare, ← cmp_eq_compare]
  cases s with
  | positive => exact Int.natCast_strictMono.cmp_map_eq n n'
  | negative =>
      have hfalling : StrictAnti (signed .negative) := fun a b hlt => by
        simp only [signed]
        omega
      rw [hfalling.cmp_map_eq, ← cmp_swap]

-- The same, but with two zeros, one below the other.
def mirrored : Sign → Nat → Int
  | .positive, n => n
  | .negative, n => -1 - n

theorem mirrored_lt_iff {s s' : Sign} {n n' : Nat} :
    mirrored s n < mirrored s' n' ↔
      signed s n < signed s' n' ∨ mirrored s n = -1 ∧ mirrored s' n' = 0 := by
  cases s <;> cases s' <;> simp only [mirrored, signed] <;> omega

-- Of two numbers that are not as far from zero as each other the farther one decides.
def outer : Sign → Ordering
  | .positive => .lt
  | .negative => .gt

theorem compare_signed_of_lt {n n' : Nat} (h : n < n') (s s' : Sign) :
    compare (signed s n) (signed s' n') = outer s' := by
  cases s' with
  | positive =>
      refine compare_lt_iff_lt.mpr ?_
      cases s <;> simp only [signed] <;> omega
  | negative =>
      refine compare_gt_iff_gt.mpr ?_
      cases s <;> simp only [signed] <;> omega

theorem compare_signed_swap (s s' : Sign) (n n' : Nat) :
    compare (signed s' n') (signed s n) = (compare (signed s n) (signed s' n')).swap :=
  Std.OrientedOrd.eq_swap

theorem Counts.compare_eq {a b : UnpackedFloat} {s s' : Sign} {n n' : Nat} (ha : Counts a s n)
    (hb : Counts b s' n') : a.compare b = some (compare (signed s n) (signed s' n')) := by
  cases ha with
  | zero => cases hb with
      | zero => cases s <;> cases s' <;> rfl
      | finite _ h hk =>
          have hpos := h.positive
          rw [compare_signed_of_lt (by omega)]
          cases s' <;> rfl
      | infinity => cases s <;> cases s' <;> rfl
  | finite _ h hk =>
      have hpos := h.positive
      have hbelow := h.below
      cases hb with
      | zero =>
          rw [compare_signed_swap, compare_signed_of_lt (by omega)]
          cases s <;> rfl
      | finite _ h' hk' =>
          have hpos' := h'.positive
          have hsteps := h.compare_steps h'
          cases s with
          | positive => cases s' with
              | positive =>
                  rw [compare_signed, ← hsteps]
                  rfl
              | negative =>
                  rw [compare_gt_iff_gt.mpr (by simp only [signed]; omega)]
                  rfl
          | negative => cases s' with
              | positive =>
                  rw [compare_lt_iff_lt.mpr (by simp only [signed]; omega)]
                  rfl
              | negative =>
                  rw [compare_signed, ← hsteps]
                  rfl
      | infinity =>
          rw [compare_signed_of_lt (by omega)]
          cases s <;> cases s' <;> rfl
  | infinity => cases hb with
      | zero => cases s <;> cases s' <;> rfl
      | finite _ h' hk' =>
          have hbelow := h'.below
          rw [compare_signed_swap, compare_signed_of_lt (by omega)]
          cases s <;> cases s' <;> rfl
      | infinity => cases s <;> cases s' <;> rfl

-- A number in its bits: the sign, and then its place among the numbers of the sign.
theorem counts_unpack {bits : BitVec Format.binary32.numBits}
    (hnumber : (UnpackedFloat.unpack .binary32 bits).isNaN = false) :
    Counts (UnpackedFloat.unpack .binary32 bits) (Sign.ofBitVec (UnpackedFloat.unpackSign bits))
      (bits.toNat % 2 ^ 31) := by
  have hfraction := Binary.toNat_unpackMantissa bits
  have hfield := Binary.toNat_unpackExponent bits
  have hplace : bits.toNat % 2 ^ 31 = (UnpackedFloat.unpackExponent bits).toNat * 2 ^ 23 +
      (UnpackedFloat.unpackMantissa bits).toNat := by omega
  rw [hplace]
  clear hplace
  rw [UnpackedFloat.unpack] at hnumber ⊢
  split_ifs at hnumber ⊢ with htop hnone hlow hzero
  · rw [htop, hnone]
    exact .infinity _
  · cases hnumber
  · rw [hlow, hzero]
    exact .zero _
  · have hcounts := Counts.finite (Sign.ofBitVec (UnpackedFloat.unpackSign bits))
      (canonical_subnormal hzero) (by decide)
    rw [hlow]
    exact hcounts
  · obtain ⟨k, hk, hcanonical, hle⟩ := canonical_normal htop hlow
    have hexponent : ((UnpackedFloat.unpackExponent bits).toNat : Int) -
        (Format.binary32.exponentBias + Format.binary32.mantissaBitsWithoutImplicit) =
          (k : Int) - 149 := by
      change _ - ((127 : Int) + 23) = _
      omega
    have hplace : (UnpackedFloat.unpackExponent bits).toNat * 2 ^ 23 +
        (UnpackedFloat.unpackMantissa bits).toNat =
          k * 2 ^ 23 + (1#1 ++ UnpackedFloat.unpackMantissa bits).toNat := by
      rw [toNat_leading, hk]
      omega
    rw [hplace, finite_congr _ hcanonical.positive rfl hexponent]
    exact .finite _ hcanonical hle

end Grid

theorem Grid.Counts.le_infinity {a : UnpackedFloat} {s : Sign} {n : Nat} (h : Counts a s n) :
    n ≤ 255 * 2 ^ 23 := by
  cases h with
  | zero => exact Nat.zero_le _
  | finite _ h hk =>
      have hbelow := h.below
      omega
  | infinity => exact le_rfl

namespace Scalar

-- The leading bit of a number.
def leadingSign (x : Float32) : Sign :=
  Sign.ofBitVec (@UnpackedFloat.unpackSign .binary32 x.toModel.toBits.toBitVec)

theorem leadingSign_eq (x : Float32) :
    (leadingSign x == .negative) = (x.toBits.toNat / 2 ^ 23 / 2 ^ 8 % 2 == 1) :=
  Binary.ofBitVec_unpackSign x.toModel.toBits.toBitVec

theorem counts_place {x : Float32} (h : x.isNaN = false) :
    Grid.Counts x.toModel.unpack (leadingSign x) (x.toBits.toNat % 2 ^ 31) :=
  Grid.counts_unpack h

-- What is no number has one bit pattern.
theorem isNaN_iff_toBits (x : Float32) : x.isNaN = true ↔ x.toBits = Binary.quietBits := by
  refine (UnpackedFloat.isNaN_unpack_iff_of_valid x.toModel.valid (by decide)).trans ?_
  exact UInt32.toBitVec_inj

end Scalar

namespace Height

open Scalar (leadingSign counts_place isNaN_iff_toBits)

theorem areNumber_eq_false_iff (bits : UInt32) :
    Binary.areNumber bits = false ↔ 255 * 2 ^ 23 < bits.toNat % 2 ^ 31 := by
  rw [Binary.areNumber, Nat.pow_eq, Nat.pow_eq, decide_eq_false_iff_not, not_le]

-- Whether there is a number can be seen from the bits.
theorem isNaN_number_iff (h : Height) :
    h.number.isNaN = true ↔ 255 * 2 ^ 23 < h.bits.toNat % 2 ^ 31 := by
  rcases h.agrees with hbits | ⟨hnone, hquiet⟩
  · constructor
    · intro hnan
      rw [hbits, (isNaN_iff_toBits _).mp hnan]
      decide
    · intro hplace
      by_contra hnumber
      have hle := (counts_place (Bool.eq_false_iff.mpr hnumber)).le_infinity
      rw [hbits] at hplace
      omega
  · exact iff_of_true ((isNaN_iff_toBits _).mpr hquiet) ((areNumber_eq_false_iff _).mp hnone)

theorem bits_eq {h : Height} (hnumber : h.number.isNaN = false) : h.bits = h.number.toBits := by
  rcases h.agrees with hbits | ⟨-, hquiet⟩
  · exact hbits
  · exact absurd ((isNaN_iff_toBits _).mpr hquiet) (Bool.eq_false_iff.mp hnumber)

-- The bits say it all.
theorem ext_bits {a b : Height} (h : a.bits = b.bits) : a = b := by
  have hnan : a.number.isNaN = true ↔ b.number.isNaN = true := by
    rw [isNaN_number_iff, isNaN_number_iff, h]
  have hnumbers : a.number = b.number := by
    apply Float32.toBits_inj.mp
    by_cases ha : a.number.isNaN = true
    · rw [(isNaN_iff_toBits _).mp ha, (isNaN_iff_toBits _).mp (hnan.mp ha)]
    · rw [← bits_eq (Bool.eq_false_iff.mpr ha), h, bits_eq (Bool.eq_false_iff.mpr (hnan.not.mp ha))]
  obtain ⟨number, bits, agrees⟩ := a
  obtain ⟨number', bits', agrees'⟩ := b
  cases hnumbers
  cases h
  rfl

theorem key_eq (h : Height) : h.key =
    if h.bits.toNat < 2 ^ 31 then (h.bits.toNat : Int) else 2 ^ 31 - 1 - h.bits.toNat := by
  unfold key
  simp only
  rw [Nat.pow_eq, Int.pow_eq, if_congr Int.ofNat_lt rfl rfl]

theorem key_injective {a b : Height} (h : a.key = b.key) : a = b := by
  have ha := a.bits.toNat_lt
  have hb := b.bits.toNat_lt
  rw [key_eq, key_eq] at h
  apply ext_bits
  apply UInt32.toNat_inj.mp
  split_ifs at h <;> omega

theorem key_eq_mirrored {h : Height} (hnumber : h.number.isNaN = false) :
    h.key = Grid.mirrored (leadingSign h.number) (h.number.toBits.toNat % 2 ^ 31) := by
  have hbits := h.number.toBits.toNat_lt
  have hsign := Scalar.leadingSign_eq h.number
  rw [key_eq, bits_eq hnumber]
  cases hs : leadingSign h.number with
  | positive =>
      rw [hs] at hsign
      have hbit := beq_eq_false_iff_ne.mp hsign.symm
      simp only [Grid.mirrored]
      split <;> omega
  | negative =>
      rw [hs] at hsign
      have hbit := beq_iff_eq.mp hsign.symm
      simp only [Grid.mirrored]
      split <;> omega

-- Where heights stand that are no numbers: with the sign bit below all numbers, and else above.
def side (h : Height) : Int :=
  if h.number.isNaN then if 2 ^ 31 ≤ h.bits.toNat then -1 else 1 else 0

def fraction (h : Height) : Nat := h.bits.toNat % 2 ^ 23

-- The total order of heights. Numbers lie by what they are, the negative zero below the other one;
-- what is no number lies by its fraction, and with the sign bit the other way round.
inductive TotalLt (a b : Height) : Prop where
  | side (h : a.side < b.side)
  | number (ha : a.side = 0) (hb : b.side = 0) (h : a.number < b.number)
  | zeros (ha : a.number = -0) (hb : b.number = 0)
  | above (ha : a.side = 1) (hb : b.side = 1) (h : a.fraction < b.fraction)
  | below (ha : a.side = -1) (hb : b.side = -1) (h : b.fraction < a.fraction)

-- Each side has keys of its own, and on the outer ones they are fractions.
theorem key_side (h : Height) :
    (h.side = 0 ∧ h.number.isNaN = false ∧ -1 - 255 * 2 ^ 23 ≤ h.key ∧ h.key ≤ 255 * 2 ^ 23) ∨
      (h.side = 1 ∧ h.key = 255 * 2 ^ 23 + h.fraction ∧ 0 < h.fraction) ∨
      (h.side = -1 ∧ h.key = -1 - 255 * 2 ^ 23 - h.fraction ∧ 0 < h.fraction) := by
  have hbits := h.bits.toNat_lt
  have hkey := h.key_eq
  have hplace := h.isNaN_number_iff
  simp only [side, fraction]
  cases hnan : h.number.isNaN with
  | true =>
      rw [hnan, eq_self_iff_true, true_iff] at hplace
      by_cases hsign : 2 ^ 31 ≤ h.bits.toNat
      · rw [if_neg (by omega)] at hkey
        refine .inr (.inr ⟨by rw [if_pos rfl, if_pos hsign], ?_, ?_⟩) <;> omega
      · rw [if_pos (by omega)] at hkey
        refine .inr (.inl ⟨by rw [if_pos rfl, if_neg hsign], ?_, ?_⟩) <;> omega
  | false =>
      have hle : ¬255 * 2 ^ 23 < h.bits.toNat % 2 ^ 31 := fun hlt =>
        Bool.false_ne_true (hnan.symm.trans (hplace.mpr hlt))
      refine .inl ⟨by simp, rfl, ?_⟩
      split at hkey <;> omega

theorem side_eq_zero_iff {h : Height} : h.side = 0 ↔ h.number.isNaN = false := by
  rw [side]
  cases h.number.isNaN with
  | true =>
      rw [if_pos rfl]
      split <;> simp
  | false => simp

-- A number has a key of its own.
theorem key_eq_ofNumber_iff {h : Height} (hnumber : h.number.isNaN = false) (x : Float32) :
    h.key = (ofNumber x).key ↔ h.number = x := by
  constructor
  · intro hkey
    rw [key_injective hkey, ofNumber]
  · rintro rfl
    exact congrArg key (ext_bits (bits_eq hnumber))

-- Numbers lie by what they are.
theorem key_lt_of_isNaN_eq_false {a b : Height} (ha : a.number.isNaN = false)
    (hb : b.number.isNaN = false) :
    a.key < b.key ↔ a.number < b.number ∨ a.number = -0 ∧ b.number = 0 := by
  have hlt : a.number < b.number ↔
      a.number.toModel.unpack.compare b.number.toModel.unpack = some .lt := by
    rw [Scalar.lt_iff_compare, beq_iff_eq]
  have hzeros : (ofNumber (-0)).key = -1 ∧ (ofNumber 0).key = 0 := by
    rw [key_eq, key_eq]
    exact ⟨rfl, rfl⟩
  rw [hlt, ← key_eq_ofNumber_iff ha, ← key_eq_ofNumber_iff hb, hzeros.1, hzeros.2,
    key_eq_mirrored ha, key_eq_mirrored hb, Grid.mirrored_lt_iff,
    (counts_place ha).compare_eq (counts_place hb), Option.some.injEq, compare_lt_iff_lt]

theorem key_lt_iff {a b : Height} : a.key < b.key ↔ TotalLt a b := by
  have hsides := a.key_side
  have hsides' := b.key_side
  constructor
  · intro hlt
    rcases hsides with ⟨ha, hnumber, hrange⟩ | ⟨ha, hkey⟩ | ⟨ha, hkey⟩ <;>
      rcases hsides' with ⟨hb, hnumber', hrange'⟩ | ⟨hb, hkey'⟩ | ⟨hb, hkey'⟩
    · rcases (key_lt_of_isNaN_eq_false hnumber hnumber').mp hlt with h | ⟨h, h'⟩
      · exact .number ha hb h
      · exact .zeros h h'
    · exact .side (by omega)
    · omega
    · omega
    · exact .above ha hb (by omega)
    · omega
    · exact .side (by omega)
    · exact .side (by omega)
    · exact .below ha hb (by omega)
  · rintro (h | ⟨ha, hb, h⟩ | ⟨ha, hb⟩ | ⟨ha, hb, h⟩ | ⟨ha, hb, h⟩)
    · omega
    · have hnumber := side_eq_zero_iff.mp ha
      have hnumber' := side_eq_zero_iff.mp hb
      exact (key_lt_of_isNaN_eq_false hnumber hnumber').mpr (.inl h)
    · have hnumber : a.number.isNaN = false := by rw [ha]; rfl
      have hnumber' : b.number.isNaN = false := by rw [hb]; rfl
      exact (key_lt_of_isNaN_eq_false hnumber hnumber').mpr (.inr ⟨ha, hb⟩)
    · omega
    · omega

namespace TotalLt

variable {a b : Height}

theorem asymm (h : TotalLt a b) : ¬TotalLt b a := fun h' =>
  lt_asymm (key_lt_iff.mpr h) (key_lt_iff.mpr h')

theorem ne (h : TotalLt a b) : a ≠ b := fun heq =>
  (key_lt_iff.mpr h).ne (congrArg key heq)

end TotalLt

-- What has no place because two numbers have no product lies below all numbers.
theorem product_totalLt {x y : Float32} (hx : x.isNaN = false) (hy : y.isNaN = false)
    (hproduct : (x * y).isNaN = true) {h : Height} (hnumber : h.number.isNaN = false) :
    TotalLt (product x y) h := by
  have hbits : (product x y).bits = Binary.indefiniteBits := if_pos
    ⟨(isNaN_iff_toBits _).mp hproduct, (isNaN_iff_toBits x).not.mp (Bool.eq_false_iff.mp hx),
      (isNaN_iff_toBits y).not.mp (Bool.eq_false_iff.mp hy)⟩
  have hsign : 2 ^ 31 ≤ (product x y).bits.toNat := by
    rw [hbits]
    decide
  have hside : (product x y).side = -1 := (if_pos hproduct).trans (if_pos hsign)
  apply TotalLt.side
  rw [hside, side_eq_zero_iff.mpr hnumber]
  decide

end Height

end Diorama
