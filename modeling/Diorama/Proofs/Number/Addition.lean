import Mathlib
import Diorama.Proofs.Number.Comparison
import Diorama.Proofs.Number.Rounding

open Float.Model (UnpackedFloat Format)
open Float.Model.UnpackedFloat (Sign)

namespace Diorama

namespace Grid

-- Infinity counts as the first power of two that no exponent is left for.
def beyond : Nat := 2 ^ 24 * 2 ^ 253

-- How many of the least units a number has that is not negative.
inductive Amounts : UnpackedFloat → Nat → Prop where
  | zero (s : Sign) : Amounts (.zero s) 0
  | finite {m k : Nat} (h : Canonical m k) (hk : k ≤ 253) :
      Amounts (.finite .positive m ((k : Int) - 149) h.positive) (m * 2 ^ k)
  | infinity : Amounts (.infinity .positive) beyond

namespace Canonical

variable {m k m' k' : Nat}

theorem pos (h : Canonical m k) : 0 < m * 2 ^ k := Nat.mul_pos h.positive (Nat.two_pow_pos k)

theorem lt_two_pow (h : Canonical m k) : m * 2 ^ k < 2 ^ 24 * 2 ^ k :=
  Nat.mul_lt_mul_of_pos_right h.below (Nat.two_pow_pos k)

theorem two_pow_le (h : Canonical m k) {j : Nat} (hj : j < k) : 2 ^ 24 * 2 ^ j ≤ m * 2 ^ k := by
  have hm : 2 ^ 23 ≤ m := h.leading.resolve_left (by omega)
  calc 2 ^ 24 * 2 ^ j = 2 ^ 23 * 2 ^ (j + 1) := by ring
    _ ≤ m * 2 ^ k := Nat.mul_le_mul hm (Nat.pow_le_pow_right (by decide) hj)

theorem lt_beyond (h : Canonical m k) (hk : k ≤ 253) : m * 2 ^ k < beyond :=
  h.lt_two_pow.trans_le (Nat.mul_le_mul_left _ (Nat.pow_le_pow_right (by decide) hk))

-- Numbers are compared by the exponent first.
theorem compare_eq (h : Canonical m k) (h' : Canonical m' k') :
    (compare ((k : Int) - 149) ((k' : Int) - 149)).then (compare m m') =
      compare (m * 2 ^ k) (m' * 2 ^ k') := by
  rcases Nat.lt_trichotomy k k' with hlt | rfl | hgt
  · have hless := h.lt_two_pow.trans_le (h'.two_pow_le hlt)
    rw [compare_lt_iff_lt.mpr hless, compare_lt_iff_lt.mpr (by omega)]
    rfl
  · have hsame : compare (m * 2 ^ k) (m' * 2 ^ k) = compare m m' := by
      rcases Nat.lt_trichotomy m m' with hm | rfl | hm
      · have hless := Nat.mul_lt_mul_of_pos_right hm (Nat.two_pow_pos k)
        rw [compare_lt_iff_lt.mpr hless, compare_lt_iff_lt.mpr hm]
      · rw [compare_eq_iff_eq.mpr rfl, compare_eq_iff_eq.mpr rfl]
      · have hless := Nat.mul_lt_mul_of_pos_right hm (Nat.two_pow_pos k)
        rw [compare_gt_iff_gt.mpr hless, compare_gt_iff_gt.mpr hm]
    rw [compare_eq_iff_eq.mpr rfl, hsame]
    rfl
  · have hless := h'.lt_two_pow.trans_le (h.two_pow_le hgt)
    rw [compare_gt_iff_gt.mpr hless, compare_gt_iff_gt.mpr (by omega)]
    rfl

end Canonical

theorem Amounts.compare_eq {a b : UnpackedFloat} {n n' : Nat} (ha : Amounts a n)
    (hb : Amounts b n') : a.compare b = some (compare n n') := by
  cases ha with
  | zero s => cases hb with
      | zero s => rfl
      | finite h hk =>
          rw [compare_lt_iff_lt.mpr h.pos]
          rfl
      | infinity => rfl
  | finite h hk => cases hb with
      | zero s =>
          rw [compare_gt_iff_gt.mpr h.pos]
          rfl
      | finite h' hk' => exact congrArg some (h.compare_eq h')
      | infinity =>
          rw [compare_lt_iff_lt.mpr (h.lt_beyond hk)]
          rfl
  | infinity => cases hb with
      | zero s => rfl
      | finite h hk =>
          rw [compare_gt_iff_gt.mpr (h.lt_beyond hk)]
          rfl
      | infinity =>
          rw [compare_eq_iff_eq.mpr rfl]
          rfl

-- A sign is unpacked as it was packed.
theorem unpackSign_packComponents {spec : Format} (s : Sign) (e m) :
    UnpackedFloat.unpackSign (UnpackedFloat.packComponents spec s e m) = s.toBitVec := by
  ext i hi
  obtain rfl : i = 0 := by omega
  simp [UnpackedFloat.unpackSign, UnpackedFloat.packComponents, BitVec.getLsbD_append,
    BitVec.getElem_append]

-- The leading digit of a mantissa is not stored.
theorem toNat_leading (fraction : BitVec 23) :
    (1#1 ++ fraction).toNat = 2 ^ 23 + fraction.toNat := by
  rw [BitVec.toNat_append, Nat.shiftLeft_eq, BitVec.toNat_ofNat, Nat.mod_eq_of_lt (by decide),
    Nat.mul_comm, ← Nat.two_pow_add_eq_or_of_lt fraction.isLt, Nat.mul_one]

theorem canonical_subnormal {bits : BitVec Format.binary32.numBits}
    (hzero : ¬UnpackedFloat.unpackMantissa bits = 0#23) :
    Canonical (UnpackedFloat.unpackMantissa bits).toNat 0 := by
  have hfraction : (UnpackedFloat.unpackMantissa bits).toNat < 2 ^ 23 :=
    (UnpackedFloat.unpackMantissa bits).isLt
  exact ⟨Nat.pos_of_ne_zero fun h0 => hzero (BitVec.eq_of_toNat_eq h0), by omega, .inl rfl⟩

theorem canonical_normal {bits : BitVec Format.binary32.numBits}
    (htop : ¬UnpackedFloat.unpackExponent bits = -1#8)
    (hlow : ¬UnpackedFloat.unpackExponent bits = 0#8) :
    ∃ k : Nat, (UnpackedFloat.unpackExponent bits).toNat = k + 1 ∧
      Canonical (1#1 ++ UnpackedFloat.unpackMantissa bits).toNat k ∧ k ≤ 253 := by
  have hfraction : (UnpackedFloat.unpackMantissa bits).toNat < 2 ^ 23 :=
    (UnpackedFloat.unpackMantissa bits).isLt
  have hfield : (UnpackedFloat.unpackExponent bits).toNat < 2 ^ 8 :=
    (UnpackedFloat.unpackExponent bits).isLt
  have hpos : (UnpackedFloat.unpackExponent bits).toNat ≠ 0 := fun h0 =>
    hlow (BitVec.eq_of_toNat_eq h0)
  have hlt : (UnpackedFloat.unpackExponent bits).toNat ≠ 255 := fun h255 =>
    htop (BitVec.eq_of_toNat_eq h255)
  obtain ⟨k, hk⟩ := Nat.exists_eq_add_one_of_ne_zero hpos
  refine ⟨k, hk, ?_, by omega⟩
  rw [toNat_leading]
  exact ⟨by omega, by omega, .inr (by omega)⟩

-- What is unpacked fits the format.
theorem exists_canonical {bits : BitVec Format.binary32.numBits} {s : Sign} {m : Nat} {e : Int}
    {hm : 0 < m} (h : UnpackedFloat.unpack .binary32 bits = .finite s m e hm) :
    ∃ k : Nat, e = (k : Int) - 149 ∧ Canonical m k ∧ k ≤ 253 := by
  rw [UnpackedFloat.unpack] at h
  split_ifs at h with htop hnone hlow hzero
  · obtain ⟨-, rfl, rfl⟩ := UnpackedFloat.finite.inj h
    refine ⟨0, ?_, canonical_subnormal hzero, by decide⟩
    rw [hlow]
    rfl
  · obtain ⟨-, rfl, rfl⟩ := UnpackedFloat.finite.inj h
    obtain ⟨k, hfield, hcanonical, hk⟩ := canonical_normal htop hlow
    refine ⟨k, ?_, hcanonical, hk⟩
    change _ - ((127 : Int) + 23) = _
    omega

theorem finite_congr {s : Sign} {m m' : Nat} {e e' : Int} (hm : 0 < m) (hm' : 0 < m')
    (hmantissa : m = m') (hexponent : e = e') :
    UnpackedFloat.finite s m e hm = .finite s m' e' hm' := by
  subst hmantissa hexponent
  rfl

theorem pack_finite (s : Sign) {m : Nat} (hm : 0 < m) (k : Nat) :
    UnpackedFloat.pack .binary32 (.finite s m ((k : Int) - 149) hm) =
      if 254 ≤ k then UnpackedFloat.packedInfinity .binary32 s
      else if m.log2 = 23 then
        UnpackedFloat.packComponents .binary32 s (BitVec.ofNat 8 (k + 1)) (BitVec.ofNat 23 m)
      else UnpackedFloat.packComponents .binary32 s 0#8 (BitVec.ofNat 23 m) := by
  have hfield : ((k : Int) - 149 + (127 : Nat) + (23 : Nat)).toNat = k + 1 := by omega
  have htop : 2 ^ 8 ≤ k + 1 + 1 ↔ 254 ≤ k := by omega
  have hleading : m.log2 + 1 = 24 ↔ m.log2 = 23 := by omega
  have hbias : Format.binary32.exponentBias = 127 := rfl
  have hbits : Format.binary32.mantissaBits = 24 := rfl
  simp only [UnpackedFloat.pack, hbias, hbits, hfield, htop, hleading]

theorem unpack_packComponents (s : Sign) {field : BitVec 8} (htop : field ≠ -1#8)
    (fraction : BitVec 23) :
    UnpackedFloat.unpack .binary32 (UnpackedFloat.packComponents .binary32 s field fraction) =
      if field = 0#8 then
        if h : fraction = 0#23 then .zero s
        else .finite s fraction.toNat (-149)
          (by simpa [BitVec.toNat_pos, BitVec.pos_iff_ne_zero])
      else .finite s (1#1 ++ fraction).toNat ((field.toNat : Int) - 150)
          (by rw [toNat_leading]; omega) := by
  have hsign : Sign.ofBitVec s.toBitVec = s := by cases s <;> rfl
  simp only [UnpackedFloat.unpack, UnpackedFloat.unpackExponent_packComponents,
      UnpackedFloat.unpackMantissa_packComponents, unpackSign_packComponents, if_neg htop, hsign]
  split_ifs with hlow hzero
  · rfl
  · refine finite_congr _ _ rfl ?_
    rw [hlow]
    rfl
  · refine finite_congr _ _ rfl ?_
    change (field.toNat : Int) - (127 + 23) = _
    omega

-- What fits the format is unpacked as it was packed.
theorem Canonical.unpack_pack {m k : Nat} (h : Canonical m k) (hk : k ≤ 253) :
    UnpackedFloat.unpack .binary32
        (UnpackedFloat.pack .binary32 (.finite .positive m ((k : Int) - 149) h.positive)) =
      .finite .positive m ((k : Int) - 149) h.positive := by
  have hbelow := h.below
  have hnormal : m.log2 = 23 ↔ 2 ^ 23 ≤ m := by
    have hhigh : m.log2 < 24 := (Nat.log2_lt h.positive.ne').mpr h.below
    rw [← Nat.le_log2 h.positive.ne']
    omega
  rw [pack_finite, if_neg (by omega)]
  split_ifs with hm
  · have hfield : (BitVec.ofNat 8 (k + 1)).toNat = k + 1 := Nat.mod_eq_of_lt (by omega)
    have hpos : BitVec.ofNat 8 (k + 1) ≠ 0#8 := fun h0 => by
      have hnat := congrArg BitVec.toNat h0
      rw [hfield] at hnat
      exact Nat.succ_ne_zero k hnat
    have htop : BitVec.ofNat 8 (k + 1) ≠ -1#8 := fun h255 => by
      have hnat := congrArg BitVec.toNat h255
      rw [hfield] at hnat
      change k + 1 = 255 at hnat
      omega
    rw [unpack_packComponents _ htop, if_neg hpos]
    refine finite_congr _ _ ?_ ?_
    · rw [toNat_leading, BitVec.toNat_ofNat]
      omega
    · rw [hfield]
      omega
  · obtain rfl : k = 0 := h.leading.resolve_right (hnormal.not.mp hm)
    have hfraction : (BitVec.ofNat 23 m).toNat = m := Nat.mod_eq_of_lt (by omega)
    have hpos : BitVec.ofNat 23 m ≠ 0#23 := fun h0 => by
      have hnat := congrArg BitVec.toNat h0
      rw [hfraction] at hnat
      exact h.positive.ne' hnat
    rw [unpack_packComponents _ (by decide), if_pos rfl, dif_neg hpos]
    exact finite_congr _ _ hfraction rfl

-- A number after it was packed.
def repacked (a : UnpackedFloat) : UnpackedFloat :=
  UnpackedFloat.unpack .binary32 (UnpackedFloat.pack .binary32 a)

theorem unpack_add (x y : Float32) :
    (x + y).toModel.unpack =
      repacked (UnpackedFloat.add .binary32 x.toModel.unpack y.toModel.unpack) := rfl

theorem Canonical.amounts_repacked {m k : Nat} (h : Canonical m k) :
    Amounts (repacked (.finite .positive m ((k : Int) - 149) h.positive))
      (min (m * 2 ^ k) beyond) := by
  by_cases hk : k ≤ 253
  · rw [repacked, h.unpack_pack hk, Nat.min_eq_left (h.lt_beyond hk).le]
    exact .finite h hk
  · have hle : beyond ≤ m * 2 ^ k := h.two_pow_le (Nat.lt_of_not_le hk)
    rw [repacked, pack_finite, if_pos (by omega), Nat.min_eq_right hle]
    exact .infinity

theorem roundOff_beyond : roundOff beyond = beyond := by
  have hcanonical : Canonical (2 ^ 23) 254 := ⟨by decide, by decide, .inr le_rfl⟩
  have hvalue : 2 ^ 23 * 2 ^ 254 = beyond := by
    rw [beyond]
    ring
  rw [← hvalue, hcanonical.roundOff_eq]

-- Both mantissas are counted in the units of the lower exponent before they are added.
theorem exists_add {m k m' k' : Nat} (h : Canonical m k) (h' : Canonical m' k') :
    ∃ m'' j, ∃ h'' : Canonical m'' j,
      UnpackedFloat.add .binary32 (.finite .positive m ((k : Int) - 149) h.positive)
          (.finite .positive m' ((k' : Int) - 149) h'.positive) =
        .finite .positive m'' ((j : Int) - 149) h''.positive ∧
      m'' * 2 ^ j = roundOff (m * 2 ^ k + m' * 2 ^ k') := by
  obtain ⟨j, hj⟩ : ∃ j, j = min k k' := ⟨_, rfl⟩
  have hpos : 0 < m * 2 ^ (k - j) + m' * 2 ^ (k' - j) :=
    Nat.add_pos_left (Nat.mul_pos h.positive (Nat.two_pow_pos _)) _
  have hvalue : (m * 2 ^ (k - j) + m' * 2 ^ (k' - j)) * 2 ^ j = m * 2 ^ k + m' * 2 ^ k' := by
    rw [Nat.add_mul, Nat.mul_assoc, Nat.mul_assoc, ← Nat.pow_add, ← Nat.pow_add,
      Nat.sub_add_cancel (by omega), Nat.sub_add_cancel (by omega)]
  have hexponent : min ((k : Int) - 149) ((k' : Int) - 149) = (j : Int) - 149 := by omega
  have hshift : ((k : Int) - 149 - ((j : Int) - 149)).toNat = k - j := by omega
  have hshift' : ((k' : Int) - 149 - ((j : Int) - 149)).toNat = k' - j := by omega
  obtain ⟨m'', i, hcanonical, hround, hunits⟩ := exists_round hpos j
  rw [hvalue] at hunits
  refine ⟨m'', i, hcanonical, ?_, hunits⟩
  simp only [UnpackedFloat.add, UnpackedFloat.decreaseExponent, hexponent, hshift, hshift',
    Nat.shiftLeft_eq, Sign.apply, ← Int.natCast_add]
  rw [UnpackedFloat.normalize, compare_gt_iff_gt.mpr (Int.natCast_pos.mpr hpos)]
  exact hround

-- What the format makes of a whole number of units.
def held (n : Nat) : Nat := min (roundOff n) beyond

theorem held_mono {n n' : Nat} (h : n ≤ n') : held n ≤ held n' :=
  min_le_min_right beyond (roundOff_mono h)

theorem Canonical.held_eq {m k : Nat} (h : Canonical m k) :
    held (m * 2 ^ k) = min (m * 2 ^ k) beyond := by
  rw [held, h.roundOff_eq]

theorem held_eq_beyond {n : Nat} (h : beyond ≤ n) : held n = beyond := by
  have hle : beyond ≤ roundOff n := roundOff_beyond.symm.trans_le (roundOff_mono h)
  exact Nat.min_eq_right hle

-- Numbers are added by adding their units, and rounding the sum.
theorem Amounts.add {a b : UnpackedFloat} {n n' : Nat} (ha : Amounts a n) (hb : Amounts b n') :
    Amounts (repacked (UnpackedFloat.add .binary32 a b)) (held (n + n')) := by
  have hinfinity : ∀ n, beyond ≤ n → Amounts (repacked (.infinity .positive)) (held n) := by
    intro n hn
    rw [held_eq_beyond hn]
    exact .infinity
  cases ha with
  | zero s => cases hb with
      | zero s' => cases s <;> cases s' <;> exact .zero _
      | finite h hk =>
          rw [Nat.zero_add, h.held_eq]
          exact h.amounts_repacked
      | infinity => exact hinfinity _ (Nat.le_add_left ..)
  | finite h hk => cases hb with
      | zero s =>
          rw [Nat.add_zero, h.held_eq]
          exact h.amounts_repacked
      | finite h' hk' =>
          obtain ⟨m, k, hcanonical, hadd, hunits⟩ := exists_add h h'
          rw [hadd, held, ← hunits]
          exact hcanonical.amounts_repacked
      | infinity => exact hinfinity _ (Nat.le_add_left ..)
  | infinity => cases hb with
      | zero s => exact hinfinity _ (Nat.le_add_right ..)
      | finite h hk => exact hinfinity _ (Nat.le_add_right ..)
      | infinity => exact hinfinity _ (Nat.le_add_right ..)

-- What a number has is held as it is.
theorem Amounts.held_eq {a : UnpackedFloat} {n : Nat} (h : Amounts a n) : held n = n := by
  cases h with
  | zero s => rfl
  | finite h hk => rw [h.held_eq, Nat.min_eq_left (h.lt_beyond hk).le]
  | infinity => exact held_eq_beyond le_rfl

-- What is at least as great is not negative either.
theorem Amounts.of_le {a : UnpackedFloat} {n : Nat} (h : Amounts a n) {b : Float32}
    (hle : (a.compare b.toModel.unpack).any (·.isLE) = true) :
    ∃ n', Amounts b.toModel.unpack n' := by
  cases hb : b.toModel.unpack with
  | notANumber =>
      rw [hb] at hle
      cases h <;> cases hle
  | zero s => exact ⟨0, .zero s⟩
  | infinity s => cases s with
      | positive => exact ⟨beyond, .infinity⟩
      | negative =>
          rw [hb] at hle
          cases h <;> cases hle
  | finite s m e hm => cases s with
      | positive =>
          obtain ⟨k, rfl, hcanonical, hk⟩ := exists_canonical hb
          exact ⟨m * 2 ^ k, .finite hcanonical hk⟩
      | negative =>
          rw [hb] at hle
          cases h <;> cases hle

end Grid

namespace Scalar

open Grid (Amounts held beyond)

-- The units of a number, whatever its sign.
def units (x : Float32) : Nat :=
  match x.toModel.unpack with
  | .finite _ m e _ => m * 2 ^ (e + 149).toNat
  | .infinity _ => beyond
  | .zero _ => 0
  | .notANumber => 0

theorem le_iff_compare {a b : Float32} :
    a ≤ b ↔ (a.toModel.unpack.compare b.toModel.unpack).any (·.isLE) = true := decide_eq_true_iff

theorem lt_iff_compare {a b : Float32} :
    a < b ↔ (a.toModel.unpack.compare b.toModel.unpack == some .lt) = true := decide_eq_true_iff

theorem units_eq {x : Float32} {n : Nat} (h : Amounts x.toModel.unpack n) : units x = n := by
  rw [units]
  generalize x.toModel.unpack = a at h
  cases h with
  | zero s => rfl
  | @finite m k h hk =>
      change m * 2 ^ ((k : Int) - 149 + 149).toNat = m * 2 ^ k
      rw [Int.sub_add_cancel, Int.toNat_natCast]
  | infinity => rfl

theorem units_zero : units 0 = 0 := units_eq (.zero .positive)

variable {a b c d : Float32}

theorem amounts_units (h : 0 ≤ a) : Amounts a.toModel.unpack (units a) := by
  obtain ⟨n, hn⟩ := (Amounts.zero .positive).of_le (le_iff_compare.mp h)
  rwa [units_eq hn]

theorem nonneg_of_amounts {n : Nat} (h : Amounts a.toModel.unpack n) : 0 ≤ a := by
  have hcompare := (Amounts.zero .positive).compare_eq h
  refine le_iff_compare.mpr ?_
  change ((UnpackedFloat.zero .positive).compare a.toModel.unpack).any (·.isLE) = true
  rw [hcompare, Option.any_some, Nat.isLE_compare]
  exact Nat.zero_le n

-- Numbers that are not negative are ordered by their units.
theorem le_iff_units (ha : 0 ≤ a) (hb : 0 ≤ b) : a ≤ b ↔ units a ≤ units b := by
  rw [le_iff_compare, (amounts_units ha).compare_eq (amounts_units hb), Option.any_some,
    Nat.isLE_compare]

theorem lt_iff_units (ha : 0 ≤ a) (hb : 0 ≤ b) : a < b ↔ units a < units b := by
  rw [lt_iff_compare, (amounts_units ha).compare_eq (amounts_units hb), beq_iff_eq,
    Option.some.injEq, Nat.compare_eq_lt]

theorem amounts_add (ha : 0 ≤ a) (hb : 0 ≤ b) :
    Amounts (a + b).toModel.unpack (held (units a + units b)) := by
  rw [Grid.unpack_add]
  exact (amounts_units ha).add (amounts_units hb)

theorem add_nonneg (ha : 0 ≤ a) (hb : 0 ≤ b) : 0 ≤ a + b := nonneg_of_amounts (amounts_add ha hb)

theorem nonneg_of_le (ha : 0 ≤ a) (hab : a ≤ b) : 0 ≤ b := by
  obtain ⟨n, hn⟩ := (amounts_units ha).of_le (le_iff_compare.mp hab)
  exact nonneg_of_amounts hn

-- A sum of greater numbers is no less, however it is rounded.
theorem add_le_add (ha : 0 ≤ a) (hc : 0 ≤ c) (hab : a ≤ b) (hcd : c ≤ d) : a + c ≤ b + d := by
  have hb := nonneg_of_le ha hab
  have hd := nonneg_of_le hc hcd
  rw [le_iff_units ha hb] at hab
  rw [le_iff_units hc hd] at hcd
  rw [le_iff_units (add_nonneg ha hc) (add_nonneg hb hd), units_eq (amounts_add ha hc),
    units_eq (amounts_add hb hd)]
  exact Grid.held_mono (Nat.add_le_add hab hcd)

theorem le_add_right (ha : 0 ≤ a) (hb : 0 ≤ b) : a ≤ a + b := by
  rw [le_iff_units ha (add_nonneg ha hb), units_eq (amounts_add ha hb)]
  calc units a = held (units a) := (amounts_units ha).held_eq.symm
    _ ≤ held (units a + units b) := Grid.held_mono (Nat.le_add_right ..)

end Scalar

end Diorama
