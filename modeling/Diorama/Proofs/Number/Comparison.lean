import Mathlib
import Diorama.Number.Scalar

open Float.Model (UnpackedFloat Format)

namespace Diorama.Scalar

-- Numbers taken apart compare one way round as they do the other.
theorem compare_swap (a b : UnpackedFloat) : b.compare a = (a.compare b).map Ordering.swap := by
  have hlex : ∀ (e₁ e₂ : Int) (m₁ m₂ : Nat), (compare e₂ e₁).then (compare m₂ m₁) =
      ((compare e₁ e₂).then (compare m₁ m₂)).swap := by
    intro e₁ e₂ m₁ m₂
    rw [Ordering.swap_then, ← Std.OrientedOrd.eq_swap, ← Std.OrientedOrd.eq_swap]
  cases a with
  | notANumber => cases b <;> rfl
  | infinity s => cases s <;> cases b with
      | infinity s' => cases s' <;> rfl
      | _ => rfl
  | zero s => cases b with
      | infinity s' => cases s' <;> rfl
      | finite s' m e hm => cases s' <;> rfl
      | _ => rfl
  | finite s m e hm => cases s <;> cases b with
      | infinity s' => cases s' <;> rfl
      | finite s' m' e' hm' =>
          cases s' <;> simp [UnpackedFloat.compare, hlex e e' m m']
      | _ => rfl

theorem compare_eq_none_iff (a b : UnpackedFloat) :
    a.compare b = none ↔ a.isNaN = true ∨ b.isNaN = true := by
  fun_cases UnpackedFloat.compare a b <;> simp_all

-- Of two numbers one is at most the other.
theorem le_of_not_lt {a b : Float32} (h : ¬b < a) (ha : a.isNaN = false) (hb : b.isNaN = false) :
    a ≤ b := by
  have hle : a ≤ b ↔ (a.toModel.unpack.compare b.toModel.unpack).any (·.isLE) = true :=
    decide_eq_true_iff
  have hlt : b < a ↔ (b.toModel.unpack.compare a.toModel.unpack == some .lt) = true :=
    decide_eq_true_iff
  rw [hlt, compare_swap] at h
  rw [hle]
  cases hcompare : a.toModel.unpack.compare b.toModel.unpack with
  | none =>
      rcases (compare_eq_none_iff _ _).mp hcompare with hnan | hnan
      · exact absurd (ha.symm.trans hnan) (by simp)
      · exact absurd (hb.symm.trans hnan) (by simp)
  | some order =>
      rw [hcompare] at h
      cases order <;> simp_all

theorem isNaN_zero : (0 : Float32).isNaN = false := rfl

theorem isNaN_eq_false_of_isFinite {x : Float32} (h : x.isFinite = true) : x.isNaN = false := by
  change x.toModel.unpack.isFinite = true at h
  change x.toModel.unpack.isNaN = false
  cases hx : x.toModel.unpack <;> simp_all [UnpackedFloat.isFinite, UnpackedFloat.isNaN]

-- Only what is no number is packed as none.
theorem isNaN_of_unpack_pack {spec : Format} (hspec : 2 ≤ spec.exponentBits) {a : UnpackedFloat}
    (h : (UnpackedFloat.unpack spec (UnpackedFloat.pack spec a)).isNaN = true) :
    a.isNaN = true := by
  have hpacked : UnpackedFloat.pack spec a = UnpackedFloat.packedNaN spec :=
    (UnpackedFloat.isNaN_unpack_iff_of_valid UnpackedFloat.valid_pack hspec).mp h
  have hbits : UnpackedFloat.isNaNBits (UnpackedFloat.pack spec a) = true := by
    rw [hpacked]
    exact UnpackedFloat.isNaNBits_packedNaN
  rw [UnpackedFloat.isNaNBits, decide_eq_true_eq] at hbits
  obtain ⟨hexponent, hmantissa⟩ := hbits
  clear h hpacked
  revert hexponent hmantissa
  fun_cases UnpackedFloat.pack spec a with
  | case1 => exact fun _ _ => rfl
  | case2 s => simp [UnpackedFloat.packedInfinity]
  | case3 s => simp [UnpackedFloat.packedZero]
  | case4 s m e hm biased hbig => simp [UnpackedFloat.packedInfinity]
  | case5 s m e hm bits biased hbig hbits =>
      -- the exponent of all ones is kept for what is not finite
      have hexponent : BitVec.ofNat spec.exponentBits biased ≠ -1#_ := by
        have hmod : biased % 2 ^ spec.exponentBits = biased := Nat.mod_eq_of_lt (by omega)
        simp only [BitVec.neg_one_eq_allOnes, ne_eq, ← BitVec.toNat_inj, BitVec.toNat_ofNat,
          BitVec.toNat_allOnes, hmod]
        omega
      intro h
      rw [UnpackedFloat.unpackExponent_packComponents] at h
      exact absurd h hexponent
  | case6 s m e hm bits biased hbig hbits =>
      simp [Nat.pos_iff_ne_zero.1 spec.he]

theorem isNaN_normalize (spec : Format) (m e s) :
    (UnpackedFloat.normalize spec m e s).isNaN = false := by
  unfold UnpackedFloat.normalize UnpackedFloat.round UnpackedFloat.roundWithAccuracy
  split
  · simp only
    split <;> rfl
  · rfl
  · simp only
    split <;> rfl

theorem isNaN_add_unpacked (spec : Format) {a b : UnpackedFloat} (ha : a.isNaN = false)
    (hb : b.isFinite = true) : (UnpackedFloat.add spec a b).isNaN = false := by
  cases b with
  | notANumber => simp [UnpackedFloat.isFinite] at hb
  | infinity s => simp [UnpackedFloat.isFinite] at hb
  | zero s => cases a with
    | notANumber => exact ha
    | zero s' => cases s <;> cases s' <;> rfl
    | _ => rfl
  | finite s m e hm => cases a with
    | notANumber => exact ha
    | finite s' m' e' hm' => exact isNaN_normalize _ _ _ _
    | _ => rfl

-- A finite step makes a number out of a number.
theorem isNaN_add {x step : Float32} (hx : x.isNaN = false) (hstep : step.isFinite = true) :
    (x + step).isNaN = false := by
  change x.toModel.unpack.isNaN = false at hx
  change step.toModel.unpack.isFinite = true at hstep
  rw [Bool.eq_false_iff]
  intro hsum
  have hunpacked : (UnpackedFloat.add .binary32 x.toModel.unpack step.toModel.unpack).isNaN = true :=
    isNaN_of_unpack_pack (by decide) hsum
  have hnumber := isNaN_add_unpacked .binary32 hx hstep
  exact absurd (hnumber.symm.trans hunpacked) (by decide)

end Diorama.Scalar
