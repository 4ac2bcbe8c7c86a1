import Diorama.Proofs.Number.Comparison

open Float.Model (UnpackedFloat)

namespace Diorama.Scalar

-- Equal as numbers; what is no number is like whatever else is none.
def Alike (a b : Float32) : Prop := (a == b) = true ∨ a.isNaN = true ∧ b.isNaN = true

-- A number taken apart, without the sign of a zero.
def unsigned : UnpackedFloat → UnpackedFloat
  | .zero _ => .zero .positive
  | a => a

theorem compare_eq_iff (a b : UnpackedFloat) :
    a.compare b = some .eq ↔ a.isNaN = false ∧ unsigned a = unsigned b := by
  have hlex : ∀ (e₁ e₂ : Int) (m₁ m₂ : Nat),
      (compare e₁ e₂).then (compare m₁ m₂) = .eq ↔ m₁ = m₂ ∧ e₁ = e₂ := by
    intro e₁ e₂ m₁ m₂
    rw [Ordering.then_eq_eq, compare_eq_iff_eq, compare_eq_iff_eq, and_comm]
  cases a with
  | notANumber => cases b <;> simp [UnpackedFloat.compare, UnpackedFloat.isNaN]
  | infinity s => cases b with
      | infinity s' =>
          have hsigns : compare s s' = .eq ↔ s = s' := by cases s <;> cases s' <;> simp <;> decide
          simp [UnpackedFloat.compare, UnpackedFloat.isNaN, unsigned, hsigns]
      | _ => cases s <;> simp [UnpackedFloat.compare, unsigned]
  | zero s => cases b with
      | infinity s' => cases s' <;> simp [UnpackedFloat.compare, unsigned]
      | finite s' m e hm => cases s' <;> simp [UnpackedFloat.compare, unsigned]
      | _ => simp [UnpackedFloat.compare, UnpackedFloat.isNaN, unsigned]
  | finite s m e hm => cases s <;> cases b with
      | infinity s' => cases s' <;> simp [UnpackedFloat.compare, unsigned]
      | finite s' m' e' hm' =>
          cases s' <;>
            simp [UnpackedFloat.compare, UnpackedFloat.isNaN, unsigned, hlex, Ordering.swap_eq_eq]
      | _ => simp [UnpackedFloat.compare, unsigned]

theorem isNaN_iff_unsigned (a : UnpackedFloat) : a.isNaN = true ↔ unsigned a = .notANumber := by
  cases a <;> simp [UnpackedFloat.isNaN, unsigned]

-- Numbers are alike if they are the same but for the sign of a zero.
theorem alike_iff {a b : Float32} :
    Alike a b ↔ unsigned a.toModel.unpack = unsigned b.toModel.unpack := by
  have hbeq : (a == b) = (a.toModel.unpack.compare b.toModel.unpack == some .eq) := rfl
  have hnan : ∀ x : Float32, x.isNaN = x.toModel.unpack.isNaN := fun _ => rfl
  rw [Alike, hbeq, hnan, hnan, beq_iff_eq, compare_eq_iff]
  generalize a.toModel.unpack = a, b.toModel.unpack = b
  constructor
  · rintro (⟨-, h⟩ | ⟨ha, hb⟩)
    · exact h
    · rw [(isNaN_iff_unsigned a).mp ha, (isNaN_iff_unsigned b).mp hb]
  · intro h
    cases ha : a.isNaN with
    | false => exact .inl ⟨rfl, h⟩
    | true =>
        refine .inr ⟨rfl, (isNaN_iff_unsigned b).mpr ?_⟩
        rw [← h]
        exact (isNaN_iff_unsigned a).mp ha

theorem alike_equivalence : Equivalence Alike where
  refl _ := alike_iff.mpr rfl
  symm h := alike_iff.mpr (alike_iff.mp h).symm
  trans h h' := alike_iff.mpr ((alike_iff.mp h).trans (alike_iff.mp h'))

end Diorama.Scalar
