import Mathlib.Algebra.Order.Round
import Mathlib.Data.Rat.Floor
import Diorama.Number.Scalar

namespace Diorama

-- A formula that is read over the rationals computes what it says: their order has no exceptions,
-- and nothing is rounded but where the formula rounds.

theorem rat_zero : (Scalar.zero : ℚ) = 0 := rfl

theorem rat_one : (Scalar.one : ℚ) = 1 := rfl

theorem rat_ofInt (n : Int) : (Scalar.ofInt n : ℚ) = n := rfl

theorem rat_lt (a b : ℚ) : Scalar.lt a b = true ↔ a < b := decide_eq_true_iff

theorem rat_le (a b : ℚ) : Scalar.le a b = true ↔ a ≤ b := decide_eq_true_iff

theorem rat_same (a b : ℚ) : Scalar.same a b = true ↔ a = b := decide_eq_true_iff

theorem rat_max (a b : ℚ) : Scalar.max a b = max a b := by
  simp [Scalar.max, Scalar.same, Scalar.lt, max_def_lt]

theorem rat_min (a b : ℚ) : Scalar.min a b = min a b := by
  rw [min_comm]
  simp [Scalar.min, Scalar.same, Scalar.lt, min_def_lt]

theorem rat_clamp (lo hi x : ℚ) : Scalar.clamp lo hi x = min hi (max x lo) := by
  simp only [Scalar.clamp, rat_lt, min_def_lt, max_def_lt]

theorem rat_abs (x : ℚ) : Scalar.abs x = |x| := by
  by_cases h : x < 0
  · rw [abs_of_neg h]
    exact if_pos (decide_eq_true h)
  · rw [abs_of_nonneg (not_lt.mp h)]
    exact if_neg fun hneg => h (of_decide_eq_true hneg)

-- Up from zero a half goes up, which is away from zero.
theorem wholeOfRat_nearest {x : ℚ} (h : 0 ≤ x) : wholeOfRat .nearest x = round x := by
  rw [wholeOfRat, if_neg (not_lt.mpr h), round_eq]
  rfl

theorem wholeOfRat_up (x : ℚ) : wholeOfRat .up x = ⌈x⌉ := by
  rw [wholeOfRat, Rat.ceil_eq_neg_floor_neg]
  rfl

end Diorama
