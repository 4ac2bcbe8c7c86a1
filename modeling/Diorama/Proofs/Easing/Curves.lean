import Mathlib.Algebra.Order.Field.Basic
import Mathlib.Order.Interval.Set.LinearOrder
import Mathlib.Order.Monotone.Union
import Mathlib.Tactic.Linarith
import Mathlib.Tactic.NormNum
import Mathlib.Tactic.Ring
import Diorama.Animation.Timeline
import Diorama.Proofs.Number.Rational

namespace Diorama

namespace Easing

-- Every curve is made of the straight line and the square, run through forwards or backwards.
theorem curve_eq (e : Easing) (t : ℚ) :
    e.curve t = match e with
      | linear => t
      | easeIn => t ^ 2
      | easeOut => 1 - (1 - t) ^ 2
      | easeInOut => if t < 1 / 2 then 2 * t ^ 2 else 1 - 2 * (1 - t) ^ 2 := by
  cases e with
  | linear => rfl
  | easeIn => exact (pow_two t).symm
  | easeOut =>
      have hcurve : easeOut.curve t = t * (2 - t) := rfl
      rw [hcurve]
      ring
  | easeInOut =>
      have hcurve : easeInOut.curve t =
          if t < 1 / 2 then 2 * t * t else -1 + (4 - 2 * t) * t := by
        simp only [curve, rat_lt, rat_one, rat_ofInt]
        rfl
      rw [hcurve]
      split_ifs <;> ring

theorem curve_zero (e : Easing) : e.curve (0 : ℚ) = 0 := by
  cases e <;> norm_num [curve_eq]

theorem curve_one (e : Easing) : e.curve (1 : ℚ) = 1 := by
  cases e <;> norm_num [curve_eq]

-- The two pieces of ease-in-out meet in the middle, so the middle belongs to either of them.
theorem curve_easeInOut {t : ℚ} (h : t ≤ 1 / 2) : easeInOut.curve t = 2 * t ^ 2 := by
  rw [curve_eq]
  rcases h.lt_or_eq with hlt | rfl
  · exact if_pos hlt
  · norm_num

-- The same change with its end for its beginning.
def reversed : Easing → Easing
  | linear => linear
  | easeIn => easeOut
  | easeOut => easeIn
  | easeInOut => easeInOut

theorem curve_reversed (e : Easing) (t : ℚ) : e.reversed.curve t = 1 - e.curve (1 - t) := by
  cases e with
  | linear => exact (sub_sub_cancel 1 t).symm
  | easeIn => simp only [reversed, curve_eq]
  | easeOut => simp only [reversed, curve_eq, sub_sub_cancel]
  | easeInOut =>
      -- One of the two progresses lies in the first half, and the other one in the second.
      rcases le_or_gt t (1 / 2) with hfirst | hsecond
      · have hnot : ¬1 - t < 1 / 2 := by linarith
        rw [reversed, curve_easeInOut hfirst, curve_eq]
        simp only [if_neg hnot, sub_sub_cancel]
      · have hnot : ¬t < 1 / 2 := hsecond.le.not_gt
        rw [reversed, curve_easeInOut (by linarith : 1 - t ≤ 1 / 2), curve_eq]
        simp only [if_neg hnot]

theorem strictMonoOn_reversed (e : Easing) {lo hi : ℚ}
    (h : StrictMonoOn (e.curve : ℚ → ℚ) (Set.Icc (1 - hi) (1 - lo))) :
    StrictMonoOn (e.reversed.curve : ℚ → ℚ) (Set.Icc lo hi) := by
  intro t ht t' ht' hlt
  have hback : e.curve (1 - t') < e.curve (1 - t) :=
    h ⟨sub_le_sub_left ht'.2 1, sub_le_sub_left ht'.1 1⟩
      ⟨sub_le_sub_left ht.2 1, sub_le_sub_left ht.1 1⟩ (sub_lt_sub_left hlt 1)
  rw [curve_reversed, curve_reversed]
  exact sub_lt_sub_left hback 1

theorem easeIn_strictMonoOn : StrictMonoOn (easeIn.curve : ℚ → ℚ) (Set.Icc 0 1) := by
  intro t ht t' _ hlt
  rw [curve_eq, curve_eq]
  exact pow_lt_pow_left₀ hlt ht.1 two_ne_zero

theorem easeInOut_strictMonoOn : StrictMonoOn (easeInOut.curve : ℚ → ℚ) (Set.Icc 0 1) := by
  have hfirst : StrictMonoOn (easeInOut.curve : ℚ → ℚ) (Set.Icc 0 (1 / 2)) := by
    intro t ht t' ht' hlt
    rw [curve_easeInOut ht.2, curve_easeInOut ht'.2]
    exact mul_lt_mul_of_pos_left (pow_lt_pow_left₀ hlt ht.1 two_ne_zero) two_pos
  -- The second half is the first one backwards.
  have hsecond : StrictMonoOn (easeInOut.curve : ℚ → ℚ) (Set.Icc (1 / 2) 1) := by
    apply strictMonoOn_reversed easeInOut
    rwa [sub_self, sub_half]
  have hwhole := hfirst.union hsecond (isGreatest_Icc one_half_pos.le)
    (isLeast_Icc one_half_lt_one.le)
  rwa [Set.Icc_union_Icc_eq_Icc one_half_pos.le one_half_lt_one.le] at hwhole

-- No curve stands still or goes back anywhere.
theorem curve_strictMonoOn (e : Easing) : StrictMonoOn (e.curve : ℚ → ℚ) (Set.Icc 0 1) := by
  cases e with
  | linear => exact strictMonoOn_id
  | easeIn => exact easeIn_strictMonoOn
  | easeOut =>
      apply strictMonoOn_reversed easeIn
      rw [sub_self, sub_zero]
      exact easeIn_strictMonoOn
  | easeInOut => exact easeInOut_strictMonoOn

theorem curve_mem {t : ℚ} (e : Easing) (h : t ∈ Set.Icc 0 1) : e.curve t ∈ Set.Icc 0 1 := by
  have hrising := e.curve_strictMonoOn.monotoneOn
  constructor
  · rw [← e.curve_zero]
    exact hrising (Set.left_mem_Icc.mpr zero_le_one) h h.1
  · rw [← e.curve_one]
    exact hrising h (Set.right_mem_Icc.mpr zero_le_one) h.2

-- What the clamp makes of progress below, inside and above the unit interval.

variable {p : ℚ}

theorem apply_eq (e : Easing) (p : ℚ) : e.apply p = e.curve (min 1 (max p 0)) := by
  rw [apply, rat_clamp, rat_zero, rat_one]

theorem apply_of_nonpos (e : Easing) (h : p ≤ 0) : e.apply p = 0 := by
  rw [apply_eq, max_eq_right h, min_eq_right zero_le_one, curve_zero]

theorem apply_of_mem (e : Easing) (h : p ∈ Set.Icc 0 1) : e.apply p = e.curve p := by
  rw [apply_eq, max_eq_left h.1, min_eq_right h.2]

theorem apply_of_one_le (e : Easing) (h : 1 ≤ p) : e.apply p = 1 := by
  rw [apply_eq, min_eq_left (h.trans (le_max_left p 0)), curve_one]

theorem apply_reversed (e : Easing) (p : ℚ) : e.reversed.apply p = 1 - e.apply (1 - p) := by
  rcases le_total p 0 with hlow | hlow
  · rw [apply_of_nonpos _ hlow, apply_of_one_le e (by linarith : 1 ≤ 1 - p), sub_self]
  rcases le_total p 1 with hhigh | hhigh
  · have hback : 1 - p ∈ Set.Icc 0 1 := ⟨sub_nonneg.mpr hhigh, sub_le_self 1 hlow⟩
    rw [apply_of_mem _ ⟨hlow, hhigh⟩, apply_of_mem e hback, curve_reversed]
  · rw [apply_of_one_le _ hhigh, apply_of_nonpos e (sub_nonpos.mpr hhigh), sub_zero]

end Easing

namespace Window

open Easing (easeIn easeOut easeInOut)

variable {w : Window ℚ}

theorem contains_iff (w : Window ℚ) (t : ℚ) :
    w.contains t = true ↔ w.start ≤ t ∧ t ≤ w.start + w.length := by
  rw [contains, Bool.and_eq_true, rat_le, rat_le]

theorem progress_eq (h : 0 < w.length) (t : ℚ) : w.progress t = (t - w.start) / w.length := by
  have hnot : ¬Scalar.le w.length Scalar.zero = true := by
    rw [rat_le, rat_zero]
    exact h.not_ge
  exact if_neg hnot

-- The times in a window are those at which its progress lies in the unit interval, so that nothing
-- is clamped while an event is active.
theorem progress_mem_iff (h : 0 < w.length) (t : ℚ) :
    w.progress t ∈ Set.Icc 0 1 ↔ w.contains t = true := by
  rw [progress_eq h, contains_iff, Set.mem_Icc, le_div_iff₀ h, div_le_one h, zero_mul, sub_nonneg,
    sub_le_iff_le_add']

theorem progress_strictMono (h : 0 < w.length) : StrictMono w.progress := by
  intro t t' hlt
  rw [progress_eq h, progress_eq h]
  exact div_lt_div_of_pos_right (sub_lt_sub_right hlt w.start) h

theorem progress_start (h : 0 < w.length) : w.progress w.start = 0 := by
  rw [progress_eq h, sub_self, zero_div]

theorem progress_stop (h : 0 < w.length) : w.progress (w.start + w.length) = 1 := by
  rw [progress_eq h, add_sub_cancel_left, div_self h.ne']

theorem eased_strictMonoOn (h : 0 < w.length) (e : Easing) :
    StrictMonoOn (fun t => e.apply (w.progress t)) {t | w.contains t = true} := by
  intro t ht t' ht' hlt
  have hmem := (progress_mem_iff h t).mpr ht
  have hmem' := (progress_mem_iff h t').mpr ht'
  simp only [e.apply_of_mem hmem, e.apply_of_mem hmem']
  exact e.curve_strictMonoOn hmem hmem' (progress_strictMono h hlt)

theorem eased_mem (h : 0 < w.length) (e : Easing) {t : ℚ} (ht : w.contains t = true) :
    e.apply (w.progress t) ∈ Set.Icc 0 1 := by
  have hmem := (progress_mem_iff h t).mpr ht
  rw [e.apply_of_mem hmem]
  exact e.curve_mem hmem

-- Events go by the formulas of their windows and curves, and this is what the formulas say, read
-- over the rationals. Over a window that takes time, and along any curve, eased progress starts at
-- zero, rises from each moment to the next and ends at one. Outside of the unit interval progress
-- counts as its nearer end. Ease-out is ease-in backwards, and ease-in-out is the same backwards as
-- forwards.
theorem eased_progress_rises :
    (∀ (event : TimelineEvent) (t : Float32), event.isActive t = event.window.contains t ∧
      event.eased t = event.easing.apply (event.window.progress t)) ∧
    (∀ (w : Window ℚ) (e : Easing), 0 < w.length →
      let eased (t : ℚ) := e.apply (w.progress t)
      (∀ t t', w.contains t = true → w.contains t' = true → t ≤ t' →
        0 ≤ eased t ∧ eased t ≤ eased t' ∧ eased t' ≤ 1 ∧ (t < t' → eased t < eased t')) ∧
      (w.contains w.start = true ∧ eased w.start = 0) ∧
      w.contains (w.start + w.length) = true ∧ eased (w.start + w.length) = 1) ∧
    (∀ (e : Easing) (p : ℚ), (p ≤ 0 → e.apply p = 0) ∧ (1 ≤ p → e.apply p = 1)) ∧
    ∀ p : ℚ, easeOut.apply p = 1 - easeIn.apply (1 - p) ∧
      easeInOut.apply p = 1 - easeInOut.apply (1 - p) := by
  refine ⟨fun _ _ => ⟨rfl, rfl⟩, fun w e h => ⟨fun t t' ht ht' hle => ?_, ⟨?_, ?_⟩, ?_, ?_⟩,
    fun e p => ⟨e.apply_of_nonpos, e.apply_of_one_le⟩,
    fun p => ⟨easeIn.apply_reversed p, easeInOut.apply_reversed p⟩⟩
  · have hrising := eased_strictMonoOn h e
    exact ⟨(eased_mem h e ht).1, hrising.monotoneOn ht ht' hle, (eased_mem h e ht').2,
      hrising ht ht'⟩
  · rw [← progress_mem_iff h, progress_start h]
    exact Set.left_mem_Icc.mpr zero_le_one
  · exact e.apply_of_nonpos (progress_start h).le
  · rw [← progress_mem_iff h, progress_stop h]
    exact Set.right_mem_Icc.mpr zero_le_one
  · exact e.apply_of_one_le (progress_stop h).ge

-- A moment in the first half of four seconds, and one in the second half.
theorem four_seconds_eased :
    let w : Window ℚ := ⟨2, 4⟩
    let eased (t : ℚ) := easeInOut.apply (w.progress t)
    (0 < w.length ∧ w.contains 3 = true ∧ w.contains 5 = true ∧ eased 3 = 1 / 8 ∧
        eased 5 = 7 / 8) ∧
      (0 ≤ eased 3 ∧ eased 3 < eased 5 ∧ eased 5 ≤ 1 ∧ eased 2 = 0 ∧ eased (2 + 4) = 1) ∧
      easeInOut.apply (-1 : ℚ) = 0 ∧ easeInOut.apply (3 / 2 : ℚ) = 1 := by
  intro w eased
  have hlength : 0 < w.length := by decide +kernel
  have hfirst : w.contains 3 = true := by decide +kernel
  have hsecond : w.contains 5 = true := by decide +kernel
  obtain ⟨-, hwindow, houtside, -⟩ := eased_progress_rises
  obtain ⟨hrising, ⟨-, hstart⟩, -, hstop⟩ := hwindow w easeInOut hlength
  obtain ⟨hzero, -, hone, hlt⟩ := hrising 3 5 hfirst hsecond (by norm_num)
  exact ⟨⟨hlength, hfirst, hsecond, by decide +kernel, by decide +kernel⟩,
    ⟨hzero, hlt (by norm_num), hone, hstart, hstop⟩,
    (houtside easeInOut (-1)).1 (by norm_num), (houtside easeInOut (3 / 2)).2 (by norm_num)⟩

end Window

end Diorama
