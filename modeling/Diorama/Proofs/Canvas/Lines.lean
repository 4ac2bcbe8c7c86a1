import Mathlib.Data.List.Chain
import Mathlib.Data.List.Range
import Mathlib.Data.Real.Basic
import Mathlib.Order.Bounds.Basic
import Mathlib.Tactic.Linarith
import Diorama.Proofs.Canvas.Strokes
import Diorama.Proofs.Number.Rational

namespace Diorama

namespace Segment

-- Where a stretch of a segment reaches, if there is one.
def Spans (stretch : Option (ℚ × ℚ)) (t : ℝ) : Prop := ∃ s ∈ stretch, (s.1 : ℝ) ≤ t ∧ t ≤ (s.2 : ℝ)

theorem spans_some (s : ℚ × ℚ) (t : ℝ) : Spans (some s) t ↔ (s.1 : ℝ) ≤ t ∧ t ≤ (s.2 : ℝ) := by
  simp [Spans]

theorem clipEdge_eq (s : ℚ × ℚ) (outward room : ℚ) :
    clipEdge s outward room =
      if outward = 0 then if room < 0 then none else some s
      else if outward < 0 then some (max s.1 (room / outward), s.2)
      else some (s.1, min s.2 (room / outward)) := by
  simp only [clipEdge, rat_zero, rat_same, rat_lt, rat_max, rat_min]

-- An edge leaves the part of a stretch on which the segment has gone no further than there is room.
theorem spans_clipEdge (s : ℚ × ℚ) (outward room : ℚ) (t : ℝ) :
    Spans (clipEdge s outward room) t ↔ Spans (some s) t ∧ (outward : ℝ) * t ≤ room := by
  rw [clipEdge_eq, spans_some]
  rcases lt_trichotomy outward 0 with hneg | rfl | hpos
  · have hout : (outward : ℝ) < 0 := by exact_mod_cast hneg
    rw [if_neg hneg.ne, if_pos hneg, spans_some]
    push_cast
    rw [max_le_iff, div_le_iff_of_neg hout, mul_comm t]
    tauto
  · rw [if_pos rfl]
    split_ifs with hroom
    · simp [Spans, hroom]
    · simp [spans_some, not_lt.mp hroom]
  · have hout : 0 < (outward : ℝ) := by exact_mod_cast hpos
    rw [if_neg hpos.ne', if_neg hpos.not_gt, spans_some]
    push_cast
    rw [le_min_iff, le_div_iff₀ hout, mul_comm t]
    tauto

theorem spans_bind_clipEdge (stretch : Option (ℚ × ℚ)) (outward room : ℚ) (t : ℝ) :
    Spans (stretch.bind fun s => clipEdge s outward room) t ↔
      Spans stretch t ∧ (outward : ℝ) * t ≤ room := by
  cases stretch with
  | none => simp [Spans]
  | some s => exact spans_clipEdge s outward room t

-- What the four edges leave of a whole segment.
def stretch? (a b corner : Point ℚ) : Option (ℚ × ℚ) :=
  (((clipEdge (0, 1) (-(b.x - a.x)) a.x).bind fun s =>
    clipEdge s (b.x - a.x) (corner.x - a.x)).bind fun s =>
      clipEdge s (-(b.y - a.y)) a.y).bind fun s => clipEdge s (b.y - a.y) (corner.y - a.y)

-- The place on a segment a fraction of the way.
def pointAt (a b : Point ℚ) (t : ℚ) : Point ℚ := ⟨a.x + (b.x - a.x) * t, a.y + (b.y - a.y) * t⟩

theorem clip_eq (a b corner : Point ℚ) :
    clip a b corner = if corner.x < 0 ∨ corner.y < 0 then none
      else (stretch? a b corner).bind fun s =>
        if s.2 < s.1 then none else some (pointAt a b s.1, pointAt a b s.2) := by
  simp only [clip, stretch?, rat_zero, rat_one, rat_lt, Bool.or_eq_true, Option.bind_eq_bind,
    Option.bind_assoc]
  split
  · rfl
  · rfl

def ofCell (p : Int × Int) : Point ℚ := ⟨p.1, p.2⟩

-- The last cell of a canvas.
def corner (width height : Nat) : Int × Int := ((width : Int) - 1, (height : Int) - 1)

-- How far along the way from one cell to another the way is on a canvas.
def onCanvas (width height : Nat) (a b : Int × Int) : Set ℝ :=
  {t | (0 ≤ t ∧ t ≤ 1) ∧
    (0 ≤ a.1 + (b.1 - a.1) * t ∧ a.1 + (b.1 - a.1) * t ≤ width - 1) ∧
    0 ≤ a.2 + (b.2 - a.2) * t ∧ a.2 + (b.2 - a.2) * t ≤ height - 1}

theorem spans_stretch? (width height : Nat) (a b : Int × Int) (t : ℝ) :
    Spans (stretch? (ofCell a) (ofCell b) (ofCell (corner width height))) t ↔
      t ∈ onCanvas width height a b := by
  simp only [stretch?, spans_bind_clipEdge, spans_clipEdge, spans_some, ofCell, corner, onCanvas,
    Set.mem_ofPred_eq]
  push_cast
  constructor
  · rintro ⟨⟨⟨⟨ht, hleft⟩, hright⟩, htop⟩, hbottom⟩
    refine ⟨ht, ⟨?_, ?_⟩, ?_, ?_⟩ <;> linarith
  · rintro ⟨ht, ⟨hleft, hright⟩, htop, hbottom⟩
    refine ⟨⟨⟨⟨ht, ?_⟩, ?_⟩, ?_⟩, ?_⟩ <;> linarith

theorem onCanvas_of_empty {width height : Nat} (h : width = 0 ∨ height = 0) (a b : Int × Int) :
    onCanvas width height a b = ∅ := by
  apply Set.eq_empty_of_forall_notMem
  rintro t ⟨-, hx, hy⟩
  rcases h with rfl | rfl
  · push_cast at hx
    linarith
  · push_cast at hy
    linarith

-- Either the whole way misses the canvas and nothing is left, or what is on the canvas is one
-- stretch of it, and its ends are what is left.
theorem clip_cases (width height : Nat) (a b : Int × Int) :
    (clip (ofCell a) (ofCell b) (ofCell (corner width height)) = none ∧
        onCanvas width height a b = ∅) ∨
      ∃ first last : ℚ, first ≤ last ∧
        clip (ofCell a) (ofCell b) (ofCell (corner width height)) =
          some (pointAt (ofCell a) (ofCell b) first, pointAt (ofCell a) (ofCell b) last) ∧
        onCanvas width height a b = Set.Icc (first : ℝ) last := by
  have hspans := spans_stretch? width height a b
  rw [clip_eq]
  by_cases hempty : width = 0 ∨ height = 0
  · refine .inl ⟨if_pos ?_, onCanvas_of_empty hempty a b⟩
    simp only [ofCell, corner]
    rcases hempty with rfl | rfl
    · exact .inl (by norm_num)
    · exact .inr (by norm_num)
  · have hcorner : ¬((ofCell (corner width height)).x < 0 ∨
        (ofCell (corner width height)).y < 0) := by
      simp only [ofCell, corner, Int.cast_lt_zero]
      omega
    rw [if_neg hcorner]
    cases hstretch : stretch? (ofCell a) (ofCell b) (ofCell (corner width height)) with
    | none =>
        refine .inl ⟨rfl, Set.eq_empty_of_forall_notMem fun t ht => ?_⟩
        rw [← hspans, hstretch] at ht
        obtain ⟨s, hs, -⟩ := ht
        cases hs
    | some s =>
        simp only [hstretch, spans_some] at hspans
        by_cases horder : s.2 < s.1
        · refine .inl ⟨if_pos horder, Set.eq_empty_of_forall_notMem fun t ht => ?_⟩
          have hreach := (hspans t).mpr ht
          have horder' : (s.2 : ℝ) < s.1 := by exact_mod_cast horder
          linarith
        · refine .inr ⟨s.1, s.2, not_lt.mp horder, if_neg horder, Set.ext fun t => ?_⟩
          exact (hspans t).symm

-- No coordinate of a cell is farther from zero than this.
def farthest : ℚ := 2 ^ 31

theorem abs_coordinate_le (n : Int32) : |(n.toInt : ℚ)| ≤ farthest := by
  have hlow : (-2 ^ 31 : ℚ) ≤ n.toInt := by exact_mod_cast n.le_toInt
  have hhigh : (n.toInt : ℚ) ≤ 2 ^ 31 := by exact_mod_cast n.toInt_lt.le
  exact abs_le.mpr ⟨hlow, hhigh⟩

-- A point between two others lies between the same bounds as they do.
theorem between_bounds {lo hi u v f : ℚ} (hu : lo ≤ u ∧ u ≤ hi) (hv : lo ≤ v ∧ v ≤ hi)
    (hf : 0 ≤ f ∧ f ≤ 1) : lo ≤ u + (v - u) * f ∧ u + (v - u) * f ≤ hi := by
  have hmix : u + (v - u) * f = u * (1 - f) + v * f := by ring
  have hrest : 0 ≤ 1 - f := sub_nonneg.mpr hf.2
  rw [hmix]
  constructor
  · calc lo = lo * (1 - f) + lo * f := by ring
      _ ≤ u * (1 - f) + v * f :=
        add_le_add (mul_le_mul_of_nonneg_right hu.1 hrest) (mul_le_mul_of_nonneg_right hv.1 hf.1)
  · calc u * (1 - f) + v * f ≤ hi * (1 - f) + hi * f :=
        add_le_add (mul_le_mul_of_nonneg_right hu.2 hrest) (mul_le_mul_of_nonneg_right hv.2 hf.1)
      _ = hi := by ring

-- A point on a canvas, where no cell is farther than the farthest there can be.
structure Inside (width height : Nat) (p : Point ℚ) : Prop where
  x : 0 ≤ p.x ∧ p.x ≤ min ((width : ℚ) - 1) farthest
  y : 0 ≤ p.y ∧ p.y ≤ min ((height : ℚ) - 1) farthest

variable {width height : Nat} {p q : Point ℚ}

theorem Inside.pointAt (hp : Inside width height p) (hq : Inside width height q) {f : ℚ}
    (hf : 0 ≤ f ∧ f ≤ 1) : Inside width height (pointAt p q f) :=
  ⟨between_bounds hp.x hq.x hf, between_bounds hp.y hq.y hf⟩

theorem round_eq_floor {x : ℚ} (h : 0 ≤ x ∧ x ≤ farthest) : round x = ⌊x + 1 / 2⌋ := by
  have hlow : 0 ≤ ⌊x + 1 / 2⌋ := Int.floor_nonneg.mpr (by linarith [h.1])
  have hhigh : ⌊x + 1 / 2⌋ < 2 ^ 31 + 1 := by
    have hx := h.2
    rw [farthest] at hx
    rw [Int.floor_lt]
    push_cast
    linarith
  have hwhole : wholeOfRat .nearest x = ⌊x + 1 / 2⌋ := by rw [wholeOfRat_nearest h.1, round_eq]
  have hlimit : cellLimit = 2 ^ 63 - 1 := rfl
  have hround : round x = Binary.clampInt (-cellLimit - 1) cellLimit (wholeOfRat .nearest x) := rfl
  rw [hround, hwhole, Binary.clampInt]
  omega

def toCell (p : Point ℚ) : Int × Int := (round p.x, round p.y)

theorem Inside.toCell_eq (h : Inside width height p) :
    toCell p = (⌊p.x + 1 / 2⌋, ⌊p.y + 1 / 2⌋) := by
  rw [toCell, round_eq_floor ⟨h.x.1, h.x.2.trans (min_le_right _ _)⟩,
    round_eq_floor ⟨h.y.1, h.y.2.trans (min_le_right _ _)⟩]

-- A coordinate that lies on the canvas is not rounded over its edge.
theorem floor_bounds {size : Nat} {x : ℚ} (h : 0 ≤ x ∧ x ≤ min ((size : ℚ) - 1) farthest) :
    0 ≤ ⌊x + 1 / 2⌋ ∧ ⌊x + 1 / 2⌋ < size := by
  have hx := h.2.trans (min_le_left _ _)
  refine ⟨Int.floor_nonneg.mpr (by linarith [h.1]), ?_⟩
  rw [Int.floor_lt]
  push_cast
  linarith

def IsOnCanvas (width height : Nat) (p : Int × Int) : Prop :=
  (0 ≤ p.1 ∧ p.1 < width) ∧ 0 ≤ p.2 ∧ p.2 < height

theorem Inside.toCell_isOnCanvas (h : Inside width height p) :
    IsOnCanvas width height (toCell p) := by
  rw [h.toCell_eq]
  exact ⟨floor_bounds h.x, floor_bounds h.y⟩

-- Cells that are the same or touch each other, be it at a corner.
def Adjacent (p q : Int × Int) : Prop := |q.1 - p.1| ≤ 1 ∧ |q.2 - p.2| ≤ 1

theorem abs_floor_sub_le {x x' : ℚ} (h : |x' - x| ≤ 1) : |⌊x' + 1 / 2⌋ - ⌊x + 1 / 2⌋| ≤ 1 := by
  obtain ⟨hlow, hhigh⟩ := abs_le.mp h
  have hup : ⌊x' + 1 / 2⌋ ≤ ⌊x + 1 / 2⌋ + 1 := by
    rw [← Int.floor_add_one]
    exact Int.floor_le_floor (by linarith)
  have hdown : ⌊x + 1 / 2⌋ ≤ ⌊x' + 1 / 2⌋ + 1 := by
    rw [← Int.floor_add_one]
    exact Int.floor_le_floor (by linarith)
  exact abs_le.mpr ⟨by omega, by omega⟩

-- There are so many steps that none is longer than a cell.
theorem steps_spec (hp : Inside width height p) (hq : Inside width height q) :
    1 ≤ steps p q ∧ |q.x - p.x| ≤ steps p q ∧ |q.y - p.y| ≤ steps p q := by
  obtain ⟨longer, hlonger⟩ : ∃ longer, longer = max |q.x - p.x| |q.y - p.y| := ⟨_, rfl⟩
  have hfar : longer ≤ farthest := by
    have hpx := hp.x.2.trans (min_le_right _ _)
    have hpy := hp.y.2.trans (min_le_right _ _)
    have hqx := hq.x.2.trans (min_le_right _ _)
    have hqy := hq.y.2.trans (min_le_right _ _)
    rw [hlonger, max_le_iff, abs_le, abs_le]
    exact ⟨⟨by linarith [hq.x.1], by linarith [hp.x.1]⟩, by linarith [hq.y.1], by linarith [hp.y.1]⟩
  have hceil : ⌈longer⌉ ≤ 2 ^ 31 := by
    rw [farthest] at hfar
    exact Int.ceil_le.mpr (by exact_mod_cast hfar)
  have hpos : 0 ≤ ⌈longer⌉ := Int.ceil_nonneg (hlonger ▸ le_max_of_le_left (abs_nonneg _))
  have hsteps : steps p q = max 1 ⌈longer⌉ := by
    have hlimit : cellLimit = 2 ^ 63 - 1 := rfl
    have hclamp : steps p q =
        max 1 (Binary.clampInt (-cellLimit - 1) cellLimit (wholeOfRat .up longer)) := by
      rw [hlonger, ← rat_max, ← rat_abs, ← rat_abs]
      rfl
    rw [hclamp, wholeOfRat_up, Binary.clampInt]
    omega
  have hle : longer ≤ steps p q := by
    have hup := Int.le_ceil longer
    have hmax : (⌈longer⌉ : ℚ) ≤ (steps p q : ℚ) := by
      rw [hsteps]
      exact_mod_cast le_max_right _ _
    exact hup.trans hmax
  rw [hlonger] at hle
  exact ⟨hsteps ▸ le_max_left _ _, (le_max_left _ _).trans hle, (le_max_right _ _).trans hle⟩

theorem sample_eq (p q : Point ℚ) (count index : Int) :
    sample p q count index = toCell (pointAt p q (index / count)) := rfl

-- Cells of a canvas that lead from one to another without a gap.
structure Leads (width height : Nat) (first last : Int × Int) (cells : List (Int × Int)) :
    Prop where
  head : cells.head? = some first
  last : cells.getLast? = some last
  adjacent : cells.IsChain Adjacent
  onCanvas : ∀ p ∈ cells, IsOnCanvas width height p

theorem samples_leads (hp : Inside width height p) (hq : Inside width height q) :
    Leads width height (toCell p) (toCell q) (samples p q) := by
  obtain ⟨hone, hx, hy⟩ := steps_spec hp hq
  obtain ⟨n, hn⟩ := Int.eq_ofNat_of_zero_le (by omega : 0 ≤ steps p q)
  have hpos : (0 : ℚ) < n := by
    have hnat : 0 < n := by omega
    exact_mod_cast hnat
  have hsamples : samples p q =
      (List.range (n + 1)).map fun (i : Nat) => toCell (pointAt p q ((i : ℚ) / (n : ℚ))) := by
    simp only [samples, hn, sample_eq]
    rfl
  rw [hn] at hx hy
  have hinside : ∀ i ≤ n, Inside width height (pointAt p q ((i : ℚ) / (n : ℚ))) := by
    intro i hi
    refine hp.pointAt hq ⟨by positivity, ?_⟩
    rw [div_le_one hpos]
    exact_mod_cast hi
  rw [hsamples]
  constructor
  · rw [List.range_succ_eq_map, List.map_cons, List.head?_cons]
    simp [pointAt]
  · rw [List.getLast?_map, List.getLast?_range]
    simp [pointAt, hpos.ne']
  · rw [List.isChain_map, List.isChain_range]
    intro i hi
    have hi' : i + 1 ≤ n := by omega
    rw [(hinside i (by omega)).toCell_eq, (hinside (i + 1) hi').toCell_eq]
    have hstep : ∀ d : ℚ, |d| ≤ n → |d * (((i + 1 : Nat) : ℚ) / n) - d * ((i : ℚ) / n)| ≤ 1 := by
      intro d hd
      have hdiff : d * (((i + 1 : Nat) : ℚ) / n) - d * ((i : ℚ) / n) = d / n := by
        push_cast
        ring
      rw [hdiff, abs_div, abs_of_pos hpos, div_le_one hpos]
      exact hd
    refine ⟨abs_floor_sub_le ?_, abs_floor_sub_le ?_⟩
    · simpa [pointAt] using hstep _ hx
    · simpa [pointAt] using hstep _ hy
  · intro cell hcell
    obtain ⟨i, hi, rfl⟩ := List.mem_map.mp hcell
    have hle : i ≤ n := Nat.lt_succ_iff.mp (List.mem_range.mp hi)
    exact (hinside i hle).toCell_isOnCanvas

theorem cast_pointAt (a b : Int × Int) (t : ℚ) :
    (((pointAt (ofCell a) (ofCell b) t).x : ℚ) : ℝ) = a.1 + (b.1 - a.1) * t ∧
      (((pointAt (ofCell a) (ofCell b) t).y : ℚ) : ℝ) = a.2 + (b.2 - a.2) * t := by
  simp [pointAt, ofCell]

-- A point on the way between two cells is inside if it is on the canvas.
theorem inside_pointAt (p q : Int32 × Int32) {t : ℚ} {a b : Int × Int}
    (ha : a = (p.1.toInt, p.2.toInt)) (hb : b = (q.1.toInt, q.2.toInt))
    (ht : (t : ℝ) ∈ onCanvas width height a b) :
    Inside width height (pointAt (ofCell a) (ofCell b) t) := by
  obtain ⟨⟨hzero, hone⟩, hx, hy⟩ := ht
  rw [← (cast_pointAt a b t).1] at hx
  rw [← (cast_pointAt a b t).2] at hy
  have hf : 0 ≤ t ∧ t ≤ 1 := ⟨by exact_mod_cast hzero, by exact_mod_cast hone⟩
  subst ha hb
  have hx' := between_bounds (abs_le.mp (abs_coordinate_le p.1))
    (abs_le.mp (abs_coordinate_le q.1)) hf
  have hy' := between_bounds (abs_le.mp (abs_coordinate_le p.2))
    (abs_le.mp (abs_coordinate_le q.2)) hf
  constructor
  · exact ⟨by exact_mod_cast hx.1, le_min (by exact_mod_cast hx.2) hx'.2⟩
  · exact ⟨by exact_mod_cast hy.1, le_min (by exact_mod_cast hy.2) hy'.2⟩

theorem cells_eq (width height : Nat) (a b : Int × Int) :
    cells ℚ width height a b =
      (clip (ofCell a) (ofCell b) (ofCell (corner width height))).elim []
        fun ends => samples ends.1 ends.2 := by
  have hclip : clip (ofCell a) (ofCell b) (ofCell (corner width height)) =
      clip (⟨Scalar.ofInt a.1, Scalar.ofInt a.2⟩ : Point ℚ) ⟨Scalar.ofInt b.1, Scalar.ofInt b.2⟩
        ⟨Scalar.ofInt ((width : Int) - 1), Scalar.ofInt ((height : Int) - 1)⟩ := rfl
  rw [hclip, cells]
  split
  · rename_i first last hsome
    rw [hsome]
    rfl
  · rename_i hnone
    rw [hnone]
    rfl

end Segment

namespace Canvas

open Segment (ofCell corner onCanvas pointAt Leads)

theorem cell?_drawLine {α : Type} [Scalar α] {width height : Nat} (c : Canvas width height)
    (a b : Int × Int) (cell : Cell) (x y : Nat) :
    (c.drawLine α a b cell).cell? x y =
      if ((x : Int), (y : Int)) ∈ Segment.cells α width height a b then
        (c.cell? x y).map fun _ => cell
      else c.cell? x y := by
  rw [← cell?_paint_spread, paint, Stroke.spread, List.foldl_map]
  rfl

-- A line between any two cells, read over the rationals. It is clipped to the part that is on the
-- canvas, from its first point to its last one, unless there is none. Drawn are then cells of the
-- canvas that lead from the one nearest to the first point to the one nearest to the last, and no
-- others.
theorem line_on_canvas (width height : Nat) (p q : Int32 × Int32) :
    let a := (p.1.toInt, p.2.toInt)
    let b := (q.1.toInt, q.2.toInt)
    let visible := onCanvas width height a b
    let clipped := Segment.clip (ofCell a) (ofCell b) (ofCell (corner width height))
    let line := Segment.cells ℚ width height a b
    (clipped = none ↔ width = 0 ∨ height = 0 ∨ visible = ∅) ∧
      (clipped = none → line = []) ∧
      (∀ first last, clipped = some (first, last) →
        (∃ t : ℚ, IsLeast visible t ∧ first = pointAt (ofCell a) (ofCell b) t) ∧
          (∃ t : ℚ, IsGreatest visible t ∧ last = pointAt (ofCell a) (ofCell b) t) ∧
          Leads width height (round first.x, round first.y) (round last.x, round last.y) line) ∧
      ∀ (c : Canvas width height) cell x y, (c.drawLine ℚ a b cell).cell? x y =
        if ((x : Int), (y : Int)) ∈ line then (c.cell? x y).map fun _ => cell
        else c.cell? x y := by
  intro a b visible clipped line
  have hline : line = clipped.elim [] fun ends => Segment.samples ends.1 ends.2 :=
    Segment.cells_eq width height a b
  have hcases := Segment.clip_cases width height a b
  refine ⟨⟨fun hnone => ?_, fun hmissed => ?_⟩, fun hnone => ?_, fun first last hsome => ?_,
    fun c cell x y => c.cell?_drawLine a b cell x y⟩
  · rcases hcases with ⟨-, hempty⟩ | ⟨_, _, -, hsome, -⟩
    · exact .inr (.inr hempty)
    · exact absurd (hnone.symm.trans hsome) (by simp)
  · have hempty : visible = ∅ := by
      rw [← or_assoc] at hmissed
      exact hmissed.elim (fun h => Segment.onCanvas_of_empty h a b) id
    rcases hcases with ⟨hnone, -⟩ | ⟨t, t', hle, -, hvisible⟩
    · exact hnone
    · have hmem : (t : ℝ) ∈ visible := by
        rw [show visible = Set.Icc (t : ℝ) t' from hvisible]
        exact Set.left_mem_Icc.mpr (by exact_mod_cast hle)
      rw [hempty] at hmem
      exact hmem.elim
  · rw [hline, hnone]
    rfl
  · rcases hcases with ⟨hnone, -⟩ | ⟨t, t', hle, hsome', hvisible⟩
    · exact absurd (hnone.symm.trans hsome) (by simp)
    · obtain ⟨rfl, rfl⟩ : pointAt (ofCell a) (ofCell b) t = first ∧
          pointAt (ofCell a) (ofCell b) t' = last := by
        have heq := hsome'.symm.trans hsome
        exact Prod.mk.inj (Option.some.inj heq)
      replace hvisible : visible = Set.Icc (t : ℝ) t' := hvisible
      have hleast : IsLeast visible t := hvisible ▸ isLeast_Icc (by exact_mod_cast hle)
      have hgreatest : IsGreatest visible t' := hvisible ▸ isGreatest_Icc (by exact_mod_cast hle)
      have hfirst := Segment.inside_pointAt p q (a := a) (b := b) rfl rfl hleast.1
      have hlast := Segment.inside_pointAt p q (a := a) (b := b) rfl rfl hgreatest.1
      refine ⟨⟨t, hleast, rfl⟩, ⟨t', hgreatest, rfl⟩, ?_⟩
      rw [hline, hsome, round_eq, round_eq, round_eq, round_eq, ← hfirst.toCell_eq,
        ← hlast.toCell_eq]
      exact Segment.samples_leads hfirst hlast

end Canvas

end Diorama
