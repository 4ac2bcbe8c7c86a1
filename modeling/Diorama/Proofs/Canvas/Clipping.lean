import Mathlib.Algebra.Order.Ring.Int
import Diorama.Proofs.Canvas.Strokes

namespace Diorama

namespace Canvas

variable {width height : Nat}

theorem ext_cell? {c c' : Canvas width height}
    (h : ∀ i j, i < width → j < height → c.cell? i j = c'.cell? i j) : c = c' := by
  refine Vector.ext fun j hj => Vector.ext fun i hi => ?_
  simpa [cell?, hi, hj] using h i j hi hj

theorem mem_span {lo hi n : Int} : n ∈ span lo hi ↔ lo ≤ n ∧ n ≤ hi := by
  simp only [span, List.mem_map, List.mem_range]
  constructor
  · rintro ⟨k, hk, rfl⟩
    omega
  · rintro ⟨hlo, hhi⟩
    exact ⟨(n - lo).toNat, by omega, by omega⟩

theorem length_span (lo hi : Int) : (span lo hi).length = (hi - lo + 1).toNat := by
  simp [span]

namespace Box

-- The cells of a box, row by row.
def places (b : Box) : List (Int × Int) :=
  (span b.top b.bottom).flatMap fun y => (span b.left b.right).map fun x => (x, y)

theorem mem_places {b : Box} {x y : Int} :
    (x, y) ∈ b.places ↔ (b.left ≤ x ∧ x ≤ b.right) ∧ b.top ≤ y ∧ y ≤ b.bottom := by
  simp only [places, List.mem_flatMap, List.mem_map, Prod.mk.injEq, mem_span]
  constructor
  · rintro ⟨y', hy, x', hx, rfl, rfl⟩
    exact ⟨hx, hy⟩
  · rintro ⟨hx, hy⟩
    exact ⟨y, hy, x, hx, rfl, rfl⟩

theorem length_places (b : Box) :
    b.places.length = (b.bottom - b.top + 1).toNat * (b.right - b.left + 1).toNat := by
  simp [places, List.length_flatMap, length_span]

-- A box that is clipped to a canvas has no more cells than the canvas.
theorem length_places_clip_le (b : Box) (width height : Nat) :
    (b.clip width height).places.length ≤ width * height := by
  rw [length_places, Nat.mul_comm width height]
  simp only [clip]
  exact Nat.mul_le_mul (by omega) (by omega)

-- On the canvas nothing is clipped away.
theorem mem_places_clip (b : Box) {x y : Nat} (hx : x < width) (hy : y < height) :
    ((x : Int), (y : Int)) ∈ (b.clip width height).places ↔ ((x : Int), (y : Int)) ∈ b.places := by
  rw [mem_places, mem_places]
  simp only [clip]
  omega

end Box

-- To sweep over a box is to visit its cells one after the other.
theorem sweep_eq_foldl {α : Type} (b : Box) (visit : α → Int → Int → α) (a : α) :
    b.sweep visit a = b.places.foldl (fun a p => visit a p.1 p.2) a := by
  simp only [Box.sweep, Canvas.sweep, Box.places, List.foldl_flatMap, List.foldl_map]

theorem sweep_count (b : Box) : b.sweep (fun n _ _ => n + 1) 0 = b.places.length := by
  rw [sweep_eq_foldl, List.foldl_add_const, Nat.zero_add, Nat.one_mul]

theorem sweep_eq_paint (c : Canvas width height) (b : Box) (mask : Int → Int → Bool)
    (cell : Cell) : b.sweep (fun c x y => if mask x y then c.put x y cell else c) c =
      c.paint (Stroke.spread cell (b.places.filter fun p => mask p.1 p.2)) := by
  rw [sweep_eq_foldl, paint, Stroke.spread, List.foldl_map, List.foldl_filter]

-- What lies outside of the canvas is not missed.
theorem sweep_clip (c : Canvas width height) (b : Box) (mask : Int → Int → Bool) (cell : Cell) :
    (b.clip width height).sweep (fun c x y => if mask x y then c.put x y cell else c) c =
      b.sweep (fun c x y => if mask x y then c.put x y cell else c) c := by
  apply ext_cell?
  intro i j hi hj
  rw [sweep_eq_paint, sweep_eq_paint, cell?_paint_spread, cell?_paint_spread]
  simp only [List.mem_filter, b.mem_places_clip hi hj]

-- A number that is made whole lies between the bounds, or is zero.
theorem toInt_bounds (mode : Binary.Rounding) {lo hi : Int} (hlo : lo ≤ 0) (hhi : 0 ≤ hi)
    (b : Binary) : lo ≤ b.toInt mode lo hi ∧ b.toInt mode lo hi ≤ hi := by
  cases b with
  | nan => exact ⟨hlo, hhi⟩
  | infinite negative =>
      simp only [Binary.toInt]
      split <;> omega
  | finite negative mantissa exponent =>
      simp only [Binary.toInt, Binary.clampInt]
      omega

theorem extent_bounds (mode : Binary.Rounding) (cells : Float32) :
    0 ≤ extent mode cells ∧ extent mode cells < 2 ^ 31 := by
  have hlimit : coordinateLimit = 2 ^ 31 - 1 := rfl
  have hbounds : 0 ≤ extent mode cells ∧ extent mode cells ≤ coordinateLimit :=
    toInt_bounds mode (Int.le_refl 0) (by decide) _
  omega

-- Whole numbers that a signed word of 64 bits can hold.
def IsLong (n : Int) : Prop := -2 ^ 63 ≤ n ∧ n < 2 ^ 63

namespace Box

-- All that is computed for a box around a center and for the part of it on a canvas.
def bounds (x y halfWidth halfHeight : Int) (width height : Nat) : List Int :=
  let whole := around x y halfWidth halfHeight
  let visible := whole.clip width height
  [halfWidth, halfHeight, whole.left, whole.right, whole.top, whole.bottom, width, height,
    width - 1, height - 1, visible.left, visible.right, visible.top, visible.bottom]

theorem bounds_isLong (x y : Int32) {halfWidth halfHeight : Int} {width height : Nat}
    (hhalfWidth : 0 ≤ halfWidth ∧ halfWidth < 2 ^ 32)
    (hhalfHeight : 0 ≤ halfHeight ∧ halfHeight < 2 ^ 32) (hwidth : width < 2 ^ 63)
    (hheight : height < 2 ^ 63) :
    ∀ n ∈ bounds x.toInt y.toInt halfWidth halfHeight width height, IsLong n := by
  have hx := And.intro x.le_toInt x.toInt_lt
  have hy := And.intro y.le_toInt y.toInt_lt
  simp only [bounds, around, clip, IsLong, List.forall_mem_cons, List.not_mem_nil, false_imp_iff,
    implies_true, and_true]
  omega

end Box

-- Half extents as they are computed: rounded to what a word of 64 bits holds, and then cut so that
-- they can be added to any center.
def reach (mode : Binary.Rounding) (cells : Float32) : Nat :=
  min (Scalar.toInt mode (-2 ^ 63) (2 ^ 63 - 1) (Scalar.max cells 0)).toNat (2 ^ 31 - 1)

theorem extent_eq_reach (mode : Binary.Rounding) (cells : Float32) :
    extent mode cells = reach mode cells := by
  have hlimit : coordinateLimit = 2 ^ 31 - 1 := rfl
  have hwhole : ∀ b : Binary, b.toInt mode 0 (2 ^ 31 - 1) =
      min (b.toInt mode (-2 ^ 63) (2 ^ 63 - 1)).toNat (2 ^ 31 - 1) := by
    intro b
    cases b with
    | nan => rfl
    | infinite negative => cases negative <;> rfl
    | finite negative mantissa exponent =>
        simp only [Binary.toInt, Binary.clampInt]
        omega
  rw [extent, reach, hlimit]
  exact_mod_cast hwhole (Binary.ofSingle (Scalar.max cells 0))

-- All cells of a box around a center, one after the other and wherever they are.
def plainly (c : Canvas width height) (x y : Int) (across down : Nat)
    (visit : Canvas width height → Int → Int → Canvas width height) : Canvas width height :=
  (List.range (2 * down + 1)).foldl (fun c (row : Nat) =>
    (List.range (2 * across + 1)).foldl (fun c (column : Nat) =>
      visit c (x - across + column) (y - down + row)) c) c

-- The disc as it would be drawn if the whole of its box were visited.
def fillDiscPlainly (c : Canvas width height) (x y : Int) (radius : Float32) (cell : Cell) :
    Canvas width height :=
  if radius.isNaN ∨ radius < 1 then c.put x y { cell with character := 'o' }
  else
    let r := reach .up radius
    c.plainly x y (2 * r) r fun c cx cy =>
      let dx := Float32.ofInt (cx - x) / 2
      let dy := Float32.ofInt (cy - y)
      if dx * dx + dy * dy ≤ radius * radius then c.put cx cy cell else c

def fillRectanglePlainly (c : Canvas width height) (x y : Int) (halfWidth halfHeight : Float32)
    (cell : Cell) : Canvas width height :=
  c.plainly x y (reach .nearest (halfWidth * 2)) (reach .nearest halfHeight) fun c cx cy =>
    c.put cx cy cell

theorem span_around (center : Int) (half : Nat) : span (center - half) (center + half) =
    (List.range (2 * half + 1)).map fun (n : Nat) => center - half + n := by
  rw [span, show (center + half - (center - half) + 1).toNat = 2 * half + 1 by omega]

theorem plainly_eq_sweep (c : Canvas width height) (x y : Int) (across down : Nat)
    (visit : Canvas width height → Int → Int → Canvas width height) :
    c.plainly x y across down visit = (Box.around x y across down).sweep visit c := by
  simp only [plainly, Box.sweep, sweep, Box.around, span_around, List.foldl_map]

theorem fillDisc_eq_plainly (c : Canvas width height) (x y : Int) (radius : Float32)
    (cell : Cell) : c.fillDisc x y radius cell = c.fillDiscPlainly x y radius cell := by
  have hdot : isDot radius = true ↔ radius.isNaN ∨ radius < 1 := by
    simp [isDot]
  have hbox : discBox x y radius =
      Box.around x y (2 * reach .up radius : Nat) (reach .up radius) := by
    rw [discBox, extent_eq_reach, Nat.cast_mul, Nat.cast_ofNat]
  by_cases hsmall : isDot radius = true
  · rw [fillDisc, if_pos hsmall]
    exact (if_pos (hdot.mp hsmall)).symm
  · rw [fillDisc, if_neg hsmall, sweepDisc, sweep_clip, hbox, ← plainly_eq_sweep]
    simp only [inDisc, decide_eq_true_eq]
    exact (if_neg (hdot.not.mp hsmall)).symm

theorem fillRectangle_eq_plainly (c : Canvas width height) (x y : Int)
    (halfWidth halfHeight : Float32) (cell : Cell) :
    c.fillRectangle x y halfWidth halfHeight cell =
      c.fillRectanglePlainly x y halfWidth halfHeight cell := by
  have hclip := sweep_clip c (rectangleBox x y halfWidth halfHeight) (fun _ _ => true) cell
  simp only [if_true] at hclip
  rw [fillRectangle, fillRectanglePlainly, sweepRectangle, hclip, rectangleBox, extent_eq_reach,
    extent_eq_reach, plainly_eq_sweep]

-- Discs and rectangles look as if all of their cells had been visited, on the canvas and beside it,
-- whatever their extents. Those that are visited are no more than the canvas has, and on a canvas
-- whose sides fit a word of 64 bits everything that is computed for them fits one too.
theorem fills_visible (c : Canvas width height) (x y : Int32) (cell : Cell) :
    (∀ radius, c.fillDisc x.toInt y.toInt radius cell =
        c.fillDiscPlainly x.toInt y.toInt radius cell) ∧
      (∀ halfWidth halfHeight, c.fillRectangle x.toInt y.toInt halfWidth halfHeight cell =
        c.fillRectanglePlainly x.toInt y.toInt halfWidth halfHeight cell) ∧
      (∀ radius, sweepDisc width height x.toInt y.toInt radius (fun n _ _ => n + 1) 0 ≤
        width * height) ∧
      (∀ halfWidth halfHeight, sweepRectangle width height x.toInt y.toInt halfWidth halfHeight
        (fun n _ _ => n + 1) 0 ≤ width * height) ∧
      (width < 2 ^ 63 → height < 2 ^ 63 →
        (∀ radius, ∀ n ∈ Box.bounds x.toInt y.toInt (2 * extent .up radius) (extent .up radius)
            width height, IsLong n) ∧
          ∀ halfWidth halfHeight, ∀ n ∈ Box.bounds x.toInt y.toInt
            (extent .nearest (halfWidth * 2)) (extent .nearest halfHeight) width height,
            IsLong n) := by
  have hcount : ∀ b : Box, (b.clip width height).sweep (fun n _ _ => n + 1) 0 ≤ width * height := by
    intro b
    rw [sweep_count]
    exact b.length_places_clip_le width height
  refine ⟨fun radius => c.fillDisc_eq_plainly _ _ radius cell, fun halfWidth halfHeight =>
      c.fillRectangle_eq_plainly _ _ halfWidth halfHeight cell, fun radius => hcount _,
    fun halfWidth halfHeight => hcount _,
    fun hwidth hheight => ⟨fun radius => ?_, fun halfWidth halfHeight => ?_⟩⟩
  · have hextent := extent_bounds .up radius
    exact Box.bounds_isLong x y (by omega) (by omega) hwidth hheight
  · have hacross := extent_bounds .nearest (halfWidth * 2)
    have hdown := extent_bounds .nearest halfHeight
    exact Box.bounds_isLong x y (by omega) (by omega) hwidth hheight

end Canvas

end Diorama
