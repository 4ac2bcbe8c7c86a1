import Diorama.Proofs.Terminal.Difference

namespace Diorama

-- One cell that is put to a place, on the canvas or beside it.
structure Stroke where
  x : Int
  y : Int
  cell : Cell

namespace Stroke

-- The cell of a stroke, where it goes.
def mark? (i j : Nat) (stroke : Stroke) : Option Cell :=
  if stroke.x = i ∧ stroke.y = j then some stroke.cell else none

-- The cell of the last of some strokes that goes to a place.
def last? (i j : Nat) (strokes : List Stroke) : Option Cell :=
  strokes.reverse.findSome? (mark? i j)

theorem exists_of_last? {i j : Nat} {strokes : List Stroke} {cell : Cell}
    (h : last? i j strokes = some cell) : ∃ stroke ∈ strokes, stroke.cell = cell := by
  obtain ⟨stroke, hmem, hmark⟩ := List.exists_of_findSome?_eq_some h
  rw [mark?, Option.ite_none_right_eq_some, Option.some.injEq] at hmark
  exact ⟨stroke, List.mem_reverse.mp hmem, hmark.2⟩

-- The same cell, put to several places.
def spread (cell : Cell) (places : List (Int × Int)) : List Stroke :=
  places.map fun p => ⟨p.1, p.2, cell⟩

theorem last?_spread (i j : Nat) (cell : Cell) (places : List (Int × Int)) :
    last? i j (spread cell places) =
      if ((i : Int), (j : Int)) ∈ places then some cell else none := by
  induction places with
  | nil => rfl
  | cons p rest ih =>
      obtain ⟨x, y⟩ := p
      have hlast : last? i j (spread cell ((x, y) :: rest)) =
          (last? i j (spread cell rest)).or (mark? i j ⟨x, y, cell⟩) := by
        simp [last?, spread, List.findSome?_append]
      rw [hlast, ih, mark?]
      by_cases hplace : x = i ∧ y = j
      · obtain ⟨rfl, rfl⟩ := hplace
        by_cases hrest : ((i : Int), (j : Int)) ∈ rest <;> simp [hrest]
      · have hne : ((i : Int), (j : Int)) ≠ (x, y) := fun h =>
          hplace ⟨(Prod.mk.inj h).1.symm, (Prod.mk.inj h).2.symm⟩
        simp [hplace, hne]

end Stroke

namespace Canvas

variable {width height : Nat}

def paint (strokes : List Stroke) (c : Canvas width height) : Canvas width height :=
  strokes.foldl (fun c stroke => c.put stroke.x stroke.y stroke.cell) c

theorem paint_append (strokes rest : List Stroke) (c : Canvas width height) :
    c.paint (strokes ++ rest) = (c.paint strokes).paint rest := List.foldl_append

theorem cell?_eq_none {c : Canvas width height} {i j : Nat} (h : ¬(i < width ∧ j < height)) :
    c.cell? i j = none := by
  rw [← Option.not_isSome_iff_eq_none, cell?_isSome_iff]
  exact h

-- A cell that is put beside the canvas is lost; the others go to their places.
theorem cell?_put (canvas : Canvas width height) (x y : Int) (cell : Cell) (i j : Nat) :
    (canvas.put x y cell).cell? i j =
      if x = i ∧ y = j then (canvas.cell? i j).map fun _ => cell else canvas.cell? i j := by
  cases x with
  | negSucc x => simp [put]
  | ofNat x =>
      cases y with
      | negSucc y => simp [put]
      | ofNat y =>
          simp only [Int.ofNat_eq_natCast, Int.natCast_inj]
          by_cases hin : x < width ∧ y < height
          · obtain ⟨hx, hy⟩ := hin
            have hput : canvas.put x y cell = canvas.set y (canvas[y].set x cell) := by
              simp [put, hx, hy]
            rw [hput, cell?, cell?]
            by_cases hj : y = j
            · subst hj
              by_cases hi : x = i
              · subst hi
                simp [hx, hy]
              · simp [hy, hi]
            · simp [hj]
          · have hput : canvas.put x y cell = canvas := by
              by_cases hx : x < width
              · have hy : ¬y < height := fun hy => hin ⟨hx, hy⟩
                simp [put, hy]
              · simp [put, hx]
            rw [hput]
            split
            · rename_i hplace
              obtain ⟨rfl, rfl⟩ := hplace
              rw [cell?_eq_none hin, Option.map_none]
            · rfl

-- Drawings that each put a cell to a place or leave it alone: the last that puts one is seen there.
theorem cell?_foldl {α : Type} {step : Canvas width height → α → Canvas width height}
    {mark : α → Option Cell} {i j : Nat} {l : List α}
    (h : ∀ a ∈ l, ∀ c, (step c a).cell? i j = (c.cell? i j).map (mark a).getD)
    (c : Canvas width height) :
    (l.foldl step c).cell? i j = (c.cell? i j).map (l.reverse.findSome? mark).getD := by
  induction l generalizing c with
  | nil => exact (congrFun Option.map_id _).symm
  | cons a rest ih =>
      have hrest := ih (fun other hmem => h other (List.mem_cons_of_mem _ hmem)) (step c a)
      rw [List.foldl_cons, hrest, h a List.mem_cons_self, Option.map_map, List.reverse_cons,
        List.findSome?_append]
      congr 1
      funext old
      cases rest.reverse.findSome? mark <;> simp

theorem cell?_put_eq_map (stroke : Stroke) (c : Canvas width height) (i j : Nat) :
    (c.put stroke.x stroke.y stroke.cell).cell? i j =
      (c.cell? i j).map (stroke.mark? i j).getD := by
  rw [cell?_put, Stroke.mark?]
  split
  · rfl
  · exact (congrFun Option.map_id _).symm

theorem cell?_paint (strokes : List Stroke) (c : Canvas width height) (i j : Nat) :
    (c.paint strokes).cell? i j = (c.cell? i j).map (Stroke.last? i j strokes).getD := by
  exact cell?_foldl (fun stroke _ c => cell?_put_eq_map stroke c i j) c

-- The same cell put to some places is seen at all of them that are on the canvas.
theorem cell?_paint_spread (cell : Cell) (places : List (Int × Int)) (c : Canvas width height)
    (i j : Nat) :
    (c.paint (Stroke.spread cell places)).cell? i j =
      if ((i : Int), (j : Int)) ∈ places then (c.cell? i j).map fun _ => cell
      else c.cell? i j := by
  rw [cell?_paint, Stroke.last?_spread]
  split
  · rfl
  · exact congrFun Option.map_id _

-- A cell that is seen after some strokes was there before them or comes from one of them.
theorem cell?_paint_eq_some {strokes : List Stroke} {c : Canvas width height} {i j : Nat}
    {cell : Cell} (h : (c.paint strokes).cell? i j = some cell) :
    c.cell? i j = some cell ∨ ∃ stroke ∈ strokes, stroke.cell = cell := by
  rw [cell?_paint, Option.map_eq_some_iff] at h
  obtain ⟨old, hold, hcell⟩ := h
  cases hlast : Stroke.last? i j strokes with
  | none =>
      rw [hlast, Option.getD_none] at hcell
      exact .inl (hcell ▸ hold)
  | some last =>
      rw [hlast, Option.getD_some] at hcell
      obtain ⟨stroke, hmem, heq⟩ := Stroke.exists_of_last? hlast
      exact .inr ⟨stroke, hmem, heq.trans hcell⟩

-- Something that draws by strokes, with cells of some kind only.
def Paints (p : Cell → Prop) (draw : Canvas width height → Canvas width height) : Prop :=
  ∃ strokes : List Stroke, (∀ stroke ∈ strokes, p stroke.cell) ∧ ∀ c, draw c = c.paint strokes

namespace Paints

variable {p : Cell → Prop} {draw next : Canvas width height → Canvas width height}

theorem nothing : Paints p (fun c : Canvas width height => c) := ⟨[], by simp, fun _ => rfl⟩

theorem comp (h : Paints p draw) (hnext : Paints p next) : Paints p fun c => next (draw c) := by
  obtain ⟨strokes, hstrokes, hdraw⟩ := h
  obtain ⟨rest, hrest, hlast⟩ := hnext
  refine ⟨strokes ++ rest, List.forall_mem_append.mpr ⟨hstrokes, hrest⟩, fun c => ?_⟩
  rw [paint_append, ← hdraw, ← hlast]

theorem put {cell : Cell} (h : p cell) (x y : Int) :
    Paints p fun c : Canvas width height => c.put x y cell :=
  ⟨[⟨x, y, cell⟩], by simpa using h, fun _ => rfl⟩

theorem foldl {α : Type} {step : Canvas width height → α → Canvas width height} {l : List α}
    (h : ∀ a ∈ l, Paints p fun c => step c a) : Paints p fun c => l.foldl step c := by
  induction l with
  | nil => exact nothing
  | cons a l ih =>
      have hrest := ih fun other hmem => h other (List.mem_cons_of_mem _ hmem)
      exact (h a List.mem_cons_self).comp hrest

theorem sweep {visit : Canvas width height → Int → Int → Canvas width height}
    (h : ∀ x y, Paints p fun c => visit c x y) (rows columns : List Int) :
    Paints p fun c => Canvas.sweep rows columns visit c :=
  foldl fun y _ => foldl fun x _ => h x y

theorem fillDisc {cell : Cell} (h : p cell) (hdot : p (dot cell)) (x y : Int) (radius : Float32) :
    Paints p fun c : Canvas width height => c.fillDisc x y radius cell := by
  simp only [Canvas.fillDisc]
  split
  · exact put hdot x y
  · refine sweep (fun cx cy => ?_) _ _
    split
    · exact put h cx cy
    · exact nothing

theorem fillRectangle {cell : Cell} (h : p cell) (x y : Int) (halfWidth halfHeight : Float32) :
    Paints p fun c : Canvas width height => c.fillRectangle x y halfWidth halfHeight cell :=
  sweep (put h) _ _

theorem drawSegment {cell : Cell} (h : p cell) (a b : Int × Int) :
    Paints p fun c : Canvas width height => c.drawSegment a b cell :=
  foldl fun place _ => put h place.1 place.2

theorem putText {cell : Cell} {letters : List Char}
    (h : ∀ ch ∈ letters, p { cell with character := ch }) (x y : Int) :
    Paints p fun c : Canvas width height => c.putText x y cell letters := by
  induction letters generalizing x with
  | nil => exact nothing
  | cons ch rest ih =>
      have hrest := ih (fun other hmem => h other (List.mem_cons_of_mem _ hmem)) (x + 1)
      exact (put (h ch List.mem_cons_self) x y).comp hrest

-- What is seen afterwards was there before or is of the kind that was drawn.
theorem cell?_eq_some (h : Paints p draw) {c : Canvas width height} {i j : Nat} {cell : Cell}
    (hcell : (draw c).cell? i j = some cell) : c.cell? i j = some cell ∨ p cell := by
  obtain ⟨strokes, hstrokes, hdraw⟩ := h
  rw [hdraw] at hcell
  refine (cell?_paint_eq_some hcell).imp_right ?_
  rintro ⟨stroke, hmem, rfl⟩
  exact hstrokes stroke hmem

end Paints

end Canvas

end Diorama
