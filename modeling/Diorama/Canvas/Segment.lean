import Diorama.Canvas.Basic
import Diorama.Number.Scalar

-- Straight lines. A segment is clipped to the canvas first and then sampled in steps of at most one
-- cell. The arithmetic is read over any numbers.

namespace Diorama

structure Point (α : Type) where
  x : α
  y : α

namespace Segment

variable {α : Type} [Scalar α]

-- One edge narrows the stretch of the segment that is inside. `outward` is how fast the segment
-- goes towards the edge, `room` how far away the edge is at its beginning.
def clipEdge (stretch : α × α) (outward room : α) : Option (α × α) :=
  if Scalar.same outward Scalar.zero then
    if Scalar.lt room Scalar.zero then none else some stretch
  else
    let crossing := room / outward
    if Scalar.lt outward Scalar.zero then some (Scalar.max stretch.1 crossing, stretch.2)
    else some (stretch.1, Scalar.min stretch.2 crossing)

-- The point that lies a fraction of the way from the first point to the last.
def along (a : Point α) (dx dy t : α) : Point α := ⟨a.x + dx * t, a.y + dy * t⟩

-- The part of a segment in the rectangle between the origin and a corner.
def clip (a b : Point α) (corner : Point α) : Option (Point α × Point α) := do
  if Scalar.lt corner.x Scalar.zero || Scalar.lt corner.y Scalar.zero then none
  let dx := b.x - a.x
  let dy := b.y - a.y
  let stretch ← clipEdge (Scalar.zero, Scalar.one) (-dx) a.x
  let stretch ← clipEdge stretch dx (corner.x - a.x)
  let stretch ← clipEdge stretch (-dy) a.y
  let stretch ← clipEdge stretch dy (corner.y - a.y)
  if Scalar.lt stretch.2 stretch.1 then none
  else some (along a dx dy stretch.1, along a dx dy stretch.2)

def cellLimit : Int := Int.pow 2 63 - 1

def round (x : α) : Int := Scalar.toInt .nearest (-cellLimit - 1) cellLimit x

-- How many steps of at most one cell lead from a point to another; at least one.
def steps (a b : Point α) : Int :=
  let longer := Scalar.max (Scalar.abs (b.x - a.x)) (Scalar.abs (b.y - a.y))
  max 1 (Scalar.toInt .up (-cellLimit - 1) cellLimit longer)

def sample (a b : Point α) (count index : Int) : Int × Int :=
  let f : α := Scalar.ofInt index / Scalar.ofInt count
  (round (a.x + (b.x - a.x) * f), round (a.y + (b.y - a.y) * f))

def samples (a b : Point α) : List (Int × Int) :=
  let count := steps a b
  (List.range (count.toNat + 1)).map fun (index : Nat) => sample a b count index

-- The cells of a segment between two cells on a canvas of the given size.
def cells (α : Type) [Scalar α] (width height : Nat) (a b : Int × Int) : List (Int × Int) :=
  let point (p : Int × Int) : Point α := ⟨Scalar.ofInt p.1, Scalar.ofInt p.2⟩
  match clip (point a) (point b) (point ((width : Int) - 1, (height : Int) - 1)) with
  | some (a, b) => samples a b
  | none => []

end Segment

namespace Canvas

variable {width height : Nat}

-- The part of a line that lies on the canvas, computed over some numbers.
def drawLine (α : Type) [Scalar α] (c : Canvas width height) (a b : Int × Int) (cell : Cell) :
    Canvas width height :=
  (Segment.cells α width height a b).foldl (fun c p => c.put p.1 p.2 cell) c

def drawSegment (c : Canvas width height) (a b : Int × Int) (cell : Cell) : Canvas width height :=
  c.drawLine Float a b cell

end Canvas

end Diorama
