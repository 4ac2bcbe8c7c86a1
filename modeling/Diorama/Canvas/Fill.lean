import Diorama.Canvas.Basic
import Diorama.Number.Scalar

-- Filled discs and rectangles. Columns count half a row: a cell is twice as high as it is wide.
-- Only the part on the canvas is visited, so that huge shapes cost no more than the canvas.

namespace Diorama.Canvas

variable {width height : Nat}

def coordinateLimit : Int := Int.pow 2 31 - 1

-- Half extents in cells: at least zero, and small enough to be added to any center.
def extent (mode : Binary.Rounding) (cells : Float32) : Int :=
  Scalar.toInt mode 0 coordinateLimit (Scalar.max cells 0)

-- The box of cells around a center: everything, or what lies on the canvas.
structure Box where
  left : Int
  right : Int
  top : Int
  bottom : Int

def Box.around (x y halfWidth halfHeight : Int) : Box :=
  ⟨x - halfWidth, x + halfWidth, y - halfHeight, y + halfHeight⟩

def Box.clip (b : Box) (width height : Nat) : Box :=
  ⟨max b.left 0, min b.right (width - 1), max b.top 0, min b.bottom (height - 1)⟩

def Box.sweep {α : Type} (b : Box) (visit : α → Int → Int → α) (a : α) : α :=
  Canvas.sweep (span b.top b.bottom) (span b.left b.right) visit a

-- Whether a cell lies in the disc around a center, computed in singles.
def inDisc (x y : Int) (radius : Float32) (cx cy : Int) : Bool :=
  let dx := Float32.ofInt (cx - x) / 2
  let dy := Float32.ofInt (cy - y)
  decide (dx * dx + dy * dy ≤ radius * radius)

-- A disc that is smaller than a cell is drawn as a dot.
def isDot (radius : Float32) : Bool := radius.isNaN || decide (radius < 1)

def dot (cell : Cell) : Cell := { cell with character := 'o' }

def discBox (x y : Int) (radius : Float32) : Box :=
  let r := extent .up radius
  .around x y (2 * r) r

-- Visits the box of a disc as far as it is on a canvas.
def sweepDisc {α : Type} (width height : Nat) (x y : Int) (radius : Float32)
    (visit : α → Int → Int → α) (a : α) : α :=
  ((discBox x y radius).clip width height).sweep visit a

def fillDisc (c : Canvas width height) (x y : Int) (radius : Float32) (cell : Cell) :
    Canvas width height :=
  if isDot radius then c.put x y (dot cell)
  else
    sweepDisc width height x y radius
      (fun c cx cy => if inDisc x y radius cx cy then c.put cx cy cell else c) c

def rectangleBox (x y : Int) (halfWidth halfHeight : Float32) : Box :=
  .around x y (extent .nearest (halfWidth * 2)) (extent .nearest halfHeight)

def sweepRectangle {α : Type} (width height : Nat) (x y : Int) (halfWidth halfHeight : Float32)
    (visit : α → Int → Int → α) (a : α) : α :=
  ((rectangleBox x y halfWidth halfHeight).clip width height).sweep visit a

def fillRectangle (c : Canvas width height) (x y : Int) (halfWidth halfHeight : Float32)
    (cell : Cell) : Canvas width height :=
  sweepRectangle width height x y halfWidth halfHeight (fun c cx cy => c.put cx cy cell) c

end Diorama.Canvas
