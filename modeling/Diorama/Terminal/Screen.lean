import Diorama.Canvas.Fill
import Diorama.Canvas.Segment
import Diorama.Stage.Basic
import Diorama.Table
import Diorama.Terminal.Drawing

-- A stage in a terminal: the scene from above, drawn in characters. A terminal row covers a number
-- of world units in depth, and a column half of it in width. The first frame is written in full,
-- later frames only where they differ.

namespace Diorama

structure Overlay where
  text : String
  offset : Option Vec2
  view : AnnotationView
deriving DecidableEq

def Overlay.empty : Overlay := ⟨"", none, .hidden⟩

structure Screen where
  width : Nat
  height : Nat
  -- the terminal row of the top edge of the canvas
  originRow : Nat
  unitsPerCell : Float32
  primitives : Table (Primitive × Transform) := {}
  overlays : List Overlay := []
  camera : Option CameraState := none
  -- what was drawn last, unless the screen may show something else by now
  previous : Option (Canvas width height) := none
  nextHandle : Nat := 0
  output : Array Drawing := #[]

namespace Screen

-- The smallest difference between one and the next number.
def smallestUnit : Float32 := 1 / 8388608

-- A screen never divides by zero: what is too small, or no number, is taken for a tiny unit.
def ofSize (width height originRow : Nat) (unitsPerCell : Float32) : Screen :=
  { width, height, originRow, unitsPerCell := Scalar.max unitsPerCell smallestUnit }

-- Has the next frame written in full.
def invalidate (s : Screen) : Screen := { s with previous := none }

def center (s : Screen) : Vec3 :=
  match s.camera with
  | some c => c.target
  | none => Vec3.zero

def cellCoordinate (x : Float32) : Int := Scalar.toInt .nearest (-Int.pow 2 31) (Int.pow 2 31 - 1) x

-- Column and row of a place in the world. They may lie outside of the canvas.
def project (s : Screen) (p : Vec3) : Int × Int :=
  let c := s.center
  let column := Float32.ofInt s.width / 2 + (p.x - c.x) / s.unitsPerCell * 2
  let row := Float32.ofInt s.height / 2 + (p.z - c.z) / s.unitsPerCell
  (cellCoordinate column, cellCoordinate row)

def shuffle (state : UInt32) : UInt32 :=
  let state := state ^^^ (state <<< 13)
  let state := state ^^^ (state >>> 17)
  state ^^^ (state <<< 5)

def spreadOut (state : UInt32) : Float32 :=
  state.toFloat32 / (4294967295 : UInt32).toFloat32 * 2 - 1

-- Where a particle floats in the unit cube. The same number always gives the same place.
def scatter (index : Nat) : Vec3 :=
  let first := shuffle (UInt32.ofNat index * 747796405 + 2891336453)
  let second := shuffle first
  let third := shuffle second
  ⟨spreadOut first, spreadOut second, spreadOut third⟩

-- Clouds are drawn with so many particles at most.
def particleLimit : Nat := 512

variable {w h : Nat}

def withCharacter (cell : Cell) (character : Char) : Cell := { cell with character }

-- A shape on a canvas, seen from above.
def drawShape (s : Screen) (shape : Shape) (tf : Transform) (cell : Cell) (c : Canvas w h) :
    Canvas w h :=
  let unit := s.unitsPerCell
  let (x, y) := s.project tf.position
  match shape with
  | .sphere radius => c.fillDisc x y (radius * tf.scale.x / unit) (withCharacter cell '@')
  | .cylinder radius _ => c.fillDisc x y (radius * tf.scale.x / unit) (withCharacter cell '%')
  | .cube width _ depth =>
    c.fillRectangle x y (width * tf.scale.x / (2 * unit)) (depth * tf.scale.z / (2 * unit))
      (withCharacter cell '#')
  | .plane width height =>
    c.fillRectangle x y (width * tf.scale.x / (2 * unit)) (height * tf.scale.y / (2 * unit))
      (withCharacter cell '.')
  | .line points =>
    let cells := points.map fun p => s.project (p * tf.scale + tf.position)
    match cells with
    | [(x, y)] => c.put x y (withCharacter cell '*')
    | cells =>
      (cells.zip cells.tail).foldl
        (fun c pair => c.drawSegment pair.1 pair.2 (withCharacter cell '*')) c
  | .particles count spread =>
    (List.range (min count particleLimit)).foldl
      (fun c index =>
        let (x, y) := s.project (tf.position + (scatter index).scale spread * tf.scale)
        c.put x y (withCharacter cell '·'))
      c
  | .text content _ =>
    let letters := content.toList
    c.putText (x - (letters.length / 2 : Nat)) y cell letters

-- How a primitive is drawn: glowing ones bold, and half transparent ones dim.
def style (m : Material) : Cell :=
  { color := some m.color, bold := m.emissive.isSome, dim := decide (m.opacity < 0.5) }

def drawPrimitive (s : Screen) (p : Primitive × Transform) (c : Canvas w h) : Canvas w h :=
  s.drawShape p.1.shape p.2 (style p.1.material) c

-- Planes lie below everything else; apart from that, what is higher covers what is lower.
def below (a b : Primitive × Transform) : Bool :=
  if a.1.shape.isPlane == b.1.shape.isPlane then a.2.height.key ≤ b.2.height.key
  else a.1.shape.isPlane

-- All primitives from bottom to top. Of two at the same height the later one is on top.
def layers (s : Screen) : List (Primitive × Transform) := s.primitives.values.mergeSort below

def cellPixels : Vec2 := ⟨8, 16⟩

def wholeCells (x : Float32) : Int := Scalar.toInt .towardZero (-Int.pow 2 63) (Int.pow 2 63 - 1) x

-- Where an overlay begins. Without an offset the overlays stand one above the other at the bottom.
def overlayStart (height index : Nat) (o : Overlay) : Int × Int :=
  match o.offset with
  | some p => (wholeCells (p.x / cellPixels.x), wholeCells (p.y / cellPixels.y))
  | none => (1, (height : Int) - 1 - index)

def drawOverlay (index : Nat) (o : Overlay) (c : Canvas w h) : Canvas w h :=
  if o.view.visible then
    let (x, y) := overlayStart h index o
    c.putText x y { color := some .white, bold := true, dim := decide (o.view.opacity < 0.5) }
      o.text.toList
  else c

def rasterize (s : Screen) : Canvas s.width s.height :=
  let scene := s.layers.foldl (fun c p => s.drawPrimitive p c) (Canvas.blank s.width s.height)
  s.overlays.zipIdx.foldl (fun c o => drawOverlay o.2 o.1 c) scene

-- The cells of a row that are written, from left to right.
def rowDrawings (row : Nat) (wanted : Cell → Nat → Bool) (cells : List Cell) : List Drawing :=
  (cells.zipIdx.filter fun p => wanted p.1 p.2).map fun p => .cell p.2 row p.1

-- The cells of a picture that are written: all of them, or those that changed.
def frameDrawings (originRow : Nat) (previous : Option (Canvas w h)) (next : Canvas w h) :
    List Drawing :=
  let changed (y x : Nat) (cell : Cell) : Bool :=
    match previous with
    | none => true
    | some c => c.cell? x y != some cell
  next.toList.zipIdx.flatMap fun row =>
    rowDrawings (row.2 + originRow) (fun cell x => changed row.2 x cell) row.1.toList

def write (s : Screen) (drawings : List Drawing) : Screen :=
  { s with output := s.output ++ drawings.toArray }

def takeOutput (s : Screen) : String × Screen :=
  (String.join (s.output.toList.map Drawing.text), { s with output := #[] })

def renderFrame (s : Screen) : Screen :=
  let next := s.rasterize
  { s with
    output := s.output ++ (frameDrawings s.originRow s.previous next).toArray
    previous := some next }

def setTransform (s : Screen) (handle : Handle) (tf : Transform) : Screen :=
  match s.primitives.get? handle.number with
  | some (p, _) => { s with primitives := s.primitives.set handle.number (p, tf) }
  | none => s

-- Overlays up to the number are there afterwards.
def putOverlay (s : Screen) (index : Nat) (o : Overlay) : Screen :=
  let padded := s.overlays ++ List.replicate (index + 1 - s.overlays.length) .empty
  { s with overlays := padded.set index o }

def create (p : Primitive) (s : Screen) : Except StageFault Handle × Screen :=
  (.ok ⟨s.nextHandle⟩,
    { s with
      nextHandle := s.nextHandle + 1
      primitives := s.primitives.set s.nextHandle (p, .rest) })

def perform (order : Order) (s : Screen) : Except StageFault Unit × Screen :=
  let next := match order with
    | .setTransform handle tf => s.setTransform handle tf
    | .renderFrame => s.renderFrame
    | .destroyPrimitive handle => { s with primitives := s.primitives.erase handle.number }
    | .setCamera camera => { s with camera := some camera }
    | .createOverlay index a => s.putOverlay index ⟨a.text, a.position, .hidden⟩
    | .updateOverlay index view =>
      { s with overlays := s.overlays.modify index fun o => { o with view } }
  (.ok (), next)

-- A screen does everything it is told; orders about what it does not have change nothing.
instance : Stage Screen where
  create := create
  perform := perform

end Screen

end Diorama
