import Diorama.Color
import Diorama.Number.Height
import Diorama.Vector

-- What stands on a stage: primitives with a shape and a material, each at its place.

namespace Diorama

-- Geometry with every parameter resolved.
inductive Shape where
  | sphere (radius : Float32)
  | cube (width height depth : Float32)
  | cylinder (radius height : Float32)
  | plane (width height : Float32)
  | line (points : List Vec3)
  | particles (count : Nat) (spread : Float32)
  | text (content : String) (fontSize : Float32)
deriving DecidableEq, Inhabited

def Shape.isPlane : Shape → Bool
  | .plane _ _ => true
  | _ => false

structure Material where
  color : Color
  opacity : Float32
  emissive : Option Color
deriving DecidableEq, Inhabited

structure Primitive where
  shape : Shape
  material : Material
deriving DecidableEq, Inhabited

-- The number under which a stage knows one of its primitives.
structure Handle where
  number : Nat
deriving DecidableEq, Inhabited

-- Rotation is in radians around x, y and z. The height is that of the position, with all its bits.
structure Transform where
  position : Vec3
  rotation : Vec3
  scale : Vec3
  height : Height := .ofNumber position.y
  height_eq : height.number = position.y := by exact rfl
deriving DecidableEq

namespace Transform

-- `==` compares as numbers, and the height is one of them.
instance : BEq Transform where
  beq a b := a.position == b.position && (a.rotation == b.rotation && a.scale == b.scale)

def rest : Transform := { position := Vec3.zero, rotation := Vec3.zero, scale := Vec3.one }

instance : Inhabited Transform := ⟨rest⟩

end Transform

structure CameraState where
  position : Vec3
  target : Vec3
  fovDegrees : Float32
deriving BEq, DecidableEq, Inhabited

structure AnnotationView where
  visible : Bool
  opacity : Float32
deriving BEq, DecidableEq, Inhabited

def AnnotationView.hidden : AnnotationView := ⟨false, 0⟩

end Diorama
