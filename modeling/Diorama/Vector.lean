import Diorama.Number.Scalar

-- Points, directions and sizes in space and on the screen.

namespace Diorama

-- `==` compares as numbers: the two zeros are equal, and what is no number equals nothing.
structure Vec3 where
  x : Float32
  y : Float32
  z : Float32
deriving BEq, DecidableEq, Inhabited

namespace Vec3

def splat (v : Float32) : Vec3 := ⟨v, v, v⟩

def zero : Vec3 := splat 0

def one : Vec3 := splat 1

def map (f : Float32 → Float32) (v : Vec3) : Vec3 := ⟨f v.x, f v.y, f v.z⟩

def zip (f : Float32 → Float32 → Float32) (v w : Vec3) : Vec3 := ⟨f v.x w.x, f v.y w.y, f v.z w.z⟩

def scale (v : Vec3) (factor : Float32) : Vec3 := v.map (· * factor)

instance : Add Vec3 := ⟨zip (· + ·)⟩

instance : Mul Vec3 := ⟨zip (· * ·)⟩

end Vec3

structure Vec2 where
  x : Float32
  y : Float32
deriving BEq, DecidableEq, Inhabited

-- Degrees as radians, with the size of one degree rounded to a single.
def radians (degrees : Float32) : Float32 :=
  let pi : Float32 := 3.14159265358979323846
  degrees * (pi / 180)

end Diorama
