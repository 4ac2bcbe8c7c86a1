import Diorama.Document.Lenient
import Diorama.Stage.Primitive

-- Actors as a definition describes them: what they are, what they look like, where they start.

namespace Diorama

inductive ActorKind where
  | sphere
  | cube
  | cylinder
  | plane
  | line
  | particleSystem
  | text
  -- a name that means nothing here, kept for what is said about it
  | unknown (name : String)
deriving DecidableEq

namespace ActorKind

instance : Inhabited ActorKind := ⟨.unknown ""⟩

-- Names count in any case; two kinds have a second name.
def ofName (name : String) : ActorKind :=
  let folded := String.ofList (name.toList.map Char.toLower)
  if folded = "sphere" then .sphere
  else if folded = "cube" ∨ folded = "box" then .cube
  else if folded = "cylinder" then .cylinder
  else if folded = "plane" then .plane
  else if folded = "line" then .line
  else if folded = "particle_system" ∨ folded = "particles" then .particleSystem
  else if folded = "text" then .text
  else .unknown name

def name : ActorKind → String
  | .sphere => "sphere"
  | .cube => "cube"
  | .cylinder => "cylinder"
  | .plane => "plane"
  | .line => "line"
  | .particleSystem => "particle_system"
  | .text => "text"
  | .unknown name => name

def isKnown : ActorKind → Bool
  | .unknown _ => false
  | _ => true

end ActorKind

-- Which of the measures matter depends on the kind. Rotation is in degrees.
structure ActorDefinition where
  id : String := ""
  kind : ActorKind := .unknown ""
  radius : Option Float32 := none
  height : Option Float32 := none
  width : Option Float32 := none
  depth : Option Float32 := none
  points : List Vec3 := []
  count : Option Float32 := none
  textContent : Option String := none
  fontSize : Option Float32 := none
  color : Color := .white
  opacity : Option Float32 := none
  emissive : Option Color := none
  position : Vec3 := Vec3.zero
  rotation : Vec3 := Vec3.zero
  scale : Vec3 := Vec3.one
  -- every other member, such as the radius and the speed of an orbit
  metadata : List (String × Json) := []
deriving Inhabited

-- A continuous orbit around the y axis, in radians per second.
structure Orbit where
  radius : Float32
  speed : Float32
deriving DecidableEq

namespace ActorDefinition

-- A number among the metadata. Texts of numbers do not count here.
def measure? (d : ActorDefinition) (name : String) : Option Float32 :=
  match Json.member? name d.metadata with
  | some (.number n) => some (narrow n.toDouble)
  | _ => none

def orbitRadius (d : ActorDefinition) : Option Float32 := d.measure? "orbit_radius"

-- An orbit takes both a radius and a speed.
def orbit (d : ActorDefinition) : Option Orbit :=
  match d.orbitRadius, d.measure? "orbit_speed" with
  | some radius, some speed => some ⟨radius, speed⟩
  | _, _ => none

-- Opacity is clamped to the unit interval, and full if nothing is said.
def material (d : ActorDefinition) : Material :=
  ⟨d.color, Scalar.clamp 0 1 (d.opacity.getD 1), d.emissive⟩

-- A tilt among the metadata replaces the turn around z.
def initialTransform (d : ActorDefinition) : Transform :=
  let rotation := match d.measure? "tilt" with
    | some tilt => { d.rotation with z := tilt }
    | none => d.rotation
  { position := d.position, rotation := rotation.map radians, scale := d.scale }

def particleCount (d : ActorDefinition) : Nat :=
  match d.count with
  | some c => (Scalar.toInt .nearest 0 (Int.pow 2 32 - 1) (Scalar.max c 0)).toNat
  | none => 100

-- The geometry of the actor's kind, with the measures that are not given filled in. A kind that
-- is not known has none.
def shape? (d : ActorDefinition) : Option Shape :=
  match d.kind with
  | .sphere => some (.sphere (d.radius.getD 1))
  | .cube =>
    let width := d.width.getD 1
    some (.cube width (d.height.getD width) (d.depth.getD width))
  | .cylinder => some (.cylinder (d.radius.getD 0.5) (d.height.getD 1))
  | .plane =>
    let width := d.width.getD 1
    some (.plane width (d.height.getD width))
  | .line => some (.line d.points)
  | .particleSystem => some (.particles d.particleCount (d.radius.getD 1))
  | .text => some (.text (d.textContent.getD "") (d.fontSize.getD 1))
  | .unknown _ => none

def primitive? (d : ActorDefinition) : Option Primitive := d.shape?.map (⟨·, d.material⟩)

end ActorDefinition

namespace ActorDefinition

def fieldNames : List String :=
  ["id", "type", "radius", "height", "width", "depth", "points", "count", "text_content",
    "font_size", "color", "opacity", "emissive", "position", "rotation", "scale"]

-- One member of an actor. Only the id has to be right; everything else falls back to a default.
def readField (name : String) (n : Node) (d : ActorDefinition) : Reading ActorDefinition := do
  match name with
  | "id" => return { d with id := ← n.text }
  | "type" => return { d with kind := ((← n.optionalText).map ActorKind.ofName).getD default }
  | "radius" => return { d with radius := ← n.optionalNumber }
  | "height" => return { d with height := ← n.optionalNumber }
  | "width" => return { d with width := ← n.optionalNumber }
  | "depth" => return { d with depth := ← n.optionalNumber }
  | "points" => return { d with points := (← n.points).getD [] }
  | "count" => return { d with count := ← n.optionalNumber }
  | "text_content" => return { d with textContent := ← n.optionalText }
  | "font_size" => return { d with fontSize := ← n.optionalNumber }
  | "color" => return { d with color := (← n.color).getD .white }
  | "opacity" => return { d with opacity := ← n.optionalNumber }
  | "emissive" => return { d with emissive := ← n.color }
  | "position" => return { d with position := (← n.point).getD Vec3.zero }
  | "rotation" => return { d with rotation := (← n.point).getD Vec3.zero }
  | "scale" => return { d with scale := (← n.scale).getD Vec3.one }
  | _ => return d

-- An actor is an object. Members that it does not know become its metadata.
def recordShape : RecordShape ActorDefinition where
  name := "ActorDefinition"
  fields := fieldNames.map (·, .whole)
  required := ["id"]
  positional := false
  blank := {}
  field := readField
  other := fun name n d =>
    n.json.andThen fun j => .ok { d with metadata := Json.put name j d.metadata }

def outline : Outline := .whole

def read (n : Node) : Reading ActorDefinition := recordShape.read n

end ActorDefinition

end Diorama
