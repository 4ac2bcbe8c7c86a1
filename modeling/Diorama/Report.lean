import Diorama.Json.Sheet
import Diorama.Playback.Config
import Diorama.Session.Basic
import Diorama.Stage.Recorder

-- Reports: how what a session shows and what a stage was told is written down as a document.
-- Numbers that are not finite are written as `null`.

namespace Diorama

def Vec3.sheet (v : Vec3) : Sheet := .list [.single v.x, .single v.y, .single v.z]

def Color.sheet : Color → Sheet
  | .named name => .string name.name
  | .rgb r g b => .record [("r", .nat r.toNat), ("g", .nat g.toNat), ("b", .nat b.toNat)]

def Material.sheet (m : Material) : Sheet :=
  let emissive := match m.emissive with
    | some color => [("emissive", color.sheet)]
    | none => []
  .record ([("color", m.color.sheet), ("opacity", .single m.opacity)] ++ emissive)

namespace Shape

def kind : Shape → String
  | .sphere _ => "sphere"
  | .cube _ _ _ => "cube"
  | .cylinder _ _ => "cylinder"
  | .plane _ _ => "plane"
  | .line _ => "line"
  | .particles _ _ => "particles"
  | .text _ _ => "text"

def measures : Shape → List (String × Sheet)
  | .sphere radius => [("radius", .single radius)]
  | .cube width height depth =>
    [("width", .single width), ("height", .single height), ("depth", .single depth)]
  | .cylinder radius height => [("radius", .single radius), ("height", .single height)]
  | .plane width height => [("width", .single width), ("height", .single height)]
  | .line points => [("points", .list (points.map Vec3.sheet))]
  | .particles count spread => [("count", .nat count), ("spread", .single spread)]
  | .text content fontSize => [("content", .string content), ("font_size", .single fontSize)]

def sheet (s : Shape) : Sheet := .record (("kind", .string s.kind) :: s.measures)

end Shape

def Primitive.sheet (p : Primitive) : Sheet :=
  .record [("shape", p.shape.sheet), ("material", p.material.sheet)]

def Handle.sheet (h : Handle) : Sheet := .nat h.number

def Transform.sheet (tf : Transform) : Sheet :=
  .record [("position", tf.position.sheet), ("rotation", tf.rotation.sheet),
    ("scale", tf.scale.sheet)]

def CameraState.sheet (c : CameraState) : Sheet :=
  .record [("position", c.position.sheet), ("target", c.target.sheet),
    ("fov_degrees", .single c.fovDegrees)]

def AnnotationView.sheet (v : AnnotationView) : Sheet :=
  .record [("visible", .bool v.visible), ("opacity", .single v.opacity)]

namespace Entry

def request : Entry → Request
  | .createPrimitive _ _ => .createPrimitive
  | .setTransform _ _ => .setTransform
  | .destroyPrimitive _ => .destroyPrimitive
  | .setCamera _ => .setCamera
  | .createOverlay _ _ => .createOverlay
  | .updateOverlay _ _ => .updateOverlay
  | .renderFrame => .renderFrame

def details : Entry → List (String × Sheet)
  | .createPrimitive handle primitive => [("handle", handle.sheet), ("spec", primitive.sheet)]
  | .setTransform handle transform => [("handle", handle.sheet), ("transform", transform.sheet)]
  | .destroyPrimitive handle => [("handle", handle.sheet)]
  | .setCamera camera => [("camera", camera.sheet)]
  | .createOverlay index text => [("index", .nat index), ("text", .string text)]
  | .updateOverlay index view => [("index", .nat index), ("view", view.sheet)]
  | .renderFrame => []

def sheet (e : Entry) : Sheet := .record (("call", .string e.request.name) :: e.details)

end Entry

namespace Snapshot

def actorSheet (actor : String × Transform) : Sheet :=
  .record [("id", .string actor.1), ("transform", actor.2.sheet)]

def sheet (s : Snapshot) : Sheet :=
  .record [("time", .single s.time), ("actors", .list (s.actors.map actorSheet)),
    ("camera", s.camera.sheet), ("annotations", .list (s.annotations.map AnnotationView.sheet))]

end Snapshot

def KeyBindings.sheet (b : KeyBindings) : Sheet :=
  .record [("toggle_pause", .string b.togglePause), ("restart", .string b.restart),
    ("quit", .string b.quit)]

def PlayerConfig.sheet (c : PlayerConfig) : Sheet :=
  .record [("frame_step", .single c.frameStep), ("realtime", .bool c.realTime),
    ("world_units_per_cell", .single c.unitsPerCell), ("key_bindings", c.bindings.sheet)]

end Diorama
