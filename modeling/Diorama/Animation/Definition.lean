import Diorama.Animation.Actor
import Diorama.Animation.Timeline
import Diorama.Animation.Annotation

-- The definition of an animation: what exists and when it changes. Reading one is lenient. Only
-- its overall shape has to be right; a value that makes no sense gives way to a default.

namespace Diorama

structure CameraDefinition where
  position : Vec3 := ⟨0, 0, 10⟩
  target : Vec3 := Vec3.zero
  fov : Float32 := 75
  -- the actor that the camera keeps looking at
  followActor : Option String := none
deriving Inhabited

namespace CameraDefinition

def readField (name : String) (n : Node) (c : CameraDefinition) : Reading CameraDefinition := do
  match name with
  | "position" => return { c with position := (← n.point).getD ⟨0, 0, 10⟩ }
  | "target" => return { c with target := (← n.point).getD Vec3.zero }
  | "fov" => return { c with fov := (← n.optionalNumber).getD 75 }
  | "follow_actor" => return { c with followActor := ← n.optionalText }
  | _ => return c

def recordShape : RecordShape CameraDefinition where
  name := "CameraDefinition"
  fields := [("position", .whole), ("target", .whole), ("fov", .whole), ("follow_actor", .whole)]
  required := []
  positional := true
  blank := {}
  field := readField
  other := RecordShape.ignoreOther

def read (n : Node) : Reading CameraDefinition := recordShape.read n

def readOptional : Node → Reading (Option CameraDefinition)
  | .null _ => .ok none
  | n => (read n).andThen fun c => .ok (some c)

end CameraDefinition

structure Definition where
  -- what the scene is called; nothing depends on it
  scene : Option String := none
  duration : Float32 := 10
  looping : Bool := true
  actors : List ActorDefinition := []
  camera : Option CameraDefinition := none
  timeline : List TimelineEvent := []
  annotations : List Annotation := []
deriving Inhabited

namespace Definition

def defaultDuration : Float32 := 10

def readField (name : String) (n : Node) (d : Definition) : Reading Definition := do
  match name with
  | "scene" => return { d with scene := ← n.optionalText }
  | "duration" => return { d with duration := (← n.optionalNumber).getD defaultDuration }
  | "loop" => return { d with looping := (← n.optionalBool).getD true }
  | "actors" => return { d with actors := ← n.list ActorDefinition.read }
  | "camera" => return { d with camera := ← CameraDefinition.readOptional n }
  | "timeline" => return { d with timeline := ← n.list TimelineEvent.read }
  | "annotations" => return { d with annotations := ← n.list Annotation.read }
  | _ => return d

def recordShape : RecordShape Definition where
  name := "AnimationDefinition"
  fields := [("scene", .whole), ("duration", .whole), ("loop", .whole),
    ("actors", .list ActorDefinition.outline), ("camera", CameraDefinition.recordShape.outline),
    ("timeline", .list TimelineEvent.recordShape.outline),
    ("annotations", .list Annotation.recordShape.outline)]
  required := []
  positional := true
  blank := {}
  field := readField
  other := RecordShape.ignoreOther

-- A definition as it is written, with whatever duration it gives.
def read (n : Node) : Reading Definition := recordShape.read n

-- A duration that no playback could have gives way to the default.
def sanitize (d : Definition) : Reading Definition :=
  if d.duration.isFinite && !decide (d.duration < 0) then .ok d
  else
    ⟨[.invalidDuration d.duration defaultDuration], .ok { d with duration := defaultDuration }⟩

-- The name of the member that holds the definition in an answer that wraps it.
def envelopeMember : String := "animation_instructions"

-- The definition in a value that was read from a text: the value itself, or what the envelope
-- holds. Inside an envelope nothing has a place any more.
def ofDraft (draft : Json.Draft) : Reading Definition :=
  (Reading.ofText draft.value).andThen fun j =>
    let inner := match j with
      | .object members => Json.member? envelopeMember members
      | _ => none
    match inner with
    | some j => (read j.node).andThen sanitize
    | none => (read draft.root).andThen sanitize

def ofText (text : String) : Reading Definition := ofDraft (Json.readText .whole text)

end Definition

end Diorama
