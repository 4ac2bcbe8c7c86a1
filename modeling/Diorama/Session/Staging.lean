import Diorama.Session.Registry

-- Staging a frame: where everything is to stand at a time. The timeline writes first and the
-- orbits of the actors after it, and what is written later counts.

namespace Diorama

-- The radius of an orbit on the timeline for an actor that has none of its own.
def defaultOrbitRadius : Float32 := 3

-- A place on a circle around the y axis; the height stays.
def Transform.onCircle (tf : Transform) (angle radius : Float32) : Transform :=
  { tf with position := { tf.position with
      x := angle.cos * radius
      z := angle.sin * radius } }

-- The change of a property, as far as it has come.
def PropertyChange.apply (change : PropertyChange) (eased orbitRadius : Float32) (tf : Transform) :
    Transform :=
  match change with
  | .orbit degrees => tf.onCircle (radians (degrees * eased)) orbitRadius
  | .rotation degrees => { tf with rotation := { tf.rotation with y := radians (degrees * eased) } }
  | .position target =>
    { tf with
      position := target.scale eased
      height := .product target.y eased
      height_eq := rfl }
  | .ignored => tf

namespace Registry

-- One assignment of an event that has come as far as `eased`.
def stageAssignment (r : Registry) (eased : Float32) (staged : List Transform) (a : Assignment) :
    List Transform :=
  match r.indexOf a.key.actor with
  | none => staged
  | some index =>
    let radius := ((r.at? index).bind (·.orbitRadius)).getD defaultOrbitRadius
    staged.modify index (a.change.apply eased radius)

def stageEvent (r : Registry) (t : Float32) (staged : List Transform) (e : TimelineEvent) :
    List Transform :=
  e.properties.foldl (r.stageAssignment (e.eased t)) staged

def stageTimeline (r : Registry) (events : List TimelineEvent) (t : Float32)
    (staged : List Transform) : List Transform :=
  (events.filter (·.isActive t)).foldl (r.stageEvent t) staged

def stageOrbit (t : Float32) (a : Actor) (tf : Transform) : Transform :=
  match a.orbit with
  | some orbit => tf.onCircle (t * orbit.speed) orbit.radius
  | none => tf

def stageOrbits : List Actor → Float32 → List Transform → List Transform
  | a :: actors, t, tf :: staged => stageOrbit t a tf :: stageOrbits actors t staged
  | _, _, staged => staged

def stageMotion (r : Registry) (t : Float32) (staged : List Transform) : List Transform :=
  stageOrbits r.actors t staged

-- The keys on the timeline that are active at the time and name no actor.
def danglingKeys (r : Registry) (events : List TimelineEvent) (t : Float32) : List PropertyKey :=
  ((events.filter (·.isActive t)).flatMap (·.properties)).filterMap fun a =>
    if (r.indexOf a.key.actor).isNone then some a.key else none

end Registry

end Diorama
