import Diorama.Session.Basic

-- What there is to say about a session before it is played: its actors, and which assignments of
-- its timeline will never do anything.

namespace Diorama

def PropertyChange.isIgnored : PropertyChange → Bool
  | .ignored => true
  | _ => false

inductive Verdict where
  | live
  -- it names no actor
  | dangling
  -- it names an actor, but nothing comes of it
  | ignored
deriving DecidableEq

namespace Check

def verdict (r : Registry) (a : Assignment) : Verdict :=
  if (r.get? a.key.actor).isNone then .dangling
  else if a.change.isIgnored then .ignored
  else .live

def assignments (d : Definition) : List Assignment := d.timeline.flatMap (·.properties)

def withVerdict (v : Verdict) (e : Session) : List Assignment :=
  (assignments e.definition).filter fun a => verdict e.registry a == v

def number (x : Float32) : String := Layout.message.writeSingle x

def headLine (d : Definition) : String :=
  d.scene.getD "animation" ++ ": " ++ number d.duration ++ "s" ++ Notice.looping d.looping

def actorLine (a : Actor) : String :=
  let orbit := match a.orbit with
    | some o => " orbit r=" ++ number o.radius ++ " speed=" ++ number o.speed
    | none => ""
  "  " ++ padRight 16 a.id ++ " " ++ padRight 16 a.kind.name ++
    (if a.isPlaceholder then " placeholder" else "") ++ orbit

def danglingLine (a : Assignment) : String := "  key '" ++ a.key.text ++ "' names no actor"

def timelineLine (e : Session) : String :=
  "timeline: " ++ toString e.definition.timeline.length ++ " events (" ++
    toString (withVerdict .dangling e).length ++ " dangling keys, " ++
    toString (withVerdict .ignored e).length ++ " ignored properties)"

def lines (e : Session) : List String :=
  [headLine e.definition, "actors (" ++ toString e.registry.size ++ "):"] ++
    e.registry.actors.map actorLine ++ (withVerdict .dangling e).map danglingLine ++
    [timelineLine e, "annotations: " ++ toString e.definition.annotations.length]

end Check

end Diorama
