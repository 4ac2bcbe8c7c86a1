import Diorama.Document.Lenient

-- Timed changes: events with a window of time, an easing and what they assign to which property.

namespace Diorama

-- What becomes of a property over the window of an event.
inductive PropertyChange where
  -- the angle on a circle around the y axis, in degrees
  | orbit (degrees : Float32)
  -- the turn around the y axis, in degrees
  | rotation (degrees : Float32)
  -- a place, reached from the origin
  | position (target : Vec3)
  -- a property that does not exist, or a value that makes no sense
  | ignored
deriving DecidableEq, Inhabited

structure Assignment where
  key : PropertyKey
  change : PropertyChange
deriving DecidableEq, Inhabited

namespace PropertyChange

def degrees? : Json → Option Float32
  | .number n => some (narrow n.toDouble)
  | _ => none

-- What a value means for a property, if it means anything.
def ofValue? (property : String) (j : Json) : Option PropertyChange :=
  if property = "orbit" then (degrees? j).map .orbit
  else if property = "rotation" then (degrees? j).map .rotation
  else if property = "position" then (Vec3.pointOfJson j).toOption.map .position
  else none

def isSupported (property : String) : Bool :=
  property == "orbit" || property == "rotation" || property == "position"

end PropertyChange

-- An assignment is made whatever the value is; one without a meaning is remarked on.
def Assignment.ofValue (key : PropertyKey) (j : Json) : Reading Assignment :=
  if PropertyChange.isSupported key.property then
    match PropertyChange.ofValue? key.property j with
    | some change => .ok ⟨key, change⟩
    | none => ⟨[.malformedProperty j key], .ok ⟨key, .ignored⟩⟩
  else ⟨[.unsupportedProperty key], .ok ⟨key, .ignored⟩⟩

-- An assignment as a list spells it, its parts apart.
structure Assignment.Parts where
  actor : String := ""
  property : String := ""
  value : Json := .null
deriving Inhabited

namespace Assignment

def Parts.readField (name : String) (n : Node) (p : Parts) : Reading Parts := do
  match name with
  | "actor" => return { p with actor := ← n.text }
  | "property" => return { p with property := ← n.text }
  | "value" => return { p with value := ← n.json }
  | _ => return p

def Parts.recordShape : RecordShape Parts where
  name := "StructuredAssignment"
  fields := [("actor", .whole), ("property", .whole), ("value", .whole)]
  required := ["actor", "property"]
  positional := true
  blank := {}
  field := readField
  other := RecordShape.ignoreOther

-- From a list: every item has to name an actor and a property.
def ofItem (n : Node) : Reading Assignment :=
  (Parts.recordShape.read n).andThen fun p => ofValue ⟨p.actor, p.property⟩ p.value

-- From an object: a member whose name is no key is left out, with a remark.
def ofMembers : Members → Reading (List Assignment)
  | .close _ => .ok []
  | .broken m => .fail m.toDocumentFault
  | .member name _ n rest =>
    n.json.andThen fun j =>
      match PropertyKey.parse? name with
      | some key =>
        (ofValue key j).andThen fun a => (ofMembers rest).andThen fun l => .ok (a :: l)
      | none => (Reading.remark (.malformedKey name)).andThen fun _ => ofMembers rest
termination_by structural members => members

-- The items of a list are read one by one, each completely before the next.
def ofItems : Items → Reading (List Assignment) := Node.itemsOf ofItem

-- The properties of an event, in either spelling; `null` for none.
def readAll : Node → Reading (List Assignment)
  | .null _ => .ok []
  | .object _ members => ofMembers members
  | .array _ items => ofItems items
  | n =>
    n.wrongType "a property map or a list of \x7bactor, property, value\x7d objects"

end Assignment

structure TimelineEvent where
  time : Float32 := 0
  duration : Float32 := 1
  easing : Easing := .linear
  properties : List Assignment := []
deriving Inhabited

namespace TimelineEvent

def window (e : TimelineEvent) : Window Float32 := ⟨e.time, e.duration⟩

def isActive (e : TimelineEvent) (t : Float32) : Bool := e.window.contains t

def progress (e : TimelineEvent) (t : Float32) : Float32 := e.window.progress t

def eased (e : TimelineEvent) (t : Float32) : Float32 := e.easing.apply (e.progress t)

def readField (name : String) (n : Node) (e : TimelineEvent) : Reading TimelineEvent := do
  match name with
  | "time" => return { e with time := (← n.optionalNumber).getD 0 }
  | "duration" => return { e with duration := (← n.optionalNumber).getD 1 }
  | "easing" => return { e with easing := (← n.easing).getD .linear }
  | "properties" => return { e with properties := ← Assignment.readAll n }
  | _ => return e

def recordShape : RecordShape TimelineEvent where
  name := "TimelineEvent"
  fields := [("time", .whole), ("duration", .whole), ("easing", .whole),
    ("properties", .list Assignment.Parts.recordShape.outline)]
  required := []
  positional := true
  blank := {}
  field := readField
  other := RecordShape.ignoreOther

def read (n : Node) : Reading TimelineEvent := recordShape.read n

end TimelineEvent

end Diorama
