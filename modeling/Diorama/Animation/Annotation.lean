import Diorama.Document.Lenient
import Diorama.Stage.Primitive

-- Annotations: texts that are shown for a while and fade in.

namespace Diorama

structure Annotation where
  text : String := ""
  time : Float32 := 0
  duration : Float32 := 3
  -- offset from the top left corner of the view, in pixels
  position : Option Vec2 := none
  -- hints for whoever shows it, sorted by name
  style : List (String × Json) := []
deriving Inhabited

namespace Annotation

-- Seconds from the first moment to full opacity.
def fadeIn : Float32 := 0.5

def window (a : Annotation) : Window Float32 := ⟨a.time, a.duration⟩

def isVisible (a : Annotation) (t : Float32) : Bool := a.window.contains t

-- A hidden annotation is hidden altogether, not merely transparent.
def viewAt (a : Annotation) (t : Float32) : AnnotationView :=
  if a.isVisible t then ⟨true, Scalar.min ((t - a.time) / fadeIn) 1⟩ else .hidden

def views (annotations : List Annotation) (t : Float32) : List AnnotationView :=
  annotations.map (·.viewAt t)

-- Members sorted by name, byte by byte; of a repeated name the last value counts.
def putSorted (name : String) (j : Json) : List (String × Json) → List (String × Json)
  | [] => [(name, j)]
  | (key, old) :: rest =>
    if name = key then (name, j) :: rest
    else if name < key then (name, j) :: (key, old) :: rest
    else (key, old) :: putSorted name j rest

def styleOfJson : Json → Except ShapeFault (List (String × Json))
  | .object members => .ok (members.foldl (fun found (name, j) => putSorted name j found) [])
  | j => .error (j.wrongType "a map")

def readField (name : String) (n : Node) (a : Annotation) : Reading Annotation := do
  match name with
  | "text" => return { a with text := ← n.text }
  | "time" => return { a with time := (← n.optionalNumber).getD 0 }
  | "duration" => return { a with duration := (← n.optionalNumber).getD 3 }
  | "position" => return { a with position := (← n.point).map fun p => ⟨p.x, p.y⟩ }
  | "style" => return { a with style := (← n.lenient fun j => .ofShape (styleOfJson j)).getD [] }
  | _ => return a

def recordShape : RecordShape Annotation where
  name := "Annotation"
  fields := [("text", .whole), ("time", .whole), ("duration", .whole), ("position", .whole),
    ("style", .whole)]
  required := ["text"]
  positional := true
  blank := {}
  field := readField
  other := RecordShape.ignoreOther

def read (n : Node) : Reading Annotation := recordShape.read n

end Annotation

end Diorama
