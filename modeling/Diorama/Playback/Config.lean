import Diorama.Document.Reading
import Diorama.Playback.Clock

-- How the player is set up: the step of its clock, the scale of its picture and its keys. A
-- document that is wrong anywhere counts for nothing, and a number that makes no sense gives way to
-- the usual one.

namespace Diorama

namespace Node

-- A number that has to be there, rounded once.
def strictNumber : Node → Reading Float32
  | .number n _ => .ok n.toSingle
  | n => n.wrongType "f32"

def strictBool : Node → Reading Bool
  | .bool b _ => .ok b
  | n => n.wrongType "a boolean"

end Node

-- The names of the keys that a player listens to.
structure KeyBindings where
  togglePause : String := "Space"
  restart : String := "r"
  quit : String := "q"
deriving DecidableEq, Inhabited

namespace KeyBindings

def readField (name : String) (n : Node) (b : KeyBindings) : Reading KeyBindings := do
  match name with
  | "toggle_pause" => return { b with togglePause := ← n.text }
  | "restart" => return { b with restart := ← n.text }
  | "quit" => return { b with quit := ← n.text }
  | _ => return b

def recordShape : RecordShape KeyBindings where
  name := "KeyBindings"
  fields := [("toggle_pause", .whole), ("restart", .whole), ("quit", .whole)]
  required := []
  positional := true
  blank := {}
  field := readField
  other := RecordShape.ignoreOther

end KeyBindings

structure PlayerConfig where
  -- seconds that a fixed clock moves at every tick
  frameStep : Float32 := Clock.defaultStep
  -- whether the clock goes by measured time instead
  realTime : Bool := false
  -- how much of the world a row of the terminal covers
  unitsPerCell : Float32 := 0.5
  bindings : KeyBindings := {}
deriving DecidableEq, Inhabited

namespace PlayerConfig

def readField (name : String) (n : Node) (c : PlayerConfig) : Reading PlayerConfig := do
  match name with
  | "frame_step" => return { c with frameStep := ← n.strictNumber }
  | "realtime" => return { c with realTime := ← n.strictBool }
  | "world_units_per_cell" => return { c with unitsPerCell := ← n.strictNumber }
  | "key_bindings" => return { c with bindings := ← KeyBindings.recordShape.read n }
  | _ => return c

def recordShape : RecordShape PlayerConfig where
  name := "PlayerConfig"
  fields := [("frame_step", .whole), ("realtime", .whole), ("world_units_per_cell", .whole),
    ("key_bindings", KeyBindings.recordShape.outline)]
  required := []
  positional := true
  blank := {}
  field := readField
  other := RecordShape.ignoreOther

def isPositive (x : Float32) : Bool := x.isFinite && decide (0 < x)

-- A step that lets time go on, and not too fast. The remark says what was wrong with the step.
def sanitizeStep (step : Float32) : List Notice × Float32 :=
  if !isPositive step then ([.invalidStep step Clock.defaultStep], Clock.defaultStep)
  else if Clock.longestStep < step then ([.largeStep step Clock.longestStep], Clock.longestStep)
  else ([], step)

def sanitize (c : PlayerConfig) : List Notice × PlayerConfig :=
  let (notices, frameStep) := sanitizeStep c.frameStep
  let unitsPerCell := if isPositive c.unitsPerCell then c.unitsPerCell else 0.5
  (notices, { c with frameStep, unitsPerCell })

def ofText (text : String) : List Notice × PlayerConfig :=
  match (Reading.document recordShape.outline recordShape.read text).result with
  | .ok c => sanitize c
  | .error fault => ([.invalidConfig fault], {})

def clockMode (c : PlayerConfig) : ClockMode :=
  if c.realTime then .realTime else .fixed c.frameStep

end PlayerConfig

end Diorama
