import Diorama.Number.Scalar

-- The clock of a playback. A fixed clock moves by the same step at every tick, however long the
-- frame took. A clock in real time moves by what the host has measured since its last tick.

namespace Diorama

inductive ClockMode where
  | fixed (step : Float32)
  | realTime
deriving DecidableEq

structure Clock where
  mode : ClockMode
  time : Float32 := 0
  -- whether there was a tick in real time since the start or the last resumption
  ticked : Bool := false
  -- seconds since that tick, as far as the host has measured them
  measured : Option Float32 := none
deriving DecidableEq

namespace Clock

def defaultStep : Float32 := 1 / 60

def longestStep : Float32 := 1

-- The longest step in real time: a host that stalls does not skip the timeline.
def longestRealStep : Float32 := 0.25

def ofMode (mode : ClockMode) : Clock := { mode }

def default : Clock := ofMode (.fixed defaultStep)

instance : Inhabited Clock := ⟨default⟩

-- Tells the clock how long the last frame took. The first tick after a start or a resumption has
-- nothing to be measured from.
def measure (seconds : Float32) (c : Clock) : Clock :=
  if c.ticked then { c with measured := some seconds } else c

-- By how much the next tick moves the clock. Where nothing was measured it is the usual step.
def nextStep (c : Clock) : Float32 :=
  match c.mode with
  | .fixed step => step
  | .realTime => Scalar.min (c.measured.getD defaultStep) longestRealStep

def advance (c : Clock) : Clock :=
  match c.mode with
  | .fixed step => { c with time := c.time + step }
  | .realTime => { c with time := c.time + c.nextStep, ticked := true, measured := none }

-- Back to zero. What the clock has gone past the end is dropped.
def reset (c : Clock) : Clock := { c with time := 0 }

def set (time : Float32) (c : Clock) : Clock := { c with time }

-- Forgets the last tick, so that a pause does not count as a step.
def resume (c : Clock) : Clock := { c with ticked := false, measured := none }

end Clock

end Diorama
