import Diorama.Playback.Clock
import Diorama.Session.Basic

-- The player decides when the session is shown. `play` asks for a frame, and every frame asks for
-- the next one as long as playback is running. `pause` only stops it from running: the frame that
-- was already asked for notices that and does nothing.

namespace Diorama

inductive PlaybackState where
  | stopped
  | playing
  | paused
deriving DecidableEq, Inhabited

inductive FrameOutcome where
  -- playback was not running
  | idle
  | rendered
  -- the clock ran past the end and started again at zero
  | looped
  -- the clock ran past the end for good
  | finished
deriving DecidableEq, Inhabited

structure Player where
  session : Session
  clock : Clock
  state : PlaybackState := .stopped
  running : Bool := false
  frameRequested : Bool := false
deriving Inhabited

namespace Player

variable {σ : Type} [Stage σ]

def ofSession (session : Session) (mode : ClockMode) : Player :=
  { session, clock := .ofMode mode }

def time (p : Player) : Float32 := p.clock.time

def measure (seconds : Float32) (p : Player) : Player := { p with clock := p.clock.measure seconds }

def play (p : Player) : Player :=
  if p.state = .playing then p
  else
    { p with
      state := .playing
      running := true
      frameRequested := true
      clock := p.clock.resume }

-- Takes effect at the next frame.
def pause (p : Player) : Player :=
  { p with state := if p.state = .playing then .paused else p.state, running := false }

def toggle (p : Player) : Player := if p.state = .playing then p.pause else p.play

-- Ends playback and winds the clock back.
def stop (p : Player) : Player :=
  { p with running := false, state := .stopped, clock := p.clock.reset }

-- What is remarked on when playback starts, is paused or changes between the two.
def playRemarks (p : Player) : List Notice :=
  if p.state = .playing then [] else [.started p.time]

def pauseRemarks (p : Player) : List Notice :=
  if p.state = .playing then [.paused p.time] else []

def toggleRemarks (p : Player) : List Notice := p.playRemarks ++ p.pauseRemarks

-- Shows the scene at a time, whether playback is running or not.
def seek (t : Float32) (p : Player) (s : σ) : Except StageFault Unit × Player × σ :=
  let (result, session, s) := p.session.evaluate t s
  (result, { p with clock := p.clock.set t, session }, s)

-- What the clock says at the next frame, and how that frame ends if nothing fails.
def nextTick (p : Player) : Clock × FrameOutcome :=
  let clock := p.clock.advance
  if p.session.duration < clock.time then
    if p.session.looping then (clock.reset, .looped) else (clock, .finished)
  else (clock, .rendered)

-- One frame. A frame that fails asks for no other one.
def frame (p : Player) (s : σ) : Except StageFault FrameOutcome × Player × σ :=
  let p := { p with frameRequested := false }
  if !p.running then (.ok .idle, p, s)
  else
    let (clock, outcome) := p.nextTick
    let p := { p with clock }
    if outcome = .finished then
      (.ok .finished, { p with running := false, state := .paused }, s)
    else
      let (result, session, s) := p.session.evaluate clock.time s
      let p := { p with session }
      match result with
      | .error fault => (.error fault, p, s)
      | .ok () => (.ok outcome, { p with frameRequested := p.running }, s)

def frameRemarks (p : Player) : List Notice :=
  if !p.running then []
  else
    let (clock, outcome) := p.nextTick
    if outcome = .finished then [.ended] else p.session.remarks clock.time

-- Frames one after the other until none is asked for or there have been enough; how many there
-- were.
def run : Nat → Player → σ → Except StageFault Nat × Player × σ
  | 0, p, s => (.ok 0, p, s)
  | limit + 1, p, s =>
    if !p.frameRequested then (.ok 0, p, s)
    else
      match p.frame s with
      | (.error fault, p, s) => (.error fault, p, s)
      | (.ok _, p, s) =>
        let (result, p, s) := run limit p s
        (result.map (· + 1), p, s)

def runRemarks : Nat → Player → σ → List Notice
  | 0, _, _ => []
  | limit + 1, p, s =>
    if !p.frameRequested then []
    else
      match p.frame s with
      | (.error _, _, _) => p.frameRemarks
      | (.ok _, next, s) => p.frameRemarks ++ runRemarks limit next s

end Player

end Diorama
