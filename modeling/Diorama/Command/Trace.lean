import Diorama.Playback.Player

-- Traces: what a playback from the start shows, frame by frame.

namespace Diorama

-- The frames that were shown, also when the stage failed after them.
structure Trace (σ : Type) where
  snapshots : Array Snapshot
  result : Except StageFault Unit
  stage : σ

namespace Trace

variable {σ : Type} [Stage σ]

-- Further frames, so many at most, behind those that were shown before. The end of an animation
-- shows nothing new.
def further (shown : Array Snapshot) : Nat → Player → σ → Trace σ
  | 0, _, s => ⟨shown, .ok (), s⟩
  | limit + 1, p, s =>
    if !p.frameRequested then ⟨shown, .ok (), s⟩
    else
      match p.frame s with
      | (.error fault, _, s) => ⟨shown, .error fault, s⟩
      | (.ok .finished, _, s) => ⟨shown, .ok (), s⟩
      | (.ok _, p, s) => further (shown.push p.session.snapshot) limit p s

-- The frame at time zero is always shown, and counts.
def ofSession (count : Nat) (step : Float32) (e : Session) (s : σ) : Trace σ :=
  match (Player.ofSession e (.fixed step)).seek 0 s with
  | (.error fault, _, s) => ⟨#[], .error fault, s⟩
  | (.ok (), p, s) => further #[p.session.snapshot] (count - 1) p.play s

-- How many frames a trace has that is not told: one for each step up to the end, and the first.
-- Counts have 64 bits. The number of steps is cut to what they hold, and where the first frame does
-- not fit beside it there is no count.
def defaultCount? (duration step : Float32) : Option Nat :=
  let steps := (Scalar.toInt .up 0 (Int.pow 2 64 - 1) (duration / step)).toNat
  if steps + 1 < Nat.pow 2 64 then some (steps + 1) else none

end Trace

end Diorama
