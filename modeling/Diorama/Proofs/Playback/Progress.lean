import Diorama.Playback.Player
import Diorama.Stage.Recorder

namespace Diorama.Player

variable {σ : Type} [Stage σ]

-- What a frame can come to: it is out of turn, it finds the end, or it shows the scene at the time
-- of the next tick, which may fail.
inductive Framed (p : Player) (s : σ) : Except StageFault FrameOutcome × Player × σ → Prop where
  | idle (hrunning : p.running = false) :
      Framed p s (.ok .idle, { p with frameRequested := false }, s)
  | finished (hrunning : p.running = true) (hend : p.nextTick.2 = .finished) :
      Framed p s
        (.ok .finished,
          { p with
            clock := p.nextTick.1
            frameRequested := false
            running := false
            state := .paused },
          s)
  | shown (hrunning : p.running = true) (hend : p.nextTick.2 ≠ .finished) {session : Session} {s' : σ}
      (heval : p.session.evaluate p.nextTick.1.time s = (.ok (), session, s')) :
      Framed p s
        (.ok p.nextTick.2, { p with clock := p.nextTick.1, session, frameRequested := true }, s')
  | failed (hrunning : p.running = true) (hend : p.nextTick.2 ≠ .finished) {fault : StageFault}
      {session : Session} {s' : σ}
      (heval : p.session.evaluate p.nextTick.1.time s = (.error fault, session, s')) :
      Framed p s
        (.error fault, { p with clock := p.nextTick.1, session, frameRequested := false }, s')

theorem nextTick_ne_idle (p : Player) : p.nextTick.2 ≠ .idle := by
  simp only [nextTick]
  split
  · split <;> simp
  · simp

theorem framed (p : Player) (s : σ) : p.Framed s (p.frame s) := by
  have htick : ({ p with frameRequested := false } : Player).nextTick = p.nextTick := rfl
  cases hrunning : p.running with
  | false =>
      have hframe : p.frame s = (.ok .idle, { p with frameRequested := false }, s) := by
        simp [frame, hrunning]
      exact hframe ▸ .idle hrunning
  | true =>
      by_cases hend : p.nextTick.2 = .finished
      · have hframe : p.frame s = (.ok .finished,
            { p with
              clock := p.nextTick.1
              frameRequested := false
              running := false
              state := .paused }, s) := by
          simp only [frame, htick]
          simp [hrunning, hend]
        exact hframe ▸ .finished hrunning hend
      · rcases heval : p.session.evaluate p.nextTick.1.time s with ⟨_ | _, session, s'⟩
        · rename_i fault
          have hframe : p.frame s = (.error fault,
              { p with clock := p.nextTick.1, session, frameRequested := false }, s') := by
            simp only [frame, htick]
            simp [hrunning, hend, heval]
          exact hframe ▸ .failed hrunning hend heval
        · have hframe : p.frame s = (.ok p.nextTick.2,
              { p with clock := p.nextTick.1, session, frameRequested := true }, s') := by
            simp only [frame, htick]
            simp [hrunning, hend, heval]
          exact hframe ▸ .shown hrunning hend heval

-- What the host measures counts only when the clock moves on.
theorem measure_time (p : Player) (seconds : Float32) : (p.measure seconds).time = p.time := by
  simp only [time, measure, Clock.measure]
  split <;> rfl

theorem measure_mode (p : Player) (seconds : Float32) :
    (p.measure seconds).clock.mode = p.clock.mode := by
  simp only [measure, Clock.measure]
  split <;> rfl

-- What can be done with a player.
inductive Operation where
  | play
  | pause
  | toggle
  | stop
  | seek (t : Float32)
  | frame
  | run (limit : Nat)
  -- the host tells how long the last frame took
  | measure (seconds : Float32)

-- A player between two operations, with the stage that it plays on. It is held up from a frame that
-- failed on, until playback is halted or a later frame succeeds.
structure Life (σ : Type) where
  player : Player
  stage : σ
  heldUp : Bool := false

namespace Life

def step (l : Life σ) : Operation → Life σ
  | .play => { l with player := l.player.play }
  | .pause => { l with player := l.player.pause, heldUp := false }
  | .toggle => { l with player := l.player.toggle, heldUp := false }
  | .stop => { l with player := l.player.stop, heldUp := false }
  | .seek t =>
    let (_, player, stage) := l.player.seek t l.stage
    { l with player, stage }
  | .frame =>
    let (result, player, stage) := l.player.frame l.stage
    { player, stage, heldUp := !result.isOk }
  | .run limit =>
    let (result, player, stage) := l.player.run limit l.stage
    { player, stage, heldUp := l.heldUp || !result.isOk }
  | .measure seconds => { l with player := l.player.measure seconds }

def run (operations : List Operation) (l : Life σ) : Life σ := operations.foldl step l

end Life

-- The three fields of playback agree. While it goes on, a frame is asked for unless the player is
-- held up.
structure InStep (p : Player) (heldUp : Bool) : Prop where
  running_iff : p.running = true ↔ p.state = .playing
  requested : p.state = .playing → p.frameRequested = !heldUp
  playing : heldUp = true → p.state = .playing

-- Only the three fields of playback count.
theorem InStep.congr {p q : Player} {heldUp : Bool} (h : p.InStep heldUp)
    (hrunning : q.running = p.running) (hstate : q.state = p.state)
    (hrequested : q.frameRequested = p.frameRequested) : q.InStep heldUp := by
  constructor
  · rw [hrunning, hstate]
    exact h.running_iff
  · rw [hrequested, hstate]
    exact h.requested
  · rw [hstate]
    exact h.playing

-- Only playback can be held up.
theorem InStep.heldUp_eq_false {p : Player} {heldUp : Bool} (h : p.InStep heldUp)
    (hp : p.state ≠ .playing) : heldUp = false :=
  Bool.eq_false_iff.mpr fun hheld => hp (h.playing hheld)

theorem InStep.play {p : Player} {heldUp : Bool} (h : p.InStep heldUp) : p.play.InStep heldUp := by
  by_cases hp : p.state = .playing
  · rwa [Player.play, if_pos hp]
  · rw [Player.play, if_neg hp, h.heldUp_eq_false hp]
    exact ⟨by simp, by simp, by simp⟩

theorem InStep.pause (p : Player) : p.pause.InStep false := by
  have hstate : p.pause.state ≠ .playing := by
    by_cases hp : p.state = .playing <;> simp [Player.pause, hp]
  refine ⟨iff_of_false ?_ hstate, fun hp => absurd hp hstate, by simp⟩
  simp [Player.pause]

theorem InStep.toggle {p : Player} {heldUp : Bool} (h : p.InStep heldUp) :
    p.toggle.InStep false := by
  by_cases hp : p.state = .playing
  · rw [Player.toggle, if_pos hp]
    exact InStep.pause p
  · have hfree := h.heldUp_eq_false hp
    rw [Player.toggle, if_neg hp]
    exact hfree ▸ h.play

theorem InStep.stop (p : Player) : p.stop.InStep false := by
  refine ⟨?_, ?_, ?_⟩ <;> simp [Player.stop]

theorem InStep.frame {p : Player} {heldUp : Bool} (h : p.InStep heldUp) (s : σ) :
    (p.frame s).2.1.InStep (!(p.frame s).1.isOk) := by
  have hframed := p.framed s
  generalize p.frame s = framed at hframed
  cases hframed with
  | idle hrunning =>
      have hstate : p.state ≠ .playing := fun hp => by simp [h.running_iff.mpr hp] at hrunning
      exact ⟨h.running_iff, fun hp => absurd hp hstate, by simp [Except.isOk, Except.toBool]⟩
  | finished hrunning hend => exact ⟨by simp, by simp, by simp [Except.isOk, Except.toBool]⟩
  | shown hrunning hend heval =>
      exact ⟨h.running_iff, by simp [Except.isOk, Except.toBool],
        by simp [Except.isOk, Except.toBool]⟩
  | failed hrunning hend heval =>
      exact ⟨h.running_iff, by simp [Except.isOk, Except.toBool], fun _ => h.running_iff.mp hrunning⟩

-- Frames are only run while one is asked for, so that a player that is held up stays as it is.
theorem InStep.run {p : Player} {heldUp : Bool} (h : p.InStep heldUp) (limit : Nat) (s : σ) :
    (p.run limit s).2.1.InStep (heldUp || !(p.run limit s).1.isOk) := by
  induction limit generalizing p heldUp s with
  | zero => simpa [Player.run, Except.isOk, Except.toBool] using h
  | succ limit ih =>
      cases hrequested : p.frameRequested with
      | false => simpa [Player.run, hrequested, Except.isOk, Except.toBool] using h
      | true =>
          have hfree : heldUp = false := by
            cases heldUp with
            | false => rfl
            | true => simp [h.requested (h.playing rfl)] at hrequested
          have hframe := h.frame s
          rcases hf : p.frame s with ⟨_ | _, next, s'⟩
          · simpa [Player.run, hrequested, hf, hfree, Except.isOk, Except.toBool] using hframe
          · rw [hf] at hframe
            have hrest := ih hframe s'
            rcases hr : next.run limit s' with ⟨_ | _, last, s''⟩ <;> rw [hr] at hrest <;>
              simpa [Player.run, hrequested, hf, hr, hfree, Except.isOk, Except.toBool,
                Except.map] using hrest

theorem Life.step_inStep {l : Life σ} (h : l.player.InStep l.heldUp) (operation : Operation) :
    (l.step operation).player.InStep (l.step operation).heldUp := by
  cases operation with
  | play => exact h.play
  | pause => exact InStep.pause l.player
  | toggle => exact h.toggle
  | stop => exact InStep.stop l.player
  | seek t => exact h.congr rfl rfl rfl
  | frame => exact h.frame l.stage
  | run limit => exact h.run limit l.stage
  | measure seconds => exact h.congr rfl rfl rfl

theorem Life.run_inStep (operations : List Operation) {l : Life σ}
    (h : l.player.InStep l.heldUp) : (l.run operations).player.InStep (l.run operations).heldUp := by
  induction operations generalizing l with
  | nil => exact h
  | cons operation rest ih => exact ih (Life.step_inStep h operation)

theorem ofSession_inStep (session : Session) (mode : ClockMode) :
    (ofSession session mode).InStep false := by
  refine ⟨?_, ?_, ?_⟩ <;> simp [ofSession]

-- Playback that waits for a frame nobody asked for.
def IsStuck (p : Player) : Prop := p.state = .playing ∧ p.frameRequested = false

theorem InStep.isStuck_iff {p : Player} {heldUp : Bool} (h : p.InStep heldUp) :
    p.IsStuck ↔ heldUp = true := by
  constructor
  · rintro ⟨hstate, hrequested⟩
    simpa [h.requested hstate] using hrequested
  · intro hheld
    have hstate := h.playing hheld
    exact ⟨hstate, by simp [h.requested hstate, hheld]⟩

theorem IsStuck.play {p : Player} (h : p.IsStuck) : p.play = p := if_pos h.1

theorem IsStuck.run {p : Player} (h : p.IsStuck) (limit : Nat) (s : σ) :
    p.run limit s = (.ok 0, p, s) := by
  cases limit with
  | zero => rfl
  | succ limit => simp [Player.run, h.2]

-- Whatever is done with a player, on a stage that may fail at any point: it runs exactly while it
-- says that it plays. While it plays a frame is pending, except from a frame that failed on, until
-- playback is halted or a later frame succeeds. There neither `play` nor a run gets it going.
theorem pending_iff_not_heldUp (session : Session) (mode : ClockMode) (operations : List Operation)
    (s : σ) :
    let l := ({ player := .ofSession session mode, stage := s } : Life σ).run operations
    (l.player.running = true ↔ l.player.state = .playing) ∧
      ((l.player.state = .playing → l.player.frameRequested = true) ↔ l.heldUp = false) ∧
      (l.heldUp = true → l.player.state = .playing ∧ l.player.play = l.player ∧
        ∀ limit, l.player.run limit l.stage = (.ok 0, l.player, l.stage)) := by
  intro l
  have h : l.player.InStep l.heldUp := Life.run_inStep operations (ofSession_inStep session mode)
  refine ⟨h.running_iff, ?_, fun hheld => ?_⟩
  · have hstuck := h.isStuck_iff
    cases hheld : l.heldUp with
    | false => simpa [hheld] using h.requested
    | true =>
        obtain ⟨hstate, hrequested⟩ := hstuck.mpr hheld
        simp [hstate, hrequested]
  · have hstuck := h.isStuck_iff.mpr hheld
    exact ⟨hstuck.1, hstuck.play, fun limit => hstuck.run limit l.stage⟩

-- The first frame cannot be drawn: the player says that it plays, and nothing is pending.
theorem refused_frame_stalls :
    let s : RefusingStage Recorder :=
      { inner := .fresh, plan := fun request n => request == .renderFrame && n == 0 }
    let loaded := Session.load {} s
    ∃ session, loaded.result = .ok session ∧
      let l := ({ player := .ofSession session (.fixed 1), stage := loaded.stage } :
        Life (RefusingStage Recorder)).run [.play, .frame]
      l.heldUp = true ∧ l.player.state = .playing ∧ l.player.running = true ∧
        l.player.frameRequested = false ∧ (l.step .play).player.frameRequested = false :=
  ⟨_, rfl, by decide, by decide, by decide, by decide, by decide⟩

end Diorama.Player
