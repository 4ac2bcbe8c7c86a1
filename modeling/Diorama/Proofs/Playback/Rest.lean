import Mathlib.Algebra.GroupWithZero.Nat
import Diorama.Proofs.Playback.Progress
import Diorama.Proofs.Stage.Watching

namespace Diorama.Player

variable {σ : Type} [Stage σ]

-- What a host can do with a player that is at rest and have it stay there.
def Operation.isQuiet : Operation → Bool
  | .play | .toggle | .seek _ => false
  | .pause | .stop | .frame | .run _ | .measure _ => true

namespace Life

-- What a frame or a run answers.
def outcome? (l : Life σ) : Operation → Option (Except StageFault FrameOutcome)
  | .frame => some (l.player.frame l.stage).1
  | _ => none

def count? (l : Life σ) : Operation → Option (Except StageFault Nat)
  | .run limit => some (l.player.run limit l.stage).1
  | _ => none

-- The answers to operations that are done one after the other, where there are any.
def answers {α : Type} (answer? : Life σ → Operation → Option α) : List Operation → Life σ → List α
  | [], _ => []
  | operation :: rest, l => (answer? l operation).toList ++ answers answer? rest (l.step operation)

theorem run_append (operations rest : List Operation) (l : Life σ) :
    l.run (operations ++ rest) = (l.run operations).run rest := List.foldl_append

theorem answers_append {α : Type} (answer? : Life σ → Operation → Option α)
    (operations rest : List Operation) (l : Life σ) :
    answers answer? (operations ++ rest) l =
      answers answer? operations l ++ answers answer? rest (l.run operations) := by
  induction operations generalizing l with
  | nil => rfl
  | cons operation operations ih =>
      simp only [List.cons_append, answers, ih, List.append_assoc]
      rfl

end Life

theorem frame_of_resting {p : Player} (h : p.running = false) (s : σ) :
    p.frame s = (.ok .idle, { p with frameRequested := false }, s) := by
  simp [frame, h]

-- Such a frame is the only one that a run comes to, and only if it was asked for before.
theorem run_of_resting {p : Player} (h : p.running = false) (limit : Nat) (s : σ) :
    ∃ n : Nat, ∃ requested : Bool, n + requested.toNat = p.frameRequested.toNat ∧
      p.run limit s = (.ok n, { p with frameRequested := requested }, s) := by
  cases limit with
  | zero => exact ⟨0, p.frameRequested, Nat.zero_add _, rfl⟩
  | succ limit =>
      cases hrequested : p.frameRequested with
      | false => exact ⟨0, false, rfl, by simp [run, ← hrequested]⟩
      | true =>
          have hrest : ({ p with frameRequested := false } : Player).run limit s =
              (.ok 0, { p with frameRequested := false }, s) := by
            cases limit <;> simp [run]
          exact ⟨1, false, rfl, by simp [run, hrequested, frame_of_resting h, hrest, Except.map]⟩

-- What quiet operations leave of a player and its stage, and what is answered to them. Each frame
-- that is counted uses up a request that was pending before.
structure Resting (l : Life σ) (quiet : List Operation) : Prop where
  running : (l.run quiet).player.running = false
  session : (l.run quiet).player.session = l.player.session
  stage : (l.run quiet).stage = l.stage
  stopped : .stop ∈ quiet → (l.run quiet).player.time = 0
  unstopped : .stop ∉ quiet → (l.run quiet).player.time = l.player.time
  mode : (l.run quiet).player.clock.mode = l.player.clock.mode
  outcomes : ∀ outcome ∈ Life.answers Life.outcome? quiet l, outcome = .ok .idle
  requested : .frame ∈ quiet → (l.run quiet).player.frameRequested = false
  counts : ∃ counts : List Nat, Life.answers Life.count? quiet l = counts.map .ok ∧
    counts.sum + (l.run quiet).player.frameRequested.toNat ≤ l.player.frameRequested.toNat

namespace Resting

variable {l : Life σ}

theorem nil (h : l.player.running = false) : Resting l [] where
  running := h
  session := rfl
  stage := rfl
  stopped := by simp
  unstopped _ := rfl
  mode := rfl
  outcomes := by simp [Life.answers]
  requested := by simp
  counts := ⟨[], rfl, by simp [Life.run]⟩

theorem append {quiet rest : List Operation} (h : Resting l quiet)
    (hrest : Resting (l.run quiet) rest) : Resting l (quiet ++ rest) := by
  obtain ⟨counts, hcounts, hsum⟩ := h.counts
  obtain ⟨later, hlater, hlast⟩ := hrest.counts
  have hrun := l.run_append quiet rest
  constructor
  case running => rw [hrun, hrest.running]
  case session => rw [hrun, hrest.session, h.session]
  case stage => rw [hrun, hrest.stage, h.stage]
  case stopped =>
    intro hmem
    rw [hrun]
    by_cases hstop : .stop ∈ rest
    · exact hrest.stopped hstop
    · have hbefore : .stop ∈ quiet := (List.mem_append.mp hmem).resolve_right hstop
      rw [hrest.unstopped hstop, h.stopped hbefore]
  case unstopped =>
    intro hmem
    rw [List.mem_append, not_or] at hmem
    rw [hrun, hrest.unstopped hmem.2, h.unstopped hmem.1]
  case mode => rw [hrun, hrest.mode, h.mode]
  case outcomes =>
    rw [Life.answers_append]
    intro outcome hmem
    exact (List.mem_append.mp hmem).elim (h.outcomes outcome) (hrest.outcomes outcome)
  case requested =>
    intro hmem
    rw [hrun]
    rcases List.mem_append.mp hmem with hbefore | hafter
    · -- no request has come back since
      have hnone := h.requested hbefore
      rw [hnone] at hlast
      exact Bool.toNat_eq_zero.mp (by simp only [Bool.toNat_false] at hlast; omega)
    · exact hrest.requested hafter
  case counts =>
    refine ⟨counts ++ later, ?_, ?_⟩
    · rw [Life.answers_append, hcounts, hlater, List.map_append]
    · rw [hrun, List.sum_append]
      omega

end Resting

-- One quiet operation.
theorem Life.step_resting {l : Life σ} (h : l.player.running = false) {operation : Operation}
    (hquiet : operation.isQuiet = true) : Resting l [operation] := by
  cases operation with
  | play => cases hquiet
  | toggle => cases hquiet
  | seek t => cases hquiet
  | pause =>
      exact {
        running := rfl
        session := rfl
        stage := rfl
        stopped := by simp
        unstopped := fun _ => rfl
        mode := rfl
        outcomes := by simp [answers, outcome?]
        requested := by simp
        counts := ⟨[], rfl, by simp [Life.run, step, Player.pause]⟩ }
  | stop =>
      exact {
        running := rfl
        session := rfl
        stage := rfl
        stopped := fun _ => rfl
        unstopped := by simp
        mode := rfl
        outcomes := by simp [answers, outcome?]
        requested := by simp
        counts := ⟨[], rfl, by simp [Life.run, step, Player.stop]⟩ }
  | measure seconds =>
      exact {
        running := h
        session := rfl
        stage := rfl
        stopped := by simp
        unstopped := fun _ => l.player.measure_time seconds
        mode := l.player.measure_mode seconds
        outcomes := by simp [answers, outcome?]
        requested := by simp
        counts := ⟨[], rfl, by simp [Life.run, step, Player.measure]⟩ }
  | frame =>
      have hframe := frame_of_resting h l.stage
      have hstep : l.run [.frame] =
          ⟨{ l.player with frameRequested := false }, l.stage, false⟩ := by
        simp [Life.run, step, hframe, Except.isOk, Except.toBool]
      exact {
        running := by rw [hstep]; exact h
        session := by rw [hstep]
        stage := by rw [hstep]
        stopped := by simp
        unstopped := fun _ => by rw [hstep]; rfl
        mode := by rw [hstep]
        outcomes := by simp [answers, outcome?, hframe]
        requested := fun _ => by rw [hstep]
        counts := ⟨[], rfl, by simp [hstep]⟩ }
  | run limit =>
      obtain ⟨n, requested, hsum, hrun⟩ := run_of_resting h limit l.stage
      have hstep : l.run [.run limit] =
          ⟨{ l.player with frameRequested := requested }, l.stage, l.heldUp⟩ := by
        simp [Life.run, step, hrun, Except.isOk, Except.toBool]
      exact {
        running := by rw [hstep]; exact h
        session := by rw [hstep]
        stage := by rw [hstep]
        stopped := by simp
        unstopped := fun _ => by rw [hstep]; rfl
        mode := by rw [hstep]
        outcomes := by simp [answers, outcome?]
        requested := by simp
        counts := ⟨[n], by simp [answers, count?, hrun], by simp [hstep, hsum]⟩ }

theorem Life.run_resting {l : Life σ} (h : l.player.running = false) {quiet : List Operation}
    (hquiet : ∀ operation ∈ quiet, operation.isQuiet = true) : Resting l quiet := by
  induction quiet generalizing l with
  | nil => exact Resting.nil h
  | cons operation rest ih =>
      have hfirst := l.step_resting h (hquiet operation List.mem_cons_self)
      have hrest := ih hfirst.running fun other hmem => hquiet other (List.mem_cons_of_mem _ hmem)
      exact hfirst.append hrest

-- Where a frame leaves a clock that has moved to a time. Past the end of what is looped it is back
-- at zero.
def landing (p : Player) (t : Float32) : Float32 :=
  if p.session.duration < t ∧ p.session.looping = true then 0 else t

theorem nextTick_time (p : Player) :
    p.nextTick.1.time = p.landing (p.time + p.clock.nextStep) := by
  have hadvance : p.clock.advance.time = p.time + p.clock.nextStep := by
    rw [Clock.advance, Clock.nextStep]
    cases p.clock.mode with
    | fixed step => rfl
    | realTime => rfl
  rw [nextTick, landing, ← hadvance]
  by_cases hend : p.session.duration < p.clock.advance.time
  · cases hlooping : p.session.looping with
    | false => simp [hend]
    | true => simp [hend, Clock.reset]
  · simp [hend]

theorem frame_time {p : Player} (hrunning : p.running = true) (s : σ) :
    (p.frame s).2.1.time = p.landing (p.time + p.clock.nextStep) := by
  have hframed := p.framed s
  rw [← p.nextTick_time]
  generalize p.frame s = framed at hframed
  cases hframed with
  | idle hnot => simp [hrunning] at hnot
  | finished _ _ => rfl
  | shown _ _ _ => rfl
  | failed _ _ _ => rfl

-- The step after a resumption depends on what kind of clock it is and on nothing else.
theorem resume_nextStep {c c' : Clock} (h : c.mode = c'.mode) :
    c.resume.nextStep = c'.resume.nextStep := by
  simp [Clock.nextStep, Clock.resume, h]

theorem finished_halts {p : Player} {s : σ} (h : (p.frame s).1 = .ok .finished) :
    (p.frame s).2.1.running = false := by
  have hframed := p.framed s
  generalize p.frame s = framed at hframed h
  cases hframed with
  | idle hrunning => exact hrunning
  | finished _ _ => rfl
  | shown _ hend _ => exact absurd (Except.ok.inj h) hend
  | failed _ _ _ => cases h

-- A player whose playback was halted, in whatever way and after whatever was done before, on a stage
-- that may have failed: quiet operations leave it at rest, nothing is asked of the stage, and at most
-- one frame is run. Playback goes on from where it rests.
theorem halted_rests (e : Session) (mode : ClockMode) (s : σ) (operations quiet : List Operation)
    (hquiet : ∀ operation ∈ quiet, operation.isQuiet = true) :
    let l := ({ player := .ofSession e mode, stage := { stage := s } } :
      Life (Watched σ)).run operations
    let rested := (l.run quiet).player
    (l.player.running = false ↔ l.player.state ≠ .playing) ∧
      l.player.pause.running = false ∧ l.player.stop.running = false ∧
      ((l.player.frame l.stage).1 = .ok .finished →
        (l.player.frame l.stage).2.1.running = false) ∧
      (l.player.running = false →
        Resting l quiet ∧ rested.play.frameRequested = true ∧
          ∀ w : Watched σ, (rested.play.frame w).2.1.time =
            l.player.landing (rested.time + l.player.clock.resume.nextStep)) := by
  intro l rested
  have hstate : l.player.InStep l.heldUp := Life.run_inStep operations (ofSession_inStep e mode)
  have hhalted : l.player.running = false ↔ l.player.state ≠ .playing := by
    rw [← Bool.not_eq_true]
    exact not_congr hstate.running_iff
  refine ⟨hhalted, rfl, rfl, finished_halts, fun hrunning => ?_⟩
  have hresting : Resting l quiet := Life.run_resting hrunning hquiet
  have hstill : rested.InStep (l.run quiet).heldUp := Life.run_inStep quiet hstate
  have hpaused : rested.state ≠ .playing := fun hp =>
    absurd (hresting.running.symm.trans (hstill.running_iff.mpr hp)) (by decide)
  have hplay : rested.play = { rested with
      state := .playing
      running := true
      frameRequested := true
      clock := rested.clock.resume } := if_neg hpaused
  refine ⟨hresting, by rw [hplay], fun w => ?_⟩
  have hrunning' : rested.play.running = true := by rw [hplay]
  have hstep : rested.clock.resume.nextStep = l.player.clock.resume.nextStep :=
    resume_nextStep hresting.mode
  have hsession : rested.session = l.player.session := hresting.session
  calc (rested.play.frame w).2.1.time
      = rested.play.landing (rested.play.time + rested.play.clock.nextStep) :=
        frame_time hrunning' w
    _ = rested.landing (rested.time + rested.clock.resume.nextStep) := by
        rw [hplay]
        rfl
    _ = l.player.landing (rested.time + l.player.clock.resume.nextStep) := by
        rw [hstep, landing, landing, hsession]

-- A player that is paused after its first frame: the frame that was asked for before the pause is
-- run and does nothing, and there is no other one.
theorem paused_player_rests :
    let operations : List Operation := [.play, .frame, .pause]
    let quiet : List Operation := [.run 3, .measure 0.2, .pause, .frame, .run 5]
    let loaded := Session.load {} Recorder.fresh
    (∀ operation ∈ quiet, operation.isQuiet = true) ∧ ∃ e, loaded.result = .ok e ∧
      let l := ({ player := .ofSession e (.fixed 0.5), stage := { stage := loaded.stage } } :
        Life (Watched Recorder)).run operations
      let rested := (l.run quiet).player
      l.player.running = false ∧ l.player.frameRequested = true ∧ Resting l quiet ∧
        (l.run quiet).stage.calls = l.stage.calls ∧ rested.time = 0.5 ∧
        (rested.play.frame (l.run quiet).stage).2.1.time = 1 := by
  intro operations quiet loaded
  have hquiet : ∀ operation ∈ quiet, operation.isQuiet = true := by decide
  refine ⟨hquiet, _, rfl, ?_⟩
  intro l rested
  obtain ⟨-, -, -, -, hrests⟩ := halted_rests _ (.fixed 0.5) loaded.stage operations quiet hquiet
  obtain ⟨hresting, -, htime⟩ := hrests rfl
  have hrested : rested.time = 0.5 := (hresting.unstopped (by simp [quiet])).trans (by decide +kernel)
  refine ⟨rfl, by decide +kernel, hresting, congrArg Watched.calls hresting.stage, hrested, ?_⟩
  rw [htime, hrested]
  decide +kernel

end Diorama.Player
