import Diorama.Proofs.Playback.Progress

namespace Diorama.Player

-- Where a run has come to, with its answer.
abbrev Stop (σ : Type) := Except StageFault Nat × Player × σ

-- Why a run stops: there have been enough frames, or no other one is asked for.
structure Stops {σ : Type} (limit : Nat) (stop : Stop σ) : Prop where
  count_le : ∀ count, stop.1 = .ok count → count ≤ limit
  unrequested_of_lt : ∀ count, stop.1 = .ok count → count < limit →
    stop.2.1.frameRequested = false
  unrequested_of_error : ∀ fault, stop.1 = .error fault → stop.2.1.frameRequested = false

theorem Stops.map_succ {σ : Type} {limit : Nat} {stop : Stop σ} (h : Stops limit stop) :
    Stops (limit + 1) (stop.1.map (· + 1), stop.2) := by
  rcases stop with ⟨fault | count, p, s⟩
  · exact ⟨by simp [Except.map], by simp [Except.map], fun _ _ => h.unrequested_of_error fault rfl⟩
  · have hle : count ≤ limit := h.count_le count rfl
    have hless : count < limit → p.frameRequested = false := h.unrequested_of_lt count rfl
    exact ⟨by simpa [Except.map] using hle, by simpa [Except.map] using hless, by simp [Except.map]⟩

variable {σ : Type} [Stage σ] {p q : Player} {s s' : σ}

-- A further run from where another one stopped. Where that one failed there is none; otherwise the
-- frames of both count.
def resume (limit : Nat) : Stop σ → Stop σ
  | (.error fault, p, s) => (.error fault, p, s)
  | (.ok count, p, s) =>
    let (result, p, s) := p.run limit s
    (result.map (count + ·), p, s)

def resumeRemarks (limit : Nat) : Stop σ → List Notice
  | (.error _, _, _) => []
  | (.ok _, p, s) => p.runRemarks limit s

-- How a run begins: with a frame, unless none is asked for.

theorem run_of_not_requested (h : p.frameRequested = false) (limit : Nat) (s : σ) :
    p.run limit s = (.ok 0, p, s) := by
  cases limit with
  | zero => rfl
  | succ limit => simp [run, h]

theorem run_succ_of_error {fault : StageFault} (h : p.frameRequested = true)
    (hframe : p.frame s = (.error fault, q, s')) (limit : Nat) :
    p.run (limit + 1) s = (.error fault, q, s') := by
  simp [run, h, hframe]

theorem run_succ_of_ok {outcome : FrameOutcome} (h : p.frameRequested = true)
    (hframe : p.frame s = (.ok outcome, q, s')) (limit : Nat) :
    p.run (limit + 1) s = ((q.run limit s').1.map (· + 1), (q.run limit s').2) := by
  simp [run, h, hframe]

theorem runRemarks_of_not_requested (h : p.frameRequested = false) (limit : Nat) (s : σ) :
    p.runRemarks limit s = [] := by
  cases limit with
  | zero => rfl
  | succ limit => simp [runRemarks, h]

theorem runRemarks_succ_of_error {fault : StageFault} (h : p.frameRequested = true)
    (hframe : p.frame s = (.error fault, q, s')) (limit : Nat) :
    p.runRemarks (limit + 1) s = p.frameRemarks := by
  simp [runRemarks, h, hframe]

theorem runRemarks_succ_of_ok {outcome : FrameOutcome} (h : p.frameRequested = true)
    (hframe : p.frame s = (.ok outcome, q, s')) (limit : Nat) :
    p.runRemarks (limit + 1) s = p.frameRemarks ++ q.runRemarks limit s' := by
  simp [runRemarks, h, hframe]

theorem frame_error_requested {fault : StageFault} (hframe : p.frame s = (.error fault, q, s')) :
    q.frameRequested = false := by
  have hframed := p.framed s
  rw [hframe] at hframed
  cases hframed with
  | failed _ _ _ => rfl

-- A frame more in front counts once, wherever the run is split.
theorem resume_map_succ (limit : Nat) (stop : Stop σ) :
    resume limit (stop.1.map (· + 1), stop.2) =
      ((resume limit stop).1.map (· + 1), (resume limit stop).2) := by
  rcases stop with ⟨fault | count, p, s⟩
  · rfl
  · simp only [resume, Except.map]
    cases (p.run limit s).1 with
    | error fault => rfl
    | ok more => simp [Nat.add_right_comm]

theorem resumeRemarks_map_succ (limit : Nat) (stop : Stop σ) :
    resumeRemarks limit (stop.1.map (· + 1), stop.2) = resumeRemarks limit stop := by
  rcases stop with ⟨fault | count, p, s⟩ <;> rfl

theorem resume_ok_zero (limit : Nat) (p : Player) (s : σ) :
    resume limit (.ok 0, p, s) = p.run limit s := by
  rw [resume]
  rcases p.run limit s with ⟨fault | count, q, s'⟩
  · rfl
  · simp [Except.map]

theorem run_add (first second : Nat) (p : Player) (s : σ) :
    p.run (first + second) s = resume second (p.run first s) := by
  induction first generalizing p s with
  | zero => rw [Nat.zero_add, run, resume_ok_zero]
  | succ first ih =>
      rw [Nat.succ_add]
      cases hrequested : p.frameRequested with
      | false =>
          rw [run_of_not_requested hrequested, run_of_not_requested hrequested, resume_ok_zero,
            run_of_not_requested hrequested]
      | true =>
          rcases hframe : p.frame s with ⟨fault | outcome, q, s'⟩
          · rw [run_succ_of_error hrequested hframe, run_succ_of_error hrequested hframe, resume]
          · rw [run_succ_of_ok hrequested hframe, run_succ_of_ok hrequested hframe, ih,
              resume_map_succ]

theorem runRemarks_add (first second : Nat) (p : Player) (s : σ) :
    p.runRemarks (first + second) s =
      p.runRemarks first s ++ resumeRemarks second (p.run first s) := by
  induction first generalizing p s with
  | zero => rw [Nat.zero_add, runRemarks, run, resumeRemarks, List.nil_append]
  | succ first ih =>
      rw [Nat.succ_add]
      cases hrequested : p.frameRequested with
      | false =>
          rw [runRemarks_of_not_requested hrequested, runRemarks_of_not_requested hrequested,
            run_of_not_requested hrequested, resumeRemarks, runRemarks_of_not_requested hrequested,
            List.nil_append]
      | true =>
          rcases hframe : p.frame s with ⟨fault | outcome, q, s'⟩
          · rw [runRemarks_succ_of_error hrequested hframe,
              runRemarks_succ_of_error hrequested hframe, run_succ_of_error hrequested hframe,
              resumeRemarks, List.append_nil]
          · rw [runRemarks_succ_of_ok hrequested hframe, runRemarks_succ_of_ok hrequested hframe,
              run_succ_of_ok hrequested hframe, ih, resumeRemarks_map_succ, List.append_assoc]

theorem run_stops (limit : Nat) (p : Player) (s : σ) : Stops limit (p.run limit s) := by
  induction limit generalizing p s with
  | zero => exact ⟨by simp [run], by simp [run], by simp [run]⟩
  | succ limit ih =>
      cases hrequested : p.frameRequested with
      | false =>
          rw [run_of_not_requested hrequested]
          exact ⟨by simp, fun _ _ _ => hrequested, by simp⟩
      | true =>
          rcases hframe : p.frame s with ⟨fault | outcome, q, s'⟩
          · rw [run_succ_of_error hrequested hframe]
            exact ⟨by simp, by simp, fun _ _ => frame_error_requested hframe⟩
          · rw [run_succ_of_ok hrequested hframe]
            exact (ih q s').map_succ

-- A run can be split anywhere, whatever ends it and whatever the stage answers: the second part
-- goes on from where the first one stopped, so that player, stage, answer and remarks are those of
-- the whole. What has come to less than its limit, or failed, has no frame left to run.
theorem run_split (p : Player) (s : σ) (first second : Nat) :
    p.run (first + second) s = resume second (p.run first s) ∧
      p.runRemarks (first + second) s =
        p.runRemarks first s ++ resumeRemarks second (p.run first s) ∧
      Stops first (p.run first s) :=
  ⟨run_add first second p s, runRemarks_add first second p s, run_stops first p s⟩

-- The frame that finds the end of the animation counts, and is the last one.
example :
    let loaded := Session.load { duration := 1, looping := false } Recorder.fresh
    ∃ e, loaded.result = .ok e ∧
      let p := (ofSession e (.fixed 0.5)).play
      (p.run 1 loaded.stage).1.toOption = some 1 ∧
        (resume 5 (p.run 1 loaded.stage)).1.toOption = some 3 ∧
        (p.run 6 loaded.stage).2.1.frameRequested = false :=
  ⟨_, rfl, by decide +kernel, by decide +kernel, by decide +kernel⟩

end Diorama.Player
