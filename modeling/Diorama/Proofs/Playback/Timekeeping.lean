import Diorama.Proofs.Document.Success
import Diorama.Proofs.Number.Comparison
import Diorama.Proofs.Playback.Progress
import Diorama.Proofs.Session.Calls

namespace Diorama

-- A playback of a definition comes to an end, and not before it starts.
def Definition.Bounded (d : Definition) : Prop := d.duration.isFinite = true ∧ ¬d.duration < 0

theorem Definition.sanitize_bounded {draft d : Definition} (h : draft.sanitize.result = .ok d) :
    d.Bounded := by
  rw [sanitize] at h
  split at h
  · rename_i hvalid
    obtain rfl : draft = d := Except.ok.inj h
    simpa [Bounded] using hvalid
  · have hdefault : defaultDuration.isFinite = true ∧ ¬defaultDuration < 0 := ⟨rfl, by decide⟩
    obtain rfl := Except.ok.inj h
    exact hdefault

-- Whatever a text says, what is accepted of it has a duration that playback can end at.
theorem Definition.ofText_bounded {text : String} {d : Definition}
    (h : (ofText text).result = .ok d) : d.Bounded := by
  rw [ofText, ofDraft] at h
  obtain ⟨j, -, h⟩ := Reading.andThen_ok h
  simp only at h
  split at h
  all_goals
    obtain ⟨draft, -, h⟩ := Reading.andThen_ok h
    exact sanitize_bounded h

namespace Player

variable {σ : Type} [Stage σ] {d : Definition} {step : Float32} {sought : Prop}

-- A player of a definition whose clock goes on by the same step each time. Its time is a number
-- unless one was sought that is none.
structure Timed (d : Definition) (step : Float32) (sought : Prop) (p : Player) : Prop where
  definition : p.session.definition = d
  mode : p.clock.mode = .fixed step
  number : p.time.isNaN = true → sought

-- What the clock can say at the next frame.
structure Ticked (d : Definition) (step : Float32) (sought : Prop) (tick : Clock × FrameOutcome) :
    Prop where
  mode : tick.1.mode = .fixed step
  number : tick.1.time.isNaN = true → sought
  busy : tick.2 ≠ .idle
  inTime : tick.2 ≠ .finished → ¬d.duration < tick.1.time
  looped : tick.2 = .looped → d.looping = true ∧ tick.1.time = 0
  finished : tick.2 = .finished → d.looping = false

theorem Timed.nextTick {p : Player} (h : p.Timed d step sought) (hd : d.Bounded)
    (hstep : step.isFinite = true) : Ticked d step sought p.nextTick := by
  have hadvance : p.clock.advance = { p.clock with time := p.time + step } := by
    simp only [Clock.advance, h.mode]
    rfl
  have hnumber : (p.time + step).isNaN = true → sought := by
    intro hnan
    by_contra hnone
    have htime : p.time.isNaN = false := Bool.eq_false_iff.mpr fun hp => hnone (h.number hp)
    exact absurd (hnan.symm.trans (Scalar.isNaN_add htime hstep)) (by decide)
  simp only [Player.nextTick, hadvance, Session.duration, Session.looping, h.definition]
  split
  · split
    · rename_i hlooping
      exact {
        mode := h.mode
        number := fun hnan => absurd (Scalar.isNaN_zero.symm.trans hnan) (by decide)
        busy := by simp
        inTime := fun _ => hd.2
        looped := fun _ => ⟨hlooping, rfl⟩
        finished := by simp }
    · rename_i hlooping
      exact {
        mode := h.mode
        number := hnumber
        busy := by simp
        inTime := by simp
        looped := by simp
        finished := fun _ => by simpa using hlooping }
  · rename_i hend
    exact {
      mode := h.mode
      number := hnumber
      busy := by simp
      inTime := fun _ => hend
      looped := by simp
      finished := by simp }

-- Nothing but the definition, the step and the time counts.
theorem Timed.congr {p q : Player} (h : p.Timed d step sought)
    (hdefinition : q.session.definition = p.session.definition) (hmode : q.clock.mode = p.clock.mode)
    (hnumber : q.time.isNaN = true → sought) : q.Timed d step sought :=
  ⟨hdefinition.trans h.definition, hmode.trans h.mode, hnumber⟩

theorem Timed.stop {p : Player} (h : p.Timed d step sought) : p.stop.Timed d step sought := by
  refine h.congr rfl rfl fun hnan => ?_
  exact absurd (Scalar.isNaN_zero.symm.trans hnan) (by decide)

theorem Timed.play {p : Player} (h : p.Timed d step sought) : p.play.Timed d step sought := by
  rw [Player.play]
  split
  · exact h
  · exact h.congr rfl rfl h.number

theorem Timed.pause {p : Player} (h : p.Timed d step sought) : p.pause.Timed d step sought :=
  h.congr rfl rfl h.number

theorem Timed.toggle {p : Player} (h : p.Timed d step sought) : p.toggle.Timed d step sought := by
  rw [Player.toggle]
  split
  · exact h.pause
  · exact h.play

theorem Timed.measure {p : Player} (h : p.Timed d step sought) (seconds : Float32) :
    (p.measure seconds).Timed d step sought := by
  refine h.congr rfl (p.measure_mode seconds) fun hnan => h.number ?_
  rwa [← p.measure_time seconds]

theorem Timed.seek {p : Player} (h : p.Timed d step sought) {t : Float32}
    (ht : t.isNaN = true → sought) (s : σ) : (p.seek t s).2.1.Timed d step sought :=
  h.congr (p.session.evaluate_definition t s) rfl ht

theorem Timed.frame {p : Player} (h : p.Timed d step sought) (hd : d.Bounded)
    (hstep : step.isFinite = true) (s : σ) : (p.frame s).2.1.Timed d step sought := by
  have htick := h.nextTick hd hstep
  have hframed := p.framed s
  generalize p.frame s = framed at hframed
  cases hframed with
  | idle hrunning => exact h.congr rfl rfl h.number
  | finished hrunning hend => exact ⟨h.definition, htick.mode, htick.number⟩
  | shown hrunning hend heval =>
      have hsame := p.session.evaluate_definition p.nextTick.1.time s
      rw [heval] at hsame
      exact ⟨hsame.trans h.definition, htick.mode, htick.number⟩
  | failed hrunning hend heval =>
      have hsame := p.session.evaluate_definition p.nextTick.1.time s
      rw [heval] at hsame
      exact ⟨hsame.trans h.definition, htick.mode, htick.number⟩

theorem Timed.run {p : Player} (h : p.Timed d step sought) (hd : d.Bounded)
    (hstep : step.isFinite = true) (limit : Nat) (s : σ) :
    (p.run limit s).2.1.Timed d step sought := by
  induction limit generalizing p s with
  | zero => exact h
  | succ limit ih =>
      have hframe := h.frame hd hstep s
      rw [Player.run]
      split
      · exact h
      · rcases hf : p.frame s with ⟨_ | _, next, s'⟩ <;> rw [hf] at hframe
        · exact hframe
        · exact ih hframe s'

theorem Life.step_timed {l : Life σ} (h : l.player.Timed d step sought) (hd : d.Bounded)
    (hstep : step.isFinite = true) (operation : Operation)
    (hseek : ∀ t, operation = .seek t → t.isNaN = true → sought) :
    (l.step operation).player.Timed d step sought := by
  cases operation with
  | play => exact h.play
  | pause => exact h.pause
  | toggle => exact h.toggle
  | stop => exact h.stop
  | seek t => exact h.seek (hseek t rfl) l.stage
  | frame => exact h.frame hd hstep l.stage
  | run limit => exact h.run hd hstep limit l.stage
  | measure seconds => exact h.measure seconds

theorem Life.run_timed (operations : List Operation) {l : Life σ}
    (h : l.player.Timed d step sought) (hd : d.Bounded) (hstep : step.isFinite = true)
    (hseek : ∀ t, .seek t ∈ operations → t.isNaN = true → sought) :
    (l.run operations).player.Timed d step sought := by
  induction operations generalizing l with
  | nil => exact h
  | cons operation rest ih =>
      refine ih (Life.step_timed h hd hstep operation ?_) ?_
      · rintro t rfl
        exact hseek t List.mem_cons_self
      · exact fun t ht => hseek t (List.mem_cons_of_mem _ ht)

theorem ofSession_timed {e : Session} (h : e.definition = d) :
    (ofSession e (.fixed step)).Timed d step sought := by
  refine ⟨h, rfl, fun hnan => ?_⟩
  exact absurd (Scalar.isNaN_zero.symm.trans hnan) (by decide)

-- What a frame does to a player `p` on a stage, which answers for itself. `sought` stands for the
-- only reason that the time may be no number.
structure FrameContract (d : Definition) (sought : Prop) (p : Player) (s : σ)
    (framed : Except StageFault FrameOutcome × Player × Watched σ) : Prop where
  definition : framed.2.1.session.definition = d
  answered : (∃ outcome, framed.1 = .ok outcome) ↔ ∀ call ∈ framed.2.2.calls, call.failed = false
  idle_iff : framed.1 = .ok .idle ↔ p.running = false
  idle : framed.1 = .ok .idle →
    framed.2.1.clock = p.clock ∧ framed.2.1.session = p.session ∧ framed.2.2 = { stage := s }
  shown : framed.1 = .ok .rendered ∨ framed.1 = .ok .looped →
    framed.2.1.session.time = framed.2.1.time ∧ ¬d.duration < framed.2.1.time ∧
      (framed.2.1.time ≤ d.duration ∨ framed.2.1.time.isNaN = true ∧ sought) ∧
      ∃ before, framed.2.2.calls = before ++ [.perform .renderFrame (.ok ())] ∧
        ∀ answer, .perform .renderFrame answer ∉ before
  looped : framed.1 = .ok .looped → d.looping = true ∧ framed.2.1.time = 0
  finished : framed.1 = .ok .finished →
    d.looping = false ∧ framed.2.1.state = .paused ∧ framed.2.1.frameRequested = false ∧
      framed.2.1.session = p.session ∧ framed.2.2 = { stage := s }

theorem Timed.frameContract {p : Player} (h : p.Timed d step sought) (hd : d.Bounded)
    (hstep : step.isFinite = true) (s : σ) :
    FrameContract d sought p s (p.frame ({ stage := s } : Watched σ)) := by
  have htick := h.nextTick hd hstep
  have hframe := h.frame hd hstep ({ stage := s } : Watched σ)
  have hframed := p.framed ({ stage := s } : Watched σ)
  generalize p.frame ({ stage := s } : Watched σ) = framed at hframe hframed
  cases hframed with
  | idle hrunning =>
      exact {
        definition := hframe.definition
        answered := by simp
        idle_iff := by simpa using hrunning
        idle := by simp
        shown := by simp
        looped := by simp
        finished := by simp }
  | finished hrunning hend =>
      exact {
        definition := hframe.definition
        answered := by simp
        idle_iff := by simp [hrunning]
        idle := by simp
        shown := by simp
        looped := by simp
        finished := fun _ => ⟨htick.finished hend, rfl, rfl, rfl, rfl⟩ }
  | @shown hrunning hend session w heval =>
      obtain ⟨rfl, before, hbefore, hcalls⟩ := Session.evaluate_watched_ok heval
      have hbusy := htick.busy
      have hinTime := htick.inTime hend
      have hdone : ∀ call ∈ w.calls, call.failed = false := fun call hmem => by
        simp only [hcalls, List.nil_append, List.mem_append, List.mem_map,
          List.mem_singleton] at hmem
        rcases hmem with ⟨order, -, rfl⟩ | rfl <;> rfl
      have hbound : p.nextTick.1.time ≤ d.duration ∨ p.nextTick.1.time.isNaN = true ∧ sought := by
        cases hnan : p.nextTick.1.time.isNaN with
        | true => exact .inr ⟨rfl, htick.number hnan⟩
        | false =>
            have hduration := Scalar.isNaN_eq_false_of_isFinite hd.1
            exact .inl (Scalar.le_of_not_lt hinTime hnan hduration)
      exact {
        definition := hframe.definition
        answered := iff_of_true ⟨_, rfl⟩ hdone
        idle_iff := by simp [hbusy, hrunning]
        idle := by simp [hbusy]
        shown := fun _ => ⟨rfl, hinTime, hbound, before.map (.perform · (.ok ())),
          by simpa using hcalls, by simpa using hbefore⟩
        looped := fun hlooped => htick.looped (Except.ok.inj hlooped)
        finished := by simp [hend] }
  | @failed hrunning hend fault session w heval =>
      obtain ⟨call, hmem, hfailed⟩ := Session.evaluate_watched_error heval
      have hnotAll : ¬∀ call ∈ w.calls, call.failed = false := fun hall =>
        absurd (hfailed.symm.trans (hall call hmem)) (by decide)
      exact {
        definition := hframe.definition
        answered := iff_of_false (by simp) hnotAll
        idle_iff := by simp [hrunning]
        idle := by simp
        shown := by simp
        looped := by simp
        finished := by simp }

-- However a player of what a text says was used before, over whatever stage: this is what its next
-- frame does.
theorem frame_keeps_time {text : String} {d : Definition} {first : σ} {e : Session} {step : Float32}
    (hread : (Definition.ofText text).result = .ok d)
    (hload : (Session.load d first).result = .ok e) (hstep : step.isFinite = true)
    (operations : List Operation) (s : σ) :
    let l := ({ player := .ofSession e (.fixed step), stage := s } : Life σ).run operations
    (l.player.running = false ↔ l.player.state ≠ .playing) ∧
      FrameContract d (∃ t, .seek t ∈ operations ∧ t.isNaN = true) l.player l.stage
        (l.player.frame ({ stage := l.stage } : Watched σ)) := by
  intro l
  have hd := Definition.ofText_bounded hread
  have hstate : l.player.InStep l.heldUp := Life.run_inStep operations (ofSession_inStep e _)
  have htimed : l.player.Timed d step (∃ t, .seek t ∈ operations ∧ t.isNaN = true) :=
    Life.run_timed operations (ofSession_timed (Session.load_definition hload)) hd hstep
      fun t hmem hnan => ⟨t, hmem, hnan⟩
  refine ⟨?_, htimed.frameContract hd hstep l.stage⟩
  rw [← Bool.not_eq_true]
  exact hstate.running_iff.not

-- The ten seconds of a definition that says nothing: the third frame of five seconds each is at
-- zero again.
theorem third_frame_loops :
    let blank := Definition.recordShape.blank
    let operations : List Operation := [.play, .frame, .frame]
    (Definition.ofText "\x7b\x7d").result = .ok blank ∧ (5 : Float32).isFinite = true ∧
      ∃ e, (Session.load blank Recorder.fresh).result = .ok e ∧
        let l := ({ player := .ofSession e (.fixed 5), stage := .fresh } :
          Life Recorder).run operations
        let framed := l.player.frame ({ stage := l.stage } : Watched Recorder)
        framed.1 = .ok .looped ∧ framed.2.1.time = 0 ∧
          FrameContract blank (∃ t, .seek t ∈ operations ∧ t.isNaN = true) l.player l.stage
            framed := by
  intro blank operations
  have hread : (Definition.ofText "\x7b\x7d").result = .ok blank := rfl
  have hstep : (5 : Float32).isFinite = true := rfl
  have hload : (Session.load blank Recorder.fresh).result = .ok _ := rfl
  refine ⟨hread, hstep, _, hload, ?_⟩
  intro l framed
  have hlooped : framed.1 = .ok .looped := by decide +kernel
  have htime : framed.2.1.time = 0 := by decide +kernel
  obtain ⟨-, hcontract⟩ := frame_keeps_time hread hload hstep operations Recorder.fresh
  exact ⟨hlooped, htime, hcontract⟩

end Player

end Diorama
