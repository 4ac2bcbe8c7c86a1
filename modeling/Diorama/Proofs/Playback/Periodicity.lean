import Mathlib.Logic.Function.Iterate
import Diorama.Proofs.Playback.Timekeeping
import Diorama.Proofs.Session.Course

namespace Diorama

-- What a looping playback of some length makes of a clock in one frame.
def Clock.lap (duration : Float32) (c : Clock) : Clock × FrameOutcome :=
  if duration < c.advance.time then (c.advance.reset, .looped) else (c.advance, .rendered)

namespace Clock

theorem lap_ne_finished (duration : Float32) (c : Clock) : (c.lap duration).2 ≠ .finished := by
  rw [lap]
  split <;> simp

-- A clock after a number of such frames.
def turned (duration : Float32) (c : Clock) (n : Nat) : Clock := (fun c => (c.lap duration).1)^[n] c

theorem turned_succ (duration : Float32) (c : Clock) (n : Nat) :
    c.turned duration (n + 1) = ((c.turned duration n).lap duration).1 :=
  Function.iterate_succ_apply' _ n c

theorem turned_add (duration : Float32) (c : Clock) (m n : Nat) :
    c.turned duration (n + m) = (c.turned duration m).turned duration n :=
  Function.iterate_add_apply _ n m c

variable {step : Float32} {c : Clock}

theorem turned_eq (hmode : c.mode = .fixed step) (duration : Float32) (n : Nat) :
    ∃ t, c.turned duration n = { c with time := t } := by
  induction n with
  | zero => exact ⟨c.time, rfl⟩
  | succ n ih =>
      obtain ⟨t, ht⟩ := ih
      rw [turned_succ, ht, lap]
      split
      · exact ⟨0, by simp [advance, reset, hmode]⟩
      · exact ⟨t + step, by simp [advance, hmode]⟩

-- Whether the frame after a number of frames is one that starts again.
def Loops (duration : Float32) (c : Clock) (n : Nat) : Prop :=
  ((c.turned duration n).lap duration).2 = .looped

variable {duration : Float32}

-- Every frame that starts again leaves the same clock behind.
theorem Loops.turned_succ_eq (hmode : c.mode = .fixed step) {n : Nat} (h : c.Loops duration n) :
    c.turned duration (n + 1) = { c with time := 0 } := by
  obtain ⟨t, ht⟩ := turned_eq hmode duration n
  rw [turned_succ]
  rw [Loops, lap] at h
  rw [lap]
  split at h
  · rename_i hend
    rw [if_pos hend, ht]
    simp [advance, reset, hmode]
  · cases h

-- From a frame that starts again the clock goes as it did from an earlier one.
theorem Loops.turned_eq_turned (hmode : c.mode = .fixed step) {m n : Nat}
    (hm : c.Loops duration m) (hn : c.Loops duration n) (k : Nat) :
    c.turned duration (m + 1 + k) = c.turned duration (n + 1 + k) := by
  rw [Nat.add_comm _ k, Nat.add_comm _ k, turned_add duration c (m + 1),
    turned_add duration c (n + 1), hm.turned_succ_eq hmode, hn.turned_succ_eq hmode]

theorem Loops.add_iff (hmode : c.mode = .fixed step) {m n : Nat} (hm : c.Loops duration m)
    (hn : c.Loops duration n) (k : Nat) :
    c.Loops duration (m + 1 + k) ↔ c.Loops duration (n + 1 + k) := by
  rw [Loops, Loops, hm.turned_eq_turned hmode hn]

-- Three frames in a row that start again are the same number of frames apart.
theorem loops_evenly (hmode : c.mode = .fixed step) {second third : Nat} (hsecond : 0 < second)
    (hthird : second < third)
    (h : ∀ k ≤ third, c.Loops duration k ↔ k = 0 ∨ k = second ∨ k = third) :
    third - second = second := by
  have h₁ : c.Loops duration 0 := (h 0 (by omega)).mpr (by simp)
  have h₂ : c.Loops duration second := (h second (by omega)).mpr (by simp)
  have h₃ : c.Loops duration third := (h third le_rfl).mpr (by simp)
  rcases Nat.lt_trichotomy (third - second) second with hlt | heq | hgt
  · -- then the first round would have been over earlier
    have hearly : c.Loops duration (third - second) := by
      have hiff := h₁.add_iff hmode h₂ (third - second - 1)
      rw [show second + 1 + (third - second - 1) = third by omega,
        show 0 + 1 + (third - second - 1) = third - second by omega] at hiff
      exact hiff.mpr h₃
    have hcases := (h (third - second) (by omega)).mp hearly
    omega
  · exact heq
  · -- then the second round would have been over earlier
    have hearly : c.Loops duration (second + second) := by
      have hiff := h₁.add_iff hmode h₂ (second - 1)
      rw [show second + 1 + (second - 1) = second + second by omega,
        show 0 + 1 + (second - 1) = second by omega] at hiff
      exact hiff.mp h₂
    have hcases := (h (second + second) (by omega)).mp hearly
    omega

end Clock

namespace Player

variable {σ : Type} [Stage σ]

-- A player and its stage after a number of frames.
def after (p : Player) (s : σ) : Nat → Player × σ
  | 0 => (p, s)
  | n + 1 => ((after p s n).1.frame (after p s n).2).2

-- How the frame ends that comes after that number of frames.
def outcome (p : Player) (s : σ) (n : Nat) : Except StageFault FrameOutcome :=
  ((p.after s n).1.frame (p.after s n).2).1

theorem after_add (p : Player) (s : σ) (m n : Nat) :
    p.after s (m + n) = (p.after s m).1.after (p.after s m).2 n := by
  induction n with
  | zero => rfl
  | succ n ih => rw [← Nat.add_assoc, after, after, ih]

theorem outcome_add (p : Player) (s : σ) (m n : Nat) :
    p.outcome s (m + n) = (p.after s m).1.outcome (p.after s m).2 n := by
  rw [outcome, outcome, after_add]

theorem nextTick_eq_lap {p : Player} (h : p.session.looping = true) :
    p.nextTick = p.clock.lap p.session.duration := by
  simp [nextTick, Clock.lap, h]

-- A frame that succeeds while a looping playback is running.
theorem frame_rolling {p : Player} {s : σ} (hrunning : p.running = true)
    (hlooping : p.session.looping = true) (hok : (p.frame s).1.isOk = true) :
    let lap := p.clock.lap p.session.duration
    (p.frame s).1 = .ok lap.2 ∧ (p.frame s).2.1.clock = lap.1 ∧
      (p.frame s).2.1.session = p.session.shown lap.1.time ∧ (p.frame s).2.1.running = true := by
  have hgoes := p.clock.lap_ne_finished p.session.duration
  rw [← nextTick_eq_lap hlooping] at hgoes ⊢
  have hframed := p.framed s
  generalize p.frame s = framed at hframed hok
  cases hframed with
  | idle hnot => simp [hrunning] at hnot
  | finished _ hend => exact absurd hend hgoes
  | shown _ _ heval =>
      rcases p.session.evaluate_cases p.nextTick.1.time s with
        ⟨s', -, hshown⟩ | ⟨_, _, _, _, _, _, -, -, herror, -⟩
      · rw [heval] at hshown
        cases hshown
        exact ⟨rfl, rfl, rfl, hrunning⟩
      · simp [heval] at herror
  | failed _ _ heval => simp [Except.isOk, Except.toBool] at hok

-- The times at which the first frames of such a playback show the scene.
def beats (p : Player) (n : Nat) : List Float32 :=
  (List.range n).map fun k => (p.clock.turned p.session.duration (k + 1)).time

theorem beats_succ (p : Player) (n : Nat) :
    p.beats (n + 1) = p.beats n ++ [(p.clock.turned p.session.duration (n + 1)).time] := by
  rw [beats, List.range_succ, List.map_append]
  rfl

-- What a number of such frames comes to. The clock goes its own way, and the session is shown
-- whenever it says so.
theorem after_rolling {p : Player} {s : σ} (hrunning : p.running = true)
    (hlooping : p.session.looping = true) {n : Nat} (hok : ∀ k < n, (p.outcome s k).isOk = true) :
    (p.after s n).1.clock = p.clock.turned p.session.duration n ∧
      (p.after s n).1.session = p.session.shownAll (p.beats n) ∧
      (p.after s n).1.running = true ∧
      ∀ k < n, p.outcome s k =
        .ok ((p.clock.turned p.session.duration k).lap p.session.duration).2 := by
  induction n with
  | zero => exact ⟨rfl, rfl, hrunning, by simp⟩
  | succ n ih =>
      obtain ⟨hclock, hsession, hrun, hbefore⟩ := ih fun k hk => hok k (by omega)
      have hdefinition : (p.after s n).1.session.definition = p.session.definition := by
        rw [hsession, Session.shownAll_definition]
      have hloops : (p.after s n).1.session.looping = true := by
        rwa [Session.looping, hdefinition]
      obtain ⟨houtcome, hclock', hsession', hrun'⟩ := frame_rolling hrun hloops (hok n (by omega))
      rw [Session.duration, hdefinition, hclock] at houtcome hclock' hsession'
      have hturned := p.clock.turned_succ p.session.duration n
      refine ⟨hclock'.trans hturned.symm, ?_, hrun', fun k hk => ?_⟩
      · rw [after, hsession', hsession, beats_succ, Session.shownAll_append, hturned]
        rfl
      · rcases Nat.lt_succ_iff_lt_or_eq.mp hk with hk | rfl
        · exact hbefore k hk
        · exact houtcome

-- From a frame that starts again the beats are those of an earlier round.
theorem beats_add {p : Player} {step : Float32} (hmode : p.clock.mode = .fixed step) {m : Nat}
    (h : p.clock.Loops p.session.duration 0) (hm : p.clock.Loops p.session.duration m) (n : Nat) :
    p.beats (m + n) = p.beats m ++ p.beats n := by
  rw [beats, List.range_add, List.map_append, List.map_map]
  congr 1
  apply List.map_congr_left
  intro k _
  have hsame := hm.turned_eq_turned hmode h k
  rw [show m + 1 + k = m + k + 1 by omega, show 0 + 1 + k = k + 1 by omega] at hsame
  exact congrArg Clock.time hsame

-- After two rounds the scene is shown as it is after one.
theorem rounds_alike {p : Player} {step : Float32} (hmode : p.clock.mode = .fixed step) {m : Nat}
    (h : p.clock.Loops p.session.duration 0) (hm : p.clock.Loops p.session.duration m) (n : Nat) :
    (p.session.shownAll (p.beats (m + (n + 1)))).snapshot.Alike
      (p.session.shownAll (p.beats (m + (m + (n + 1))))).snapshot := by
  have htwins := (Session.twins_shownAll_twice (p.beats m) p.session).shownAll (p.beats n)
  rw [beats_add hmode h hm (m + (n + 1)), beats_add hmode h hm (n + 1), ← List.append_assoc,
    Session.shownAll_append, Session.shownAll_append, beats_succ, Session.shownAll_append,
    Session.shownAll_append]
  exact htwins.shown_snapshot _

theorem frame_mode (p : Player) (s : σ) : (p.frame s).2.1.clock.mode = p.clock.mode := by
  have hadvance : p.clock.advance.mode = p.clock.mode := by
    rw [Clock.advance]
    split <;> rfl
  have htick : p.nextTick.1.mode = p.clock.mode := by
    simp only [nextTick]
    split
    · split <;> exact hadvance
    · exact hadvance
  have hframed := p.framed s
  generalize p.frame s = framed at hframed
  cases hframed with
  | idle _ => rfl
  | finished _ _ => exact htick
  | shown _ _ _ => exact htick
  | failed _ _ _ => exact htick

theorem after_mode (p : Player) (s : σ) (n : Nat) :
    (p.after s n).1.clock.mode = p.clock.mode := by
  induction n with
  | zero => rfl
  | succ n ih => exact (frame_mode _ _).trans ih

theorem running_of_looped {p : Player} {s : σ} (h : (p.frame s).1 = .ok .looped) :
    p.running = true ∧ p.session.looping = true := by
  have hframed := p.framed s
  generalize p.frame s = framed at hframed h
  cases hframed with
  | idle _ => cases h
  | finished _ _ => cases h
  | shown hrunning _ _ =>
      refine ⟨hrunning, ?_⟩
      have htick : p.nextTick.2 = .looped := Except.ok.inj h
      simp only [nextTick] at htick
      split at htick
      · split at htick
        · assumption
        · cases htick
      · cases htick
  | failed _ _ _ => cases h

-- Looping playback by a fixed step is periodic once it has started again for the second time: later
-- rounds are as long as the one before, and show what it showed, frame by frame. Of the first round
-- this cannot be said, since it still shows what stood there before.
theorem looping_periodic {p : Player} {step : Float32} (hmode : p.clock.mode = .fixed step) (s : σ)
    {frames first second third : Nat} (hok : ∀ k < frames, (p.outcome s k).isOk = true)
    (hsecond : first < second) (hthird : second < third) (hframes : third < frames)
    (hlooped : ∀ k ≤ third, first ≤ k →
      (p.outcome s k = .ok .looped ↔ k = first ∨ k = second ∨ k = third)) :
    third - second = second - first ∧
      ∀ j, third + j < frames →
        (p.after s (second + j + 1)).1.session.snapshot.Alike
          (p.after s (third + j + 1)).1.session.snapshot := by
  -- the run from the first of the three frames on
  obtain ⟨q, hq⟩ : ∃ q, q = (p.after s first).1 := ⟨_, rfl⟩
  obtain ⟨s₁, hs₁⟩ : ∃ s₁, s₁ = (p.after s first).2 := ⟨_, rfl⟩
  have hshift : ∀ k, p.after s (first + k) = q.after s₁ k := fun k => by
    rw [after_add, hq, hs₁]
  have houtcome : ∀ k, p.outcome s (first + k) = q.outcome s₁ k := fun k => by
    rw [outcome_add, hq, hs₁]
  have hfirst : q.outcome s₁ 0 = .ok .looped := by
    rw [← houtcome]
    exact (hlooped first (by omega) le_rfl).mpr (.inl rfl)
  obtain ⟨hrunning, hlooping⟩ : q.running = true ∧ q.session.looping = true :=
    running_of_looped hfirst
  have hfixed : q.clock.mode = .fixed step := by rw [hq, after_mode, hmode]
  have hrolling := fun n (hn : first + n ≤ frames) =>
    after_rolling (s := s₁) (n := n) hrunning hlooping fun k hk => by
      rw [← houtcome]
      exact hok (first + k) (by omega)
  have hloops : ∀ k ≤ third - first, q.clock.Loops q.session.duration k ↔
      k = 0 ∨ k = second - first ∨ k = third - first := by
    intro k hk
    have hframe := hlooped (first + k) (by omega) (by omega)
    rw [houtcome, (hrolling (k + 1) (by omega)).2.2.2 k (by omega), Except.ok.injEq] at hframe
    rw [Clock.Loops, hframe]
    omega
  have heven : third - first - (second - first) = second - first :=
    Clock.loops_evenly hfixed (by omega) (by omega) hloops
  refine ⟨by omega, fun j hj => ?_⟩
  have hstart := (hloops 0 (by omega)).mpr (by simp)
  have hround := (hloops (second - first) (by omega)).mpr (by simp)
  have hsession : ∀ n, first + n ≤ frames → (p.after s (first + n)).1.session =
      q.session.shownAll (q.beats n) := fun n hn => by
    rw [hshift, (hrolling n hn).2.1]
  rw [show second + j + 1 = first + (second - first + (j + 1)) by omega,
    show third + j + 1 = first + (second - first + (second - first + (j + 1))) by omega,
    hsession _ (by omega), hsession _ (by omega)]
  exact rounds_alike hfixed hstart hround j

-- A ball that is moved near the end of ten seconds stays where it is when they start again: the
-- second round is not like the first, and the third is like the second.
theorem third_round_like_second :
    let slide : TimelineEvent :=
      { time := 8, duration := 2, properties := [⟨⟨"ball", "position"⟩, .position ⟨4, 0, 0⟩⟩] }
    let d : Definition := { actors := [{ id := "ball", kind := .sphere }], timeline := [slide] }
    let s := (Session.load d Recorder.fresh).stage
    ∃ e, (Session.load d Recorder.fresh).result = .ok e ∧
      let p := (ofSession e (.fixed 5)).play
      p.clock.mode = .fixed 5 ∧ (∀ k < 12, (p.outcome s k).isOk = true) ∧
        (∀ k ≤ 8, 2 ≤ k → (p.outcome s k = .ok .looped ↔ k = 2 ∨ k = 5 ∨ k = 8)) ∧
        (p.after s 1).1.session.snapshot ≠ (p.after s 4).1.session.snapshot ∧
        ∀ j, 8 + j < 12 →
          (p.after s (5 + j + 1)).1.session.snapshot.Alike
            (p.after s (8 + j + 1)).1.session.snapshot := by
  intro slide d s
  have hload : (Session.load d Recorder.fresh).result = .ok _ := rfl
  refine ⟨_, hload, ?_⟩
  intro p
  have hmode : p.clock.mode = .fixed 5 := rfl
  have hok : ∀ k < 12, (p.outcome s k).isOk = true := by decide +kernel
  have hlooped : ∀ k ≤ 8, 2 ≤ k →
      (p.outcome s k = .ok .looped ↔ k = 2 ∨ k = 5 ∨ k = 8) := by decide +kernel
  have hmoved : (p.after s 1).1.session.snapshot ≠ (p.after s 4).1.session.snapshot := by
    decide +kernel
  obtain ⟨-, halike⟩ := looping_periodic hmode s hok (by decide) (by decide) (by decide) hlooped
  exact ⟨hmode, hok, hlooped, hmoved, halike⟩

end Player

end Diorama
