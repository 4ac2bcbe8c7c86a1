import Diorama.Command.Trace
import Diorama.Playback.Config
import Diorama.Proofs.Number.Addition
import Diorama.Proofs.Playback.Periodicity
import Diorama.Proofs.Session.Pruning

namespace Diorama

namespace Clock

-- What a clock says that starts at zero and goes on by the same step.
def ticks (step : Float32) : Nat → Float32
  | 0 => 0
  | n + 1 => ticks step n + step

variable {step : Float32}

theorem ticks_nonneg (h : 0 ≤ step) (n : Nat) : 0 ≤ ticks step n := by
  induction n with
  | zero =>
      have hzero : (0 : Float32) ≤ 0 := by decide
      exact hzero
  | succ n ih => exact Scalar.add_nonneg ih h

theorem units_ticks_mono (h : 0 ≤ step) : Monotone fun n => Scalar.units (ticks step n) := by
  refine monotone_nat_of_le_succ fun n => ?_
  have hle : ticks step n ≤ ticks step (n + 1) := Scalar.le_add_right (ticks_nonneg h n) h
  exact (Scalar.le_iff_units (ticks_nonneg h n) (ticks_nonneg h (n + 1))).mp hle

-- A step that is too small beside the time does not move a clock of singles any more.
theorem ticks_of_stalled {n : Nat} (h : ticks step (n + 1) = ticks step n) {m : Nat} (hm : n ≤ m) :
    ticks step m = ticks step n := by
  induction m, hm using Nat.le_induction with
  | base => rfl
  | succ m _ ih => rw [ticks, ih, ← ticks, h]

end Clock

namespace TimelineEvent

-- The event fits between two ticks of a clock, and touches neither.
def FallsBetween (event : TimelineEvent) (step : Float32) (n : Nat) : Prop :=
  Clock.ticks step n < event.time ∧ event.time + event.duration < Clock.ticks step (n + 1)

theorem isActive_iff {event : TimelineEvent} {t : Float32} :
    event.isActive t = true ↔ event.time ≤ t ∧ t ≤ event.time + event.duration := by
  have hle : ∀ a b : Float32, Scalar.le a b = decide (a ≤ b) := fun _ _ => rfl
  simp [isActive, window, Window.contains, hle]

variable {event : TimelineEvent} {step : Float32}

-- An event that is active at a tick falls between no two of them.
theorem not_fallsBetween_of_isActive (hstep : 0 ≤ step) (htime : 0 ≤ event.time)
    (hlength : 0 ≤ event.duration) {k : Nat} (hactive : event.isActive (Clock.ticks step k) = true)
    (n : Nat) : ¬event.FallsBetween step n := by
  rintro ⟨hbefore, hafter⟩
  obtain ⟨hfrom, hto⟩ := isActive_iff.mp hactive
  have hend := Scalar.add_nonneg htime hlength
  have hticks := Clock.ticks_nonneg hstep
  have hmono := Clock.units_ticks_mono hstep
  rw [Scalar.lt_iff_units (hticks n) htime] at hbefore
  rw [Scalar.lt_iff_units hend (hticks (n + 1))] at hafter
  rw [Scalar.le_iff_units htime (hticks k)] at hfrom
  rw [Scalar.le_iff_units (hticks k) hend] at hto
  have hlt : n < k := hmono.reflect_lt (hbefore.trans_le hfrom)
  have hle : Scalar.units (Clock.ticks step (n + 1)) ≤ Scalar.units (Clock.ticks step k) :=
    hmono hlt
  omega

-- Neither does an event that is as long as the step.
theorem not_fallsBetween_of_le (hstep : 0 ≤ step) (htime : 0 ≤ event.time)
    (hlength : step ≤ event.duration) (n : Nat) : ¬event.FallsBetween step n := by
  rintro ⟨hbefore, hafter⟩
  have hduration := Scalar.nonneg_of_le hstep hlength
  have hticks := Clock.ticks_nonneg hstep
  have hle : Clock.ticks step n ≤ event.time := by
    rw [Scalar.lt_iff_units (hticks n) htime] at hbefore
    rw [Scalar.le_iff_units (hticks n) htime]
    exact hbefore.le
  have hsum : Clock.ticks step (n + 1) ≤ event.time + event.duration :=
    Scalar.add_le_add (hticks n) hstep hle hlength
  have hend := Scalar.add_nonneg htime hduration
  rw [Scalar.lt_iff_units hend (hticks (n + 1))] at hafter
  rw [Scalar.le_iff_units (hticks (n + 1)) hend] at hsum
  omega

-- As long as an event has fallen between no two ticks, it has been met or is still ahead.
theorem exists_isActive_or_lt (hstep : 0 ≤ step) (htime : 0 ≤ event.time)
    (hlength : 0 ≤ event.duration) {n : Nat} (hnone : ∀ k < n, ¬event.FallsBetween step k) :
    (∃ k ≤ n, event.isActive (Clock.ticks step k) = true) ∨ Clock.ticks step n < event.time := by
  have hend := Scalar.add_nonneg htime hlength
  have hlasts := Scalar.le_add_right htime hlength
  have hticks := Clock.ticks_nonneg hstep
  induction n with
  | zero =>
      by_cases hahead : Clock.ticks step 0 < event.time
      · exact .inr hahead
      · have hzero : Scalar.units (Clock.ticks step 0) = 0 := Scalar.units_zero
        refine .inl ⟨0, le_rfl, isActive_iff.mpr ?_⟩
        rw [Scalar.lt_iff_units (hticks 0) htime] at hahead
        rw [Scalar.le_iff_units htime (hticks 0), Scalar.le_iff_units (hticks 0) hend]
        omega
  | succ n ih =>
      rcases ih fun k hk => hnone k (by omega) with ⟨k, hk, hactive⟩ | hbefore
      · exact .inl ⟨k, by omega, hactive⟩
      · by_cases hahead : Clock.ticks step (n + 1) < event.time
        · exact .inr hahead
        · have hafter : ¬event.time + event.duration < Clock.ticks step (n + 1) := fun hafter =>
            hnone n (by omega) ⟨hbefore, hafter⟩
          refine .inl ⟨n + 1, le_rfl, isActive_iff.mpr ?_⟩
          rw [Scalar.lt_iff_units (hticks (n + 1)) htime] at hahead
          rw [Scalar.lt_iff_units hend (hticks (n + 1))] at hafter
          rw [Scalar.le_iff_units htime (hticks (n + 1)), Scalar.le_iff_units (hticks (n + 1)) hend]
          omega

-- The ticks of a clock that goes past the end of an event meet it, unless it falls between two.
theorem exists_isActive_iff (hstep : 0 ≤ step) (htime : 0 ≤ event.time)
    (hlength : 0 ≤ event.duration) {n : Nat}
    (hpast : event.time + event.duration < Clock.ticks step (n + 1)) :
    (∃ k ≤ n, event.isActive (Clock.ticks step k) = true) ↔
      ∀ k ≤ n, ¬event.FallsBetween step k := by
  constructor
  · rintro ⟨k, -, hactive⟩ j -
    exact not_fallsBetween_of_isActive hstep htime hlength hactive j
  · intro hnone
    rcases exists_isActive_or_lt hstep htime hlength fun k hk => hnone k hk.le with hmet | hbefore
    · exact hmet
    · exact absurd ⟨hbefore, hpast⟩ (hnone n le_rfl)

end TimelineEvent

namespace Player

open Clock (ticks)

variable {σ : Type} [Stage σ]

-- Playback as a trace runs it: the scene is shown at zero, and a number of frames after that.
def played (step : Float32) (e : Session) (s : σ) (n : Nat) : Player × σ :=
  let opened := ((ofSession e (.fixed step)).seek 0 s).2
  opened.1.play.after opened.2 n

-- How the frame after them ends.
def ending (step : Float32) (e : Session) (s : σ) (n : Nat) : Except StageFault FrameOutcome :=
  ((played step e s n).1.frame (played step e s n).2).1

-- Such a playback goes on without a fault, until the frame after so many goes past the end.
structure GoesThrough (step : Float32) (e : Session) (s : σ) (n : Nat) : Prop where
  opened : ((ofSession e (.fixed step)).seek 0 s).1 = .ok ()
  rendered : ∀ k < n, ending step e s k = .ok .rendered
  passed : ending step e s n = .ok .looped ∨ ending step e s n = .ok .finished

-- The session that a frame of it shows, and the stage that it is shown on.
def shownIn (step : Float32) (e : Session) (s : σ) : Nat → Session × σ
  | 0 => (e, s)
  | n + 1 => ((played step e s n).1.session, (played step e s n).2)

-- A player in such a playback.
structure Rolling (d : Definition) (step : Float32) (n : Nat) (p : Player) : Prop where
  running : p.running = true
  requested : p.frameRequested = true
  mode : p.clock.mode = .fixed step
  time : p.time = ticks step n
  underway : Session.Underway d p.session

variable {d : Definition} {step : Float32} {n : Nat} {p : Player}

theorem Rolling.advance_time (h : p.Rolling d step n) :
    p.clock.advance.mode = .fixed step ∧ p.clock.advance.time = ticks step (n + 1) := by
  have htime : p.clock.time = ticks step n := h.time
  simp only [Clock.advance, h.mode, htime, true_and]
  rfl

theorem nextTick_of_rendered (h : p.nextTick.2 = .rendered) : p.nextTick.1 = p.clock.advance := by
  simp only [nextTick] at h ⊢
  split_ifs at h ⊢
  rfl

theorem Rolling.frame (h : p.Rolling d step n) {s : σ} (hframe : (p.frame s).1 = .ok .rendered) :
    (p.frame s).2.1.Rolling d step (n + 1) ∧
      p.session.evaluate (ticks step (n + 1)) s =
        (.ok (), (p.frame s).2.1.session, (p.frame s).2.2) := by
  obtain ⟨hmode, htime⟩ := h.advance_time
  have hframed := p.framed s
  generalize p.frame s = framed at hframed hframe
  cases hframed with
  | idle hrunning => simp [h.running] at hrunning
  | finished _ _ => cases hframe
  | failed _ _ _ => cases hframe
  | shown hrunning hend heval =>
      have htick := nextTick_of_rendered (Except.ok.inj hframe)
      have hunderway := h.underway.evaluate p.nextTick.1.time s
      rw [heval] at hunderway
      rw [htick, htime] at heval
      exact ⟨⟨h.running, rfl, htick ▸ hmode, htick ▸ htime, hunderway⟩, heval⟩

theorem Rolling.nextTick_eq_rendered_iff (h : p.Rolling d step n) :
    p.nextTick.2 = .rendered ↔ ¬d.duration < ticks step (n + 1) := by
  obtain ⟨-, htime⟩ := h.advance_time
  simp only [nextTick, Session.duration, h.underway.definition_eq, htime]
  split_ifs with hpast <;> simp [hpast]

theorem Rolling.frame_of_isOk (h : p.Rolling d step n) {s : σ} (hok : (p.frame s).1.isOk = true) :
    (p.frame s).1 = .ok p.nextTick.2 := by
  have hframed := p.framed s
  generalize p.frame s = framed at hframed hok
  cases hframed with
  | idle hrunning => simp [h.running] at hrunning
  | finished _ hend => rw [hend]
  | shown _ _ _ => rfl
  | failed _ _ _ => cases hok

-- The frame that finds the end finds the clock past it.
theorem Rolling.passed_iff (h : p.Rolling d step n) {s : σ} (hok : (p.frame s).1.isOk = true) :
    ((p.frame s).1 = .ok .looped ∨ (p.frame s).1 = .ok .finished) ↔
      d.duration < ticks step (n + 1) := by
  rw [h.frame_of_isOk hok, ← not_iff_not, ← h.nextTick_eq_rendered_iff]
  have hidle := p.nextTick_ne_idle
  generalize p.nextTick.2 = outcome at hidle
  cases outcome with
  | idle => exact absurd rfl hidle
  | _ => simp

theorem Rolling.duration_lt (h : p.Rolling d step n) {s : σ}
    (hframe : (p.frame s).1 = .ok .looped ∨ (p.frame s).1 = .ok .finished) :
    d.duration < ticks step (n + 1) := by
  refine (h.passed_iff ?_).mp hframe
  rcases hframe with hframe | hframe <;> rw [hframe] <;> rfl

theorem Rolling.start {e : Session} (he : Session.Underway d e) {s : σ}
    (h : ((ofSession e (.fixed step)).seek 0 s).1 = .ok ()) :
    (played step e s 0).1.Rolling d step 0 ∧
      e.evaluate (ticks step 0) s =
        (.ok (), (played step e s 0).1.session, (played step e s 0).2) := by
  have hevaluate : (e.evaluate 0 s).1 = .ok () := h
  refine ⟨⟨rfl, rfl, rfl, rfl, he.evaluate 0 s⟩, ?_⟩
  exact Prod.ext hevaluate rfl

-- Until it goes past the end such a playback rolls on, and shows one tick after the other.
theorem GoesThrough.rolling {e : Session} {s : σ} (h : GoesThrough step e s n)
    (he : Session.Underway d e) {k : Nat} (hk : k ≤ n) :
    (played step e s k).1.Rolling d step k ∧
      (shownIn step e s k).1.evaluate (ticks step k) (shownIn step e s k).2 =
        (.ok (), (played step e s k).1.session, (played step e s k).2) := by
  induction k with
  | zero => exact Rolling.start he h.opened
  | succ k ih =>
      obtain ⟨hrolling, -⟩ := ih (by omega)
      exact hrolling.frame (h.rendered k (by omega))

theorem GoesThrough.shownIn_underway {e : Session} {s : σ} (h : GoesThrough step e s n)
    (he : Session.Underway d e) {k : Nat} (hk : k ≤ n) :
    Session.Underway d (shownIn step e s k).1 := by
  cases k with
  | zero => exact he
  | succ k => exact (h.rolling he (by omega)).1.underway

-- Where nothing fails a playback goes through as soon as some tick is past the end.
theorem exists_goesThrough_iff {e : Session} (he : Session.Underway d e) {s : σ}
    (hopened : ((ofSession e (.fixed step)).seek 0 s).1 = .ok ())
    (hok : ∀ k, (ending step e s k).isOk = true) :
    (∃ n, GoesThrough step e s n) ↔ ∃ n, d.duration < ticks step (n + 1) := by
  constructor
  · rintro ⟨n, h⟩
    exact ⟨n, (h.rolling he le_rfl).1.duration_lt h.passed⟩
  · intro hpast
    -- up to the first tick past the end every frame is drawn
    have hrendered : ∀ k < Nat.find hpast, (played step e s k).1.Rolling d step k →
        ending step e s k = .ok .rendered := by
      intro k hk hrolling
      have hnext := hrolling.nextTick_eq_rendered_iff.mpr (Nat.find_min hpast hk)
      rw [← hnext]
      exact hrolling.frame_of_isOk (hok k)
    have hrolling : ∀ k ≤ Nat.find hpast, (played step e s k).1.Rolling d step k := by
      intro k hk
      induction k with
      | zero => exact (Rolling.start he hopened).1
      | succ k ih =>
          have hcurrent := ih (by omega)
          exact (hcurrent.frame (hrendered k (by omega) hcurrent)).1
    have hpassed := ((hrolling _ le_rfl).passed_iff (hok _)).mpr (Nat.find_spec hpast)
    exact ⟨Nat.find hpast, hopened, fun k hk => hrendered k hk (hrolling k hk.le), hpassed⟩

-- A clock that stalls before the end never goes past it.
theorem not_goesThrough_of_stalled {e : Session} (he : Session.Underway d e) {s : σ}
    (hstep : 0 ≤ step) {k : Nat} (hstalled : ticks step (k + 1) = ticks step k)
    (hbefore : ticks step k ≤ d.duration) (n : Nat) : ¬GoesThrough step e s n := by
  intro h
  have hpast := (h.rolling he le_rfl).1.duration_lt h.passed
  have hticks := Clock.ticks_nonneg hstep
  have hduration := Scalar.nonneg_of_le (hticks k) hbefore
  rw [Scalar.lt_iff_units hduration (hticks (n + 1))] at hpast
  rw [Scalar.le_iff_units (hticks k) hduration] at hbefore
  have hle : Scalar.units (ticks step (n + 1)) ≤ Scalar.units (ticks step k) := by
    rcases le_total (n + 1) k with hn | hn
    · exact Clock.units_ticks_mono hstep hn
    · rw [Clock.ticks_of_stalled hstalled hn]
  omega

end Player

namespace Trace

open Player (GoesThrough played)

variable {σ : Type} [Stage σ]

-- Frames that were shown stay shown.
theorem getElem?_further {shown : Array Snapshot} {k : Nat} {snapshot : Snapshot}
    (h : shown[k]? = some snapshot) (limit : Nat) (p : Player) (s : σ) :
    (further shown limit p s).snapshots[k]? = some snapshot := by
  induction limit generalizing shown p s with
  | zero => exact h
  | succ limit ih =>
      have hpush : ∀ next, (shown.push next)[k]? = some snapshot := by
        intro next
        obtain ⟨hk, -⟩ := Array.getElem?_eq_some_iff.mp h
        rw [Array.getElem?_push_lt hk, ← Array.getElem?_eq_getElem, h]
      rw [further]
      split
      · exact h
      · split
        · exact h
        · exact h
        · exact ih (hpush _) _ _

theorem further_of_rendered {p : Player} {s : σ} (hrequested : p.frameRequested = true)
    (hframe : (p.frame s).1 = .ok .rendered) (shown : Array Snapshot) (limit : Nat) :
    further shown (limit + 1) p s =
      further (shown.push (p.frame s).2.1.session.snapshot) limit (p.frame s).2.1
        (p.frame s).2.2 := by
  rw [further]
  rcases hf : p.frame s with ⟨result, next, s'⟩
  rw [hf] at hframe
  obtain rfl : result = .ok .rendered := hframe
  simp [hrequested]

-- A trace has shown so many frames of its playback, and goes on from there.
theorem exists_further {d : Definition} {e : Session} (he : Session.Underway d e) {step : Float32}
    {s : σ} {n : Nat} (h : GoesThrough step e s n) {k : Nat} (hk : k ≤ n) {count : Nat}
    (hcount : k < count) :
    ∃ shown : Array Snapshot, shown.size = k + 1 ∧
      shown[k]? = some (played step e s k).1.session.snapshot ∧
      ofSession count step e s =
        further shown (count - 1 - k) (played step e s k).1 (played step e s k).2 := by
  induction k with
  | zero =>
      refine ⟨#[(played step e s 0).1.session.snapshot], rfl, rfl, ?_⟩
      have hopened : (e.evaluate 0 s).1 = .ok () := h.opened
      simp only [ofSession, Player.seek, played, Player.ofSession]
      rcases heval : e.evaluate 0 s with ⟨_ | _, session, s'⟩
      · rw [heval] at hopened
        cases hopened
      · rfl
  | succ k ih =>
      obtain ⟨shown, hsize, -, heq⟩ := ih (by omega) (by omega)
      have hrolling := (h.rolling he (k := k) (by omega)).1
      refine ⟨shown.push (played step e s (k + 1)).1.session.snapshot, by simp [hsize], ?_, ?_⟩
      · rw [← hsize, Array.getElem?_push_size]
      · rw [heq, show count - 1 - k = count - 1 - (k + 1) + 1 by omega,
          further_of_rendered hrolling.requested (h.rendered k (by omega))]
        rfl

theorem getElem?_ofSession {d : Definition} {e : Session} (he : Session.Underway d e)
    {step : Float32} {s : σ} {n : Nat} (h : GoesThrough step e s n) {k : Nat} (hk : k ≤ n)
    {count : Nat} (hcount : k < count) :
    (ofSession count step e s).snapshots[k]? = some (played step e s k).1.session.snapshot := by
  obtain ⟨shown, -, hshown, heq⟩ := exists_further he h hk hcount
  rw [heq]
  exact getElem?_further hshown _ _ _

end Trace

namespace Player

open Clock (ticks)

variable {σ : Type} [Stage σ] {d : Definition}

-- A frame of such a playback shows a session at a tick of the clock, and is what a trace shows.
structure ShowsTick (step : Float32) (e : Session) (s : σ) (k : Nat) : Prop where
  time : (played step e s k).1.time = ticks step k
  shown : (shownIn step e s k).1.evaluate (ticks step k) (shownIn step e s k).2 =
    (.ok (), (played step e s k).1.session, (played step e s k).2)
  traced : ∀ count, k < count →
    (Trace.ofSession count step e s).snapshots[k]? = some (played step e s k).1.session.snapshot

-- An event takes effect in a frame: it is active at the time of the frame, and all that it does to
-- the actors of the animation is carried out.
structure TakesEffect (d : Definition) (event : TimelineEvent) (step : Float32) (e : Session)
    (s : σ) (k : Nat) : Prop where
  active : event.isActive (played step e s k).1.time = true
  executed : ∀ o : Occurrence d.timeline, o.event = event →
    (d.actors.find? (·.id == o.assignment.key.actor)).isSome = true →
      o.Executed (shownIn step e s k).1

theorem GoesThrough.showsTick {step : Float32} {e : Session} {s : σ} {n : Nat}
    (h : GoesThrough step e s n) (he : Session.Underway d e) {k : Nat} (hk : k ≤ n) :
    ShowsTick step e s k where
  time := (h.rolling he hk).1.time
  shown := (h.rolling he hk).2
  traced _ hcount := Trace.getElem?_ofSession he h hk hcount

theorem GoesThrough.takesEffect_iff {step : Float32} {e : Session} {s : σ} {n : Nat}
    (h : GoesThrough step e s n) (he : Session.Underway d e) {k : Nat} (hk : k ≤ n)
    (event : TimelineEvent) :
    TakesEffect d event step e s k ↔ event.isActive (ticks step k) = true := by
  rw [← (h.rolling he hk).1.time]
  refine ⟨TakesEffect.active, fun hactive => ⟨hactive, fun o _ hactor => ?_⟩⟩
  have hunderway := h.shownIn_underway he hk
  rw [← hunderway.casts.isSome_indexOf, Option.isSome_iff_exists] at hactor
  obtain ⟨index, hindex⟩ := hactor
  exact o.executed (by rw [hunderway.definition_eq]) hunderway.casts.indexed hindex

-- Playback by a fixed step, from the start until the clock goes past the end: whatever stage it is
-- shown on, each frame shows one tick of the clock, and those events take effect that are active
-- then. An event that begins and ends within the animation takes effect in one of the frames
-- exactly if it does not fall between two ticks. So every event does that is as long as the step.
theorem events_sampled {e : Session} (he : Session.Underway d e) {step : Float32}
    (hstep : 0 ≤ step) {s : σ} {n : Nat} (h : GoesThrough step e s n) :
    (∀ k ≤ n, ShowsTick step e s k ∧ ∀ event,
      TakesEffect d event step e s k ↔ event.isActive (ticks step k) = true) ∧
      ∀ event : TimelineEvent, 0 ≤ event.time → 0 ≤ event.duration →
        event.time + event.duration ≤ d.duration →
          ((∃ k ≤ n, TakesEffect d event step e s k) ↔ ∀ k ≤ n, ¬event.FallsBetween step k) ∧
          (step ≤ event.duration → ∃ k ≤ n, TakesEffect d event step e s k) := by
  refine ⟨fun k hk => ⟨h.showsTick he hk, h.takesEffect_iff he hk⟩, ?_⟩
  intro event htime hlength hend
  have hpast : event.time + event.duration < ticks step (n + 1) := by
    have hbegins := Scalar.add_nonneg htime hlength
    have hduration := Scalar.nonneg_of_le hbegins hend
    have hticks := Clock.ticks_nonneg hstep (n + 1)
    have hlt := (h.rolling he le_rfl).1.duration_lt h.passed
    rw [Scalar.le_iff_units hbegins hduration] at hend
    rw [Scalar.lt_iff_units hduration hticks] at hlt
    rw [Scalar.lt_iff_units hbegins hticks]
    omega
  have hiff : (∃ k ≤ n, TakesEffect d event step e s k) ↔
      ∀ k ≤ n, ¬event.FallsBetween step k := by
    rw [← TimelineEvent.exists_isActive_iff hstep htime hlength hpast]
    exact exists_congr fun k => and_congr_right fun hk => h.takesEffect_iff he hk event
  exact ⟨hiff, fun hlong => hiff.mpr fun k _ => event.not_fallsBetween_of_le hstep htime hlong k⟩

-- An event as long as the step is seen wherever it begins.
theorem slide_seen :
    let slide : TimelineEvent :=
      { time := 0.25, duration := 0.5, properties := [⟨⟨"ball", "position"⟩, .position ⟨1, 2, 3⟩⟩] }
    let d : Definition :=
      { duration := 1, looping := false, actors := [{ id := "ball", kind := .sphere }],
        timeline := [slide] }
    let s := (Session.load d Recorder.fresh).stage
    ∃ e, (Session.load d Recorder.fresh).result = .ok e ∧ (0 : Float32) ≤ 0.5 ∧
      GoesThrough 0.5 e s 2 ∧ ¬slide.FallsBetween 0.5 0 ∧
      ∃ k ≤ 2, TakesEffect d slide 0.5 e s k := by
  intro slide d s
  have hload : (Session.load d Recorder.fresh).result = .ok _ := rfl
  have hstep : (0 : Float32) ≤ 0.5 := by decide +kernel
  have hgoes : ∀ e, (Session.load d Recorder.fresh).result = .ok e → GoesThrough 0.5 e s 2 := by
    intro e he
    obtain rfl := Except.ok.inj (hload.symm.trans he)
    exact ⟨by decide +kernel, by decide +kernel, .inr (by decide +kernel)⟩
  obtain ⟨-, hevents⟩ := events_sampled (.load hload) hstep (hgoes _ hload)
  obtain ⟨hiff, hlong⟩ := hevents slide (by decide +kernel) (by decide +kernel) (by decide +kernel)
  have hseen := hlong (by decide +kernel)
  exact ⟨_, hload, hstep, hgoes _ hload, hiff.mp hseen 0 (by decide), hseen⟩

-- An event of no length that falls between two ticks is never seen.
theorem flash_unseen :
    ¬∀ (text config : String) (d : Definition) (e : Session) (n : Nat),
      (Definition.ofText text).result = .ok d → (Session.load d Recorder.fresh).result = .ok e →
      let step := (PlayerConfig.ofText config).2.frameStep
      let s := (Session.load d Recorder.fresh).stage
      GoesThrough step e s n →
        ∀ event ∈ d.timeline, 0 ≤ event.time → 0 ≤ event.duration →
          event.time + event.duration ≤ d.duration →
            ∃ k ≤ n, event.isActive (played step e s k).1.time = true := by
  intro h
  let text := "\x7b\"loop\":false,\"duration\":1,\"actors\":[\x7b\"id\":\"ball\"\x7d]," ++
    "\"timeline\":[\x7b\"time\":0.25,\"duration\":0," ++
      "\"properties\":\x7b\"ball_position\":[1,2,3]\x7d\x7d]\x7d"
  let config := "\x7b\"frame_step\":0.5\x7d"
  have hstep : (PlayerConfig.ofText config).2.frameStep = 0.5 := by decide +kernel
  -- the frames are at zero, one half and one, and the end comes after them
  have hmissed : (Definition.ofText text).result.toOption.any (fun d =>
      (Session.load d Recorder.fresh).result.toOption.any fun e => decide (
        ((ofSession e (.fixed 0.5)).seek 0 (Session.load d Recorder.fresh).stage).1 = .ok () ∧
        (∀ k : Nat, k < 2 →
          ending 0.5 e (Session.load d Recorder.fresh).stage k = .ok .rendered) ∧
        ending 0.5 e (Session.load d Recorder.fresh).stage 2 = .ok .finished ∧
        ∃ flash ∈ d.timeline, 0 ≤ flash.time ∧ 0 ≤ flash.duration ∧
          flash.time + flash.duration ≤ d.duration ∧ ∀ k : Nat, k ≤ 2 →
            flash.isActive (played 0.5 e (Session.load d Recorder.fresh).stage k).1.time =
              false)) = true := by
    decide +kernel
  cases hd : (Definition.ofText text).result with
  | error fault => simp [hd, Except.toOption] at hmissed
  | ok d =>
      rw [hd, Except.toOption, Option.any_some] at hmissed
      cases he : (Session.load d Recorder.fresh).result with
      | error fault => simp [he, Except.toOption] at hmissed
      | ok e =>
          rw [he, Except.toOption, Option.any_some, decide_eq_true_eq] at hmissed
          obtain ⟨hopened, hrendered, hfinished, flash, hmem, htime, hlength, hend, hnever⟩ :=
            hmissed
          have hclaimed := h text config d e 2 hd he
          simp only [hstep] at hclaimed
          obtain ⟨k, hk, hactive⟩ :=
            hclaimed ⟨hopened, hrendered, .inr hfinished⟩ flash hmem htime hlength hend
          exact absurd (hactive.symm.trans (hnever k hk)) (by decide)

end Player

end Diorama
