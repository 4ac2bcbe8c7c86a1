import Diorama.Playback.Theater
import Diorama.Proofs.Playback.Progress
import Diorama.Proofs.Session.Frame

namespace Diorama

open Stage (performAll)

namespace Screen

-- A screen does whatever it is told.
theorem performAll_ok (orders : List Order) (s : Screen) :
    ∃ s', performAll orders s = (.ok (), s') := by
  induction orders generalizing s with
  | nil => exact ⟨s, rfl⟩
  | cons order rest ih =>
      obtain ⟨s', hrest⟩ := ih (s.perform order).2
      have hfirst : Stage.perform order s = (.ok (), (s.perform order).2) := rfl
      exact ⟨s', by rw [Stage.performAll_cons_ok hfirst, hrest]⟩

theorem evaluate_eq (e : Session) (t : Float32) (s : Screen) :
    ∃ s', e.evaluate t s = (.ok (), e.shown t, s') := by
  obtain ⟨s', hall⟩ := performAll_ok (e.orders t) s
  exact ⟨s', Session.evaluate_ok hall⟩

end Screen

namespace Player

-- The picture that stands shows the session at its own time. The player's clock says the same time,
-- unless it has run past the end since the picture was drawn.
structure Pictured (p : Player) (overrun : Bool) : Prop where
  settled : p.session.shown p.session.time = p.session
  together : overrun = false → p.time = p.session.time
  past : overrun = true → p.session.looping = false ∧ p.session.duration < p.time

-- Only the session and the time count.
theorem Pictured.congr {p q : Player} {overrun : Bool} (h : p.Pictured overrun)
    (hsession : q.session = p.session) (htime : q.time = p.time) : q.Pictured overrun := by
  constructor
  · rw [hsession]
    exact h.settled
  · rw [hsession, htime]
    exact h.together
  · rw [hsession, htime]
    exact h.past

theorem pictured_shown (p : Player) (clock : Clock) :
    ({ p with clock, session := p.session.shown clock.time } : Player).Pictured false :=
  ⟨p.session.shown_shown clock.time, fun _ => rfl, by simp⟩

theorem Pictured.play {p : Player} {overrun : Bool} (h : p.Pictured overrun) :
    p.play.Pictured overrun := by
  rw [Player.play]
  split
  · exact h
  · exact h.congr rfl rfl

theorem Pictured.toggle {p : Player} {overrun : Bool} (h : p.Pictured overrun) :
    p.toggle.Pictured overrun := by
  rw [Player.toggle]
  split
  · exact h.congr rfl rfl
  · exact h.play

-- A frame that comes to the end leaves the clock behind it and draws nothing.
def overrunAfter (overrun : Bool) : Except StageFault FrameOutcome → Bool
  | .ok .finished => true
  | .ok .idle => overrun
  | _ => false

theorem nextTick_finished {p : Player} (h : p.nextTick.2 = .finished) :
    p.session.looping = false ∧ p.session.duration < p.nextTick.1.time := by
  simp only [nextTick] at h ⊢
  split at h
  · rename_i hend
    split at h
    · cases h
    · rename_i hlooping
      simp [hend, hlooping]
  · cases h

theorem Pictured.frame {p : Player} {overrun : Bool} (h : p.Pictured overrun) (s : Screen) :
    (p.frame s).2.1.Pictured (overrunAfter overrun (p.frame s).1) := by
  have hframed := p.framed s
  generalize p.frame s = framed at hframed
  cases hframed with
  | idle hrunning => exact h.congr rfl rfl
  | finished hrunning hend => exact ⟨h.settled, by simp [overrunAfter], fun _ => nextTick_finished hend⟩
  | @shown hrunning hend session s' heval =>
      obtain ⟨s'', hshown⟩ := Screen.evaluate_eq p.session p.nextTick.1.time s
      obtain ⟨rfl, rfl⟩ : session = p.session.shown p.nextTick.1.time ∧ s' = s'' := by
        simpa [heval] using hshown
      have hdrawn : overrunAfter overrun (.ok p.nextTick.2) = false := by
        have hidle := p.nextTick_ne_idle
        cases houtcome : p.nextTick.2 <;> simp_all [overrunAfter]
      rw [hdrawn]
      exact (p.pictured_shown p.nextTick.1).congr rfl rfl
  | failed hrunning hend heval =>
      obtain ⟨s'', hshown⟩ := Screen.evaluate_eq p.session p.nextTick.1.time s
      simp [heval] at hshown

end Player

namespace Theater

@[simp] theorem draw_player (drawings : List Drawing) (house : Theater) :
    (house.draw drawings).player = house.player := rfl

@[simp] theorem drawMenu_player (house : Theater) : house.drawMenu.player = house.player := rfl

@[simp] theorem drawStatus_player (house : Theater) : house.drawStatus.player = house.player := by
  rw [drawStatus]
  split <;> rfl

theorem seek_player (t : Float32) (house : Theater) :
    (house.seek t).player =
      { house.player with
        clock := house.player.clock.set t
        session := house.player.session.shown t } := by
  obtain ⟨s', hshown⟩ := Screen.evaluate_eq house.player.session t house.screen
  simp [seek, Player.seek, hshown]

theorem seek_pictured (t : Float32) (house : Theater) : (house.seek t).player.Pictured false := by
  rw [seek_player]
  exact house.player.pictured_shown (house.player.clock.set t)

theorem restart_pictured (house : Theater) : house.restart.player.Pictured false :=
  (seek_pictured 0 { house with player := house.player.stop }).play

theorem start_pictured (house : Theater) : house.start.player.Pictured false := by
  rw [start, drawStatus_player]
  exact (seek_pictured 0 _).play

-- What a redraw does to the player: nothing but to show the session at the time of the clock.
theorem redraw_player (house : Theater) :
    house.redraw.player =
      { house.player with session := house.player.session.shown house.player.time } := by
  rw [redraw, drawStatus_player, seek_player]
  rfl

-- Whether a key starts the scene from the beginning.
def restarts (key : Key) (house : Theater) : Bool :=
  !isQuit house.bindings key && !Binding.isMatch house.bindings.togglePause key &&
    Binding.isMatch house.bindings.restart key

-- A theater over the course of an evening. The clock is overrun from a frame that comes to the end
-- on, until the next picture is drawn.
structure Evening where
  house : Theater
  overrun : Bool := false

namespace Evening

def step (event : TheaterEvent) (v : Evening) : Evening where
  house := v.house.step event
  overrun := match event with
    | .press key => v.overrun && !v.house.restarts key
    | .resize _ => false
    | .tick elapsed =>
      if v.house.player.frameRequested then
        Player.overrunAfter v.overrun ((v.house.player.measure elapsed).frame v.house.screen).1
      else v.overrun
    | .other => v.overrun

def run : List TheaterEvent → Evening → Evening
  | [], v => v
  | event :: rest, v => if v.house.isOpen then run rest (v.step event) else v

theorem run_house (events : List TheaterEvent) (v : Evening) :
    (run events v).house = Theater.run events v.house := by
  induction events generalizing v with
  | nil => rfl
  | cons event rest ih =>
      rw [run, Theater.run]
      split
      · exact ih (v.step event)
      · rfl

theorem press_pictured {v : Evening} (h : v.house.player.Pictured v.overrun) (key : Key) :
    (v.step (.press key)).house.player.Pictured (v.step (.press key)).overrun := by
  simp only [step, Theater.step, restarts]
  by_cases hquit : isQuit v.house.bindings key = true
  · simpa [hquit] using h
  simp only [hquit, Bool.false_eq_true, ↓reduceIte, drawStatus_player, act]
  by_cases htoggle : Binding.isMatch v.house.bindings.togglePause key = true
  · simpa [htoggle] using h.toggle
  by_cases hrestart : Binding.isMatch v.house.bindings.restart key = true
  · simpa [htoggle, hrestart] using restart_pictured v.house
  · simpa [htoggle, hrestart] using h

theorem tick_pictured {v : Evening} (h : v.house.player.Pictured v.overrun) (elapsed : Float32) :
    (v.step (.tick elapsed)).house.player.Pictured (v.step (.tick elapsed)).overrun := by
  have hmeasured : (v.house.player.measure elapsed).Pictured v.overrun :=
    h.congr rfl (v.house.player.measure_time elapsed)
  simp only [step, Theater.step, tick]
  split
  · simpa using hmeasured.frame v.house.screen
  · exact h

theorem step_pictured {v : Evening} (h : v.house.player.Pictured v.overrun) (event : TheaterEvent) :
    (v.step event).house.player.Pictured (v.step event).overrun := by
  cases event with
  | press key => exact press_pictured h key
  | resize size =>
      simp only [step, Theater.step, redraw, drawStatus_player]
      exact seek_pictured _ _
  | tick elapsed => exact tick_pictured h elapsed
  | other => exact h

theorem run_pictured (events : List TheaterEvent) {v : Evening}
    (h : v.house.player.Pictured v.overrun) :
    (run events v).house.player.Pictured (run events v).overrun := by
  induction events generalizing v with
  | nil => exact h
  | cons event rest ih =>
      rw [run]
      split
      · exact ih (step_pictured h event)
      · exact h

end Evening

-- Whatever has happened in a theater, a resize leaves clock, state and pending frame as they are,
-- and shows the session at the time of the clock. So it shows what stood there exactly if that was
-- of the same time. It always was, but for a clock that has run past the end since.
theorem resize_redraws_iff (session : Session) (screen : Screen) (config : PlayerConfig)
    (size next : TerminalSize) (events : List TheaterEvent) :
    let first := (ofSession session screen config size).start
    let v := Evening.run events { house := first }
    let before := v.house.player
    let after := (v.house.step (.resize next)).player
    v.house = Theater.run events first ∧
      after = { before with session := after.session } ∧
      (after.session.snapshot = before.session.snapshot ↔ before.time = before.session.time) ∧
      (v.overrun = false → after = before) ∧
      (v.overrun = true → before.session.looping = false ∧ before.session.duration < before.time ∧
        after.session.snapshot.time = before.time) := by
  intro first v before after
  have h : before.Pictured v.overrun := Evening.run_pictured events (start_pictured _)
  have hafter : after = { before with session := before.session.shown before.time } :=
    redraw_player { v.house with size := next }
  have hsame : before.time = before.session.time → after = before := by
    intro htime
    rw [hafter, htime, h.settled]
  have htime : after.session.snapshot.time = before.time := by
    rw [hafter]
    rfl
  refine ⟨Evening.run_house events _, by rw [hafter], ⟨fun hsnapshot => ?_, fun ht => ?_⟩,
    fun hrun => hsame (h.together hrun), fun hrun => ?_⟩
  · rw [← htime, hsnapshot]
    rfl
  · rw [hsame ht]
  · exact ⟨(h.past hrun).1, (h.past hrun).2, htime⟩

-- Half a second that is over after the first frame: the text that stood there until the end is gone
-- once the terminal has another size.
theorem resize_after_end_hides_text :
    let d : Definition :=
      { duration := 0.5, looping := false, annotations := [{ text := "a", duration := 0.5 }] }
    let loaded := Session.load d (Screen.ofSize 20 5 1 1)
    ∃ session, loaded.result = .ok session ∧
      let first := (ofSession session loaded.stage { frameStep := 1 } ⟨20, 7⟩).start
      let v := Evening.run [.tick 1] { house := first }
      let after := v.house.step (.resize ⟨20, 8⟩)
      v.overrun = true ∧ v.house.player.state = .paused ∧ v.house.player.session.time = 0 ∧
        v.house.player.session.views = [⟨true, 0⟩] ∧ after.player.session.time = 1 ∧
        after.player.session.views = [.hidden] :=
  ⟨_, rfl, by decide +kernel, by decide +kernel, by decide +kernel, by decide +kernel,
    by decide +kernel, by decide +kernel⟩

end Theater

end Diorama
