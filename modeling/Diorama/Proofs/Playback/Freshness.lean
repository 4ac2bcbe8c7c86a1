import Diorama.Proofs.Playback.Bars
import Diorama.Proofs.Terminal.Surface

namespace Diorama

-- Whether an event ends the show: the escape key does, and any key that is bound to quitting.
def TheaterEvent.quits (bindings : KeyBindings) : TheaterEvent → Bool
  | .press key => key.code = .esc ∨ Binding.isMatch bindings.quit key = true
  | _ => false

theorem Theater.isQuit_eq (bindings : KeyBindings) (key : Key) :
    isQuit bindings key = (TheaterEvent.press key).quits bindings := by
  rw [isQuit, TheaterEvent.quits, Bool.decide_or, Bool.decide_eq_true, Bool.or_comm]
  rfl

namespace Theater

variable {first : Surface} {bindings : KeyBindings} {house : Theater}

-- What the terminal of a theater shows.
def surface (first : Surface) (house : Theater) : Surface := house.screen.surface first

-- The menu stands above the canvas, and the screen is right about what is on the terminal.
structure Ready (first : Surface) (bindings : KeyBindings) (house : Theater) : Prop where
  bindings_eq : house.bindings = bindings
  originRow_eq : house.screen.originRow = menuRows
  shown : ∀ picture ∈ house.screen.kept, (house.surface first).display.Shows menuRows picture
  menu : (house.surface first).bars 0 = some (.menuBar (menuItems bindings))

-- Besides, the last picture that was drawn is that of what is on the stage.
structure Drawn (first : Surface) (bindings : KeyBindings) (house : Theater) : Prop
    extends house.Ready first bindings where
  previous : house.screen.previous = some house.screen.rasterize

-- Besides, the status line is the one of the player as it is, if there is a row for it.
structure Fresh (first : Surface) (bindings : KeyBindings) (house : Theater) : Prop
    extends house.Drawn first bindings where
  status : house.statusRow < house.size.rows →
    (house.surface first).bars house.statusRow =
      some (.statusLine house.statusRow (status house.player))

theorem Ready.inOrder (h : house.Ready first bindings) :
    house.screen.InOrder first house.screen.height menuRows (house.surface first).bars where
  height_eq := rfl
  originRow_eq := h.originRow_eq
  shown := h.originRow_eq ▸ h.shown
  bars _ _ := rfl

-- The menu is not on the canvas.
theorem Ready.of_inOrder (h : house.Ready first bindings) {s : Screen}
    (hs : s.InOrder first house.screen.height menuRows (house.surface first).bars) (p : Player) :
    ({ house with player := p, screen := s } : Theater).Ready first bindings where
  bindings_eq := h.bindings_eq
  originRow_eq := hs.originRow_eq
  shown := hs.originRow_eq ▸ hs.shown
  menu := (hs.bars 0 (by simp [menuRows])).trans h.menu

-- Nothing but the status line depends on the player.
theorem Drawn.withPlayer (h : house.Drawn first bindings) (p : Player) :
    ({ house with player := p } : Theater).Drawn first bindings :=
  ⟨⟨h.bindings_eq, h.originRow_eq, h.shown, h.menu⟩, h.previous⟩

theorem Ready.seek (h : house.Ready first bindings) (t : Float32) :
    (house.seek t).Drawn first bindings := by
  have hs := Screen.inOrder_keeps.seek house.player t h.inOrder
  refine ⟨h.of_inOrder hs _, ?_⟩
  obtain ⟨s', heval⟩ := Screen.evaluate_renders house.player.session t house.screen
  have hscreen : (house.seek t).screen = s'.renderFrame := congrArg (·.2.2) heval
  rw [hscreen]
  rfl

-- Without a picture on it a screen may have its terminal set up in any way.
theorem ready_drawMenu (hbindings : house.bindings = bindings)
    (horigin : house.screen.originRow = menuRows) (hempty : house.screen.kept = none) :
    house.drawMenu.Ready first bindings where
  bindings_eq := hbindings
  originRow_eq := horigin
  shown picture hpicture := by
    have hkept : house.drawMenu.screen.kept = house.screen.kept := rfl
    simp [hkept, hempty] at hpicture
  menu := by
    have hsurface : house.drawMenu.surface first = _ :=
      Screen.surface_write [.menuBar (menuItems house.bindings)]
    rw [hsurface, hbindings]
    simp [Surface.writeAll, Surface.write, Surface.put]

-- The status line is not on the canvas, and not on the row of the menu.
theorem Drawn.drawStatus (h : house.Drawn first bindings) :
    house.drawStatus.Fresh first bindings := by
  rw [Theater.drawStatus]
  split
  · have hsurface : (house.draw [.statusLine house.statusRow (Theater.status house.player)]).surface
        first = (house.surface first).put house.statusRow (.statusLine house.statusRow
          (Theater.status house.player)) :=
      Screen.surface_write [.statusLine house.statusRow (Theater.status house.player)]
    have hbelow : house.statusRow = house.screen.height + menuRows := by
      rw [statusRow, h.originRow_eq, Nat.add_comm]
    refine ⟨⟨⟨h.bindings_eq, h.originRow_eq, fun picture hpicture => ?_, ?_⟩, h.previous⟩,
      fun _ => ?_⟩
    · obtain rfl : (fun x y => house.screen.rasterize.cell? x y) = picture := by
        have hkept := hpicture
        simpa [Screen.kept, draw, Screen.write, h.previous] using hkept
      rw [hsurface]
      refine Surface.put_shows (h.shown _ (by simp [Screen.kept, h.previous])) ?_ _
      intro x y cell hcell
      have hy : y < house.screen.height :=
        (Canvas.cell?_isSome_iff.mp (Option.isSome_of_mem hcell)).2
      omega
    · rw [hsurface, ← h.menu]
      simp [Surface.put, hbelow, menuRows]
    · rw [hsurface]
      exact if_pos rfl
  · rename_i hroom
    exact ⟨h, fun hrow => absurd hrow hroom⟩

theorem Drawn.act (h : house.Drawn first bindings) (key : Key) :
    (house.act key).Drawn first bindings := by
  rw [Theater.act]
  split
  · exact h.withPlayer house.player.toggle
  · split
    · have hstopped := (h.withPlayer house.player.stop).toReady
      exact (hstopped.seek 0).withPlayer _
    · exact h

-- A frame that draws nothing changes nothing that could be drawn.
theorem Drawn.frame (h : house.Drawn first bindings) (p : Player) :
    ({ house with
      player := (p.frame house.screen).2.1
      screen := (p.frame house.screen).2.2 } : Theater).Drawn first bindings := by
  have hs := Screen.inOrder_keeps.frame p h.inOrder
  refine ⟨h.of_inOrder hs _, ?_⟩
  have hframed := p.framed house.screen
  generalize p.frame house.screen = framed at hframed
  cases hframed with
  | idle _ => exact h.previous
  | finished _ _ => exact h.previous
  | shown _ _ heval =>
      obtain ⟨s', hrenders⟩ := Screen.evaluate_renders p.session p.nextTick.1.time house.screen
      obtain rfl := congrArg (·.2.2) (heval.symm.trans hrenders)
      rfl
  | failed _ _ heval =>
      obtain ⟨s', hrenders⟩ := Screen.evaluate_renders p.session p.nextTick.1.time house.screen
      simp [heval] at hrenders

theorem Fresh.tick (h : house.Fresh first bindings) (elapsed : Float32) :
    (house.tick elapsed).Fresh first bindings := by
  rw [Theater.tick]
  split
  · exact (h.frame (house.player.measure elapsed)).drawStatus
  · exact h

theorem Ready.redraw (h : house.Ready first bindings) : house.redraw.Fresh first bindings := by
  have hready : ({ house.draw [.clear] with
      screen := (house.draw [.clear]).screen.invalidate } : Theater).drawMenu.Ready
        first bindings := ready_drawMenu h.bindings_eq h.originRow_eq rfl
  exact (hready.seek _).drawStatus

theorem Fresh.step (h : house.Fresh first bindings) (event : TheaterEvent) :
    (house.step event).Fresh first bindings := by
  cases event with
  | press key =>
      rw [Theater.step]
      split
      · exact ⟨⟨⟨h.bindings_eq, h.originRow_eq, h.shown, h.menu⟩, h.previous⟩, h.status⟩
      · exact (h.act key).drawStatus
  | resize size =>
      have hsized : ({ house with size } : Theater).Ready first bindings :=
        ⟨h.bindings_eq, h.originRow_eq, h.shown, h.menu⟩
      exact hsized.redraw
  | tick elapsed => exact h.tick elapsed
  | other => exact h

theorem Fresh.run (h : house.Fresh first bindings) (events : List TheaterEvent) :
    (Theater.run events house).Fresh first bindings := by
  induction events generalizing house with
  | nil => exact h
  | cons event rest ih =>
      rw [Theater.run]
      split
      · exact ih (h.step event)
      · exact h

theorem Fresh.start {e : Session} {screen : Screen} (config : PlayerConfig) (size : TerminalSize)
    (horigin : screen.originRow = menuRows) (hempty : screen.kept = none) :
    (ofSession e screen config size).start.Fresh first config.bindings := by
  have hready : ((ofSession e screen config size).draw [.enter]).drawMenu.Ready first
      config.bindings := ready_drawMenu rfl horigin hempty
  exact ((hready.seek 0).withPlayer _).drawStatus

@[simp] theorem drawStatus_isOpen (house : Theater) : house.drawStatus.isOpen = house.isOpen := by
  rw [Theater.drawStatus]
  split <;> rfl

theorem act_isOpen (key : Key) (house : Theater) : (house.act key).isOpen = house.isOpen := by
  rw [Theater.act]
  split
  · rfl
  · split <;> rfl

theorem step_isOpen (event : TheaterEvent) (house : Theater) :
    (house.step event).isOpen = (house.isOpen && !event.quits house.bindings) := by
  cases event with
  | press key =>
      rw [Theater.step, isQuit_eq]
      cases (TheaterEvent.press key).quits house.bindings with
      | true => simp
      | false => simp [act_isOpen]
  | resize size => exact (drawStatus_isOpen _).trans (Bool.and_true _).symm
  | tick elapsed =>
      rw [Theater.step, Theater.tick]
      split
      · exact (drawStatus_isOpen _).trans (Bool.and_true _).symm
      · exact (Bool.and_true _).symm
  | other => exact (Bool.and_true _).symm

-- A show goes on to the first event that ends it, and nothing happens after that.
theorem Fresh.run_eq (h : house.Fresh first bindings) (hopen : house.isOpen = true)
    (events : List TheaterEvent) :
    Theater.run events house =
      { Theater.run (events.takeWhile fun event => !event.quits bindings) house with
        isOpen := events.all fun event => !event.quits bindings } := by
  induction events generalizing house with
  | nil =>
      change house = { house with isOpen := true }
      rw [← hopen]
  | cons event rest ih =>
      have hstep := h.step event
      have hbindings := h.bindings_eq
      rw [Theater.run, if_pos hopen, List.takeWhile_cons, List.all_cons]
      cases hquits : event.quits bindings with
      | true =>
          have hclosed : house.step event = { house with isOpen := false } := by
            cases event with
            | press key => exact if_pos ((isQuit_eq _ key).trans (hbindings ▸ hquits))
            | _ => cases hquits
          rw [hclosed, run_of_closed Bool.false_ne_true]
          rfl
      | false =>
          have hstill : (house.step event).isOpen = true := by
            rw [step_isOpen, hopen, hbindings, hquits]
            rfl
          rw [ih hstep hstill]
          simp [Theater.run, hopen]

end Theater

end Diorama
