import Mathlib.Data.List.Infix
import Diorama.Command.Execution
import Diorama.Proofs.Playback.Writing

namespace Diorama

-- Menu and status line.
def Drawing.isBar : Drawing → Bool
  | .menuBar _ | .statusLine _ _ => true
  | _ => false

-- How many characters are shown of a drawing.
def Drawing.width (drawing : Drawing) : Nat := (Token.letters drawing.tokens).length

-- The bars that were written, from the first one on.
def Screen.bars (s : Screen) : List Drawing := s.output.toList.filter Drawing.isBar

theorem Screen.bars_write (drawings : List Drawing) (s : Screen) :
    (s.write drawings).bars = s.bars ++ drawings.filter Drawing.isBar := by
  simp [bars, write]

theorem Screen.bars_write_other {drawing : Drawing} (h : drawing.isBar = false) (s : Screen) :
    (s.write [drawing]).bars = s.bars := by
  rw [bars_write, List.filter_singleton, h]
  exact List.append_nil _

-- A frame is written in cells.
theorem Screen.filter_frameDrawings {width height : Nat} (originRow : Nat)
    (previous : Option (Canvas width height)) (next : Canvas width height) :
    (frameDrawings originRow previous next).filter Drawing.isBar = [] := by
  refine List.filter_eq_nil_iff.mpr fun drawing hmem => ?_
  obtain ⟨x, y, cell, rfl, -, -⟩ := Screen.mem_frameDrawings.mp hmem
  simp [Drawing.isBar]

-- No order has a screen write a bar.
theorem Screen.bars_keeps (written : List Drawing) :
    Stage.Keeps (fun _ => True) (fun _ => True) fun s : Screen => s.bars = written where
  create _ h := h
  perform := by
    intro order s _ h
    cases order with
    | setTransform handle tf =>
        simp only [Stage.perform, Screen.perform, Screen.setTransform]
        split <;> exact h
    | renderFrame =>
        have hcells := Screen.filter_frameDrawings s.originRow s.previous s.rasterize
        simpa [Stage.perform, Screen.perform, Screen.renderFrame, bars, hcells] using h
    | _ => exact h

namespace Execution

-- The theater that is opened, where there is one.
def theater? : Execution → Option Theater
  | .playing house => some house
  | _ => none

theorem exists_of_theater? {execution : Execution} {test : Theater → Bool}
    (h : execution.theater?.any test = true) :
    ∃ house, execution = .playing house ∧ test house = true := by
  cases execution with
  | playing house => exact ⟨house, rfl, h⟩
  | finished lines remark => cases h
  | failed lines fault => cases h
  | overflowed => cases h

end Execution

namespace Theater

open Screen (bars_keeps bars_write bars_write_other)

-- The status line as it would be written now, if there is a row for it.
def statusBar (house : Theater) : List Drawing :=
  if house.statusRow < house.size.rows then [.statusLine house.statusRow (status house.player)]
  else []

@[simp] theorem drawMenu_bars (house : Theater) :
    house.drawMenu.screen.bars = house.screen.bars ++ [.menuBar (menuItems house.bindings)] :=
  bars_write _ _

@[simp] theorem drawStatus_bars (house : Theater) :
    house.drawStatus.screen.bars = house.screen.bars ++ house.statusBar := by
  rw [drawStatus, statusBar]
  split
  · exact bars_write _ _
  · exact (List.append_nil _).symm

@[simp] theorem drawStatus_statusBar (house : Theater) :
    house.drawStatus.statusBar = house.statusBar := by
  rw [drawStatus]
  split <;> rfl

@[simp] theorem seek_bars (t : Float32) (house : Theater) :
    (house.seek t).screen.bars = house.screen.bars :=
  (bars_keeps house.screen.bars).seek house.player t rfl

theorem act_bars (key : Key) (house : Theater) :
    (house.act key).screen.bars = house.screen.bars := by
  rw [act]
  split
  · rfl
  · split
    · exact seek_bars 0 { house with player := house.player.stop }
    · rfl

theorem redraw_bars (house : Theater) :
    house.redraw.screen.bars =
      house.screen.bars ++ [.menuBar (menuItems house.bindings)] ++ house.redraw.statusBar := by
  have hcleared : (house.screen.write [.clear]).invalidate.bars = house.screen.bars :=
    bars_write_other rfl house.screen
  simp only [redraw, drawStatus_bars, drawStatus_statusBar, seek_bars, drawMenu_bars, draw,
    hcleared]

-- A step leaves the bars alone, or writes the status line as it then is, after a resize behind the
-- menu.
theorem step_bars (event : TheaterEvent) (house : Theater) :
    ((house.step event).screen.bars = house.screen.bars ∧
      (house.step event).statusBar = house.statusBar) ∨
    ∃ menu ⊆ [Drawing.menuBar (menuItems house.bindings)],
      (house.step event).screen.bars = house.screen.bars ++ menu ++ (house.step event).statusBar := by
  cases event with
  | press key =>
      by_cases hquit : isQuit house.bindings key
      · have hclosed : house.step (.press key) = { house with isOpen := false } := if_pos hquit
        rw [hclosed]
        exact .inl ⟨rfl, rfl⟩
      · refine .inr ⟨[], List.nil_subset _, ?_⟩
        simp [step, hquit, act_bars]
  | resize size =>
      exact .inr ⟨_, List.Subset.refl _, redraw_bars { house with size }⟩
  | tick elapsed =>
      by_cases hdue : house.player.frameRequested
      · refine .inr ⟨[], List.nil_subset _, ?_⟩
        have hframe := (bars_keeps house.screen.bars).frame (house.player.measure elapsed) rfl
        simp [step, tick, hdue, hframe]
      · exact .inl (by simp [step, tick, hdue])
  | other => exact .inl ⟨rfl, rfl⟩

-- The menu was written, and the status line as it would be now.
structure Told (house : Theater) : Prop where
  menu : .menuBar (menuItems house.bindings) ∈ house.screen.bars
  status : house.statusBar ⊆ house.screen.bars

variable {d : Definition} {bindings : KeyBindings} {width height : Nat} {house : Theater}

theorem Told.mem_bars_step (h : house.Told) (event : TheaterEvent) {bar : Drawing} :
    bar ∈ (house.step event).screen.bars ↔
      bar ∈ house.screen.bars ∨ bar ∈ (house.step event).statusBar := by
  rcases step_bars event house with ⟨hbars, hstatus⟩ | ⟨menu, hmenu, hbars⟩
  · rw [hbars, hstatus]
    exact ⟨.inl, fun hbar => hbar.elim id fun hnow => h.status hnow⟩
  · have hknown : bar ∈ menu → bar ∈ house.screen.bars := fun hbar =>
      List.mem_singleton.mp (hmenu hbar) ▸ h.menu
    rw [hbars, List.append_assoc, List.mem_append, List.mem_append]
    constructor
    · rintro (hold | hnew | hnow)
      · exact .inl hold
      · exact .inl (hknown hnew)
      · exact .inr hnow
    · exact Or.imp_right .inr

theorem Told.step (h : house.Told) (event : TheaterEvent)
    (hbindings : (house.step event).bindings = house.bindings) : (house.step event).Told where
  menu := (h.mem_bars_step event).mpr (.inl (hbindings ▸ h.menu))
  status _ hbar := (h.mem_bars_step event).mpr (.inr hbar)

theorem run_of_closed (hclosed : ¬house.isOpen = true) (events : List TheaterEvent) :
    run events house = house := by
  cases events with
  | nil => rfl
  | cons event rest => exact if_neg hclosed

-- The bars of an evening are those that stood there, and the status lines of all that it came to.
theorem Told.mem_bars_run (h : house.Told) (hbilled : house.Billed d bindings width height)
    (events : List TheaterEvent) {bar : Drawing} :
    bar ∈ (run events house).screen.bars ↔
      bar ∈ house.screen.bars ∨ ∃ before, before <+: events ∧ bar ∈ (run before house).statusBar := by
  induction events generalizing house with
  | nil =>
      refine ⟨.inl, fun hbar => hbar.elim id ?_⟩
      rintro ⟨before, hbefore, hnow⟩
      obtain rfl := List.prefix_nil.mp hbefore
      exact h.status hnow
  | cons event rest ih =>
      by_cases hopen : house.isOpen = true
      · have hrun : ∀ events, run (event :: events) house = run events (house.step event) :=
          fun _ => if_pos hopen
        have hnext := hbilled.step event
        have htold := h.step event (hnext.bindings.trans hbilled.bindings.symm)
        rw [hrun, ih htold hnext, h.mem_bars_step]
        constructor
        · rintro ((hold | hnow) | ⟨before, hbefore, hlater⟩)
          · exact .inl hold
          · have hfirst : [event] <+: event :: rest := ⟨rest, rfl⟩
            exact .inr ⟨[event], hfirst, by rwa [hrun]⟩
          · exact .inr ⟨event :: before, List.cons_prefix_cons.mpr ⟨rfl, hbefore⟩, by rwa [hrun]⟩
        · rintro (hold | ⟨before, hbefore, hlater⟩)
          · exact .inl (.inl hold)
          · cases before with
            | nil => exact .inl (.inl (h.status hlater))
            | cons first before =>
                obtain ⟨rfl, hrest⟩ := List.cons_prefix_cons.mp hbefore
                rw [hrun] at hlater
                exact .inr ⟨before, hrest, hlater⟩
      · rw [run_of_closed hopen]
        refine ⟨.inl, fun hbar => hbar.elim id ?_⟩
        rintro ⟨before, -, hnow⟩
        rw [run_of_closed hopen] at hnow
        exact h.status hnow

-- An evening begins with both bars.
theorem start_bars (house : Theater) :
    house.start.screen.bars =
      house.screen.bars ++ [.menuBar (menuItems house.bindings)] ++ house.start.statusBar := by
  have hentered : (house.screen.write [.enter]).bars = house.screen.bars :=
    bars_write_other rfl house.screen
  simp only [start, drawStatus_bars, drawStatus_statusBar, play, seek_bars, drawMenu_bars, draw,
    hentered]

theorem start_told (house : Theater) : house.start.Told := by
  have hbindings : house.start.bindings = house.bindings := by
    rw [start, drawStatus]
    split <;> rfl
  constructor
  · rw [start_bars, hbindings]
    simp
  · rw [start_bars]
    exact List.subset_append_right _ _

-- How many characters menu and status line have.
def menuWidth (b : KeyBindings) : Nat :=
  40 + b.togglePause.length + b.restart.length + b.quit.length

def statusWidth (p : Player) : Nat :=
  13 + (p.session.definition.scene.getD "scene").length + (stateName p.state).length +
    max 6 (fixed 2 p.time).length + (fixed 2 p.session.duration).length +
    if p.session.looping then 7 else 0

theorem width_menuBar (b : KeyBindings) :
    (Drawing.menuBar (menuItems b)).width = menuWidth b := by
  simp only [Drawing.width, Drawing.letters_tokens, menuItems, String.intercalate_cons_cons,
    String.intercalate_singleton, String.length_toList, String.length_append]
  have hblank : " ".length = 1 := rfl
  have hblanks : "  ".length = 2 := rfl
  have hopen : "[".length = 1 := rfl
  have hplay : "] play/pause".length = 12 := rfl
  have hrestart : "] restart".length = 9 := rfl
  have hquit : "][Esc] quit".length = 11 := rfl
  rw [menuWidth]
  omega

theorem length_padLeft (width : Nat) (text : String) :
    (padLeft width text).length = max width text.length := by
  simp only [padLeft, String.length_append, String.length_ofList, List.length_replicate]
  omega

theorem width_statusLine (row : Nat) (p : Player) :
    (Drawing.statusLine row (status p)).width = statusWidth p := by
  simp only [Drawing.width, Drawing.letters_tokens, status, String.length_toList,
    String.length_append, length_padLeft]
  have hblank : " ".length = 1 := rfl
  have hbar : " | ".length = 3 := rfl
  have hslash : "s / ".length = 4 := rfl
  have hunit : "s".length = 1 := rfl
  have hloop : (if p.session.looping then " (loop)" else "").length =
      if p.session.looping then 7 else 0 := by cases p.session.looping <;> rfl
  rw [statusWidth]
  omega

-- What is played is a document that was read, in a terminal that is large enough.
theorem play_inv {path text : String} {c : PlayerConfig} {size : TerminalSize} {first : Theater}
    (h : Command.play path text c size = .playing first) :
    isRoomy size = true ∧ ∃ d e, (Definition.ofText text).result = .ok d ∧
      (Session.load d (screenFor size c)).result = .ok e ∧
      first = ofSession e (Session.load d (screenFor size c)).stage c size := by
  rw [Command.play] at h
  by_cases hroomy : isRoomy size = true
  · refine ⟨hroomy, ?_⟩
    cases hread : (Definition.ofText text).result with
    | error fault => simp [hroomy, Command.loadOn, Session.ofText, hread] at h
    | ok d =>
        cases hload : (Session.load d (screenFor size c)).result with
        | error fault =>
            simp [hroomy, Command.loadOn, Session.ofText, hread, hload, Except.mapError] at h
        | ok e =>
            simp only [hroomy, Command.loadOn, Session.ofText, hread, hload, Except.mapError,
              ↓reduceIte, Execution.playing.injEq] at h
            exact ⟨d, e, rfl, hload, h.symm⟩
  · rw [if_neg hroomy] at h
    cases h

theorem le_rows_of_play {path text : String} {c : PlayerConfig} {size : TerminalSize}
    {first : Theater} (h : Command.play path text c size = .playing first) : 7 ≤ size.rows := by
  have hroomy := (play_inv h).1
  simp only [isRoomy, Bool.and_eq_true, decide_eq_true_eq] at hroomy
  exact hroomy.2

-- Nothing has been written of the bars before the show.
theorem billed_of_play {path text : String} {c : PlayerConfig} {size : TerminalSize}
    {first : Theater} (h : Command.play path text c size = .playing first) :
    first.screen.bars = [] ∧
      ∃ d, first.Billed d c.bindings size.columns (size.rows - menuRows - statusRows) := by
  obtain ⟨-, d, e, -, hload, rfl⟩ := play_inv h
  have hbars : (Session.load d (screenFor size c)).stage.bars = [] :=
    (bars_keeps []).load (fun _ _ _ _ => trivial) (fun _ _ => trivial) rfl
  obtain ⟨e', hload', hbilled⟩ := billed_ofSession d c size
  obtain rfl : e = e' := Except.ok.inj (hload.symm.trans hload')
  exact ⟨hbars, d, hbilled⟩

-- The bars of a show: its menu, and a status line for all that the show comes to, as long as there
-- is a row for it.
theorem mem_bars_show {path text : String} {c : PlayerConfig} {size : TerminalSize}
    {first : Theater} (h : Command.play path text c size = .playing first)
    (events : List TheaterEvent) {bar : Drawing} :
    bar ∈ (run events first.start).screen.bars ↔
      bar = .menuBar (menuItems c.bindings) ∨ ∃ before, before <+: events ∧
        size.rows ≤ (run before first.start).size.rows ∧
        bar = .statusLine (size.rows - 1) (status (run before first.start).player) := by
  obtain ⟨hbars, d, hbilled⟩ := billed_of_play h
  have hrows : 7 ≤ size.rows := le_rows_of_play h
  have hstatus : ∀ before, bar ∈ (run before first.start).statusBar ↔
      size.rows ≤ (run before first.start).size.rows ∧
        bar = .statusLine (size.rows - 1) (status (run before first.start).player) := by
    intro before
    have hreached := hbilled.start.run before
    have hrow : (run before first.start).statusRow = size.rows - 1 := by
      rw [statusRow, hreached.screen.originRow_eq, hreached.screen.height_eq]
      simp only [menuRows, statusRows]
      omega
    have hfits : size.rows - 1 < (run before first.start).size.rows ↔
        size.rows ≤ (run before first.start).size.rows := by omega
    rw [statusBar, hrow, List.mem_ite_nil_right, List.mem_singleton, hfits]
  have hfirst : bar ∈ first.start.screen.bars ↔
      bar = .menuBar (menuItems c.bindings) ∨ bar ∈ first.start.statusBar := by
    rw [start_bars, hbars, hbilled.bindings]
    simp
  rw [first.start_told.mem_bars_run hbilled.start events, hfirst, or_assoc]
  refine or_congr_right ?_
  simp only [hstatus]
  constructor
  · rintro (hnow | hlater)
    · exact ⟨[], List.nil_prefix, (hstatus []).mp hnow⟩
    · exact hlater
  · exact .inr

-- Both bars keep to their rows exactly if the names of the keys leave room for the menu, and scene,
-- times and state room for the status line. A terminal may be so narrow that they never do.
theorem bars_fit_iff {path text : String} {c : PlayerConfig} {size : TerminalSize} {first : Theater}
    (h : Command.play path text c size = .playing first) (events : List TheaterEvent) :
    let bars := (run events first.start).screen.bars
    (∀ columns, (∀ bar ∈ bars, bar.width ≤ columns) ↔
      menuWidth c.bindings ≤ columns ∧
        ∀ before, before <+: events → size.rows ≤ (run before first.start).size.rows →
          statusWidth (run before first.start).player ≤ columns) ∧
    (∀ row line, .statusLine row line ∈ bars → row + 1 = size.rows) ∧
    (size.columns < 40 → ∃ bar ∈ bars, size.columns < bar.width) := by
  intro bars
  have hmem : ∀ bar, bar ∈ bars ↔ _ := fun bar => mem_bars_show h events
  have hmenu : .menuBar (menuItems c.bindings) ∈ bars := (hmem _).mpr (.inl rfl)
  refine ⟨fun columns => ⟨fun hall => ⟨?_, fun before hbefore hrows => ?_⟩, ?_⟩,
    fun row line hline => ?_, fun hnarrow => ⟨_, hmenu, ?_⟩⟩
  · have hfits := hall _ hmenu
    rwa [width_menuBar] at hfits
  · have hfits := hall _ ((hmem _).mpr (.inr ⟨before, hbefore, hrows, rfl⟩))
    rwa [width_statusLine] at hfits
  · rintro ⟨hnames, hlines⟩ bar hbar
    rcases (hmem bar).mp hbar with rfl | ⟨before, hbefore, hrows, rfl⟩
    · rwa [width_menuBar]
    · rw [width_statusLine]
      exact hlines before hbefore hrows
  · have hrows := le_rows_of_play h
    rcases (hmem _).mp hline with heq | ⟨before, -, -, heq⟩
    · cases heq
    · obtain ⟨rfl, -⟩ := Drawing.statusLine.inj heq
      omega
  · rw [width_menuBar, menuWidth]
    omega

-- A terminal of 51 columns has room for both throughout a show: the scene has a name and starts over
-- at its end, the keys are others than usual, and it is paused, restarted and resized in between.
theorem bars_fit_wide :
    let text := "\x7b\"scene\":\"Planets\",\"duration\":12.5,\"loop\":true," ++
      "\"actors\":[\x7b\"id\":\"sun\",\"type\":\"sphere\"\x7d]\x7d"
    let config : PlayerConfig := { bindings := ⟨"Enter", "Home", "F4"⟩ }
    let events : List TheaterEvent := [.tick 0.1, .press { code := .enter },
      .resize ⟨51, 9⟩, .press { code := .enter }, .press { code := .home }, .tick 0.1]
    ∃ first, Command.play "anim.json" text config ⟨51, 9⟩ = .playing first ∧
      ∀ bar ∈ (run events first.start).screen.bars, bar.width ≤ 51 := by
  intro text config events
  have hshow : ((Command.play "anim.json" text config ⟨51, 9⟩).theater?.any fun first =>
      decide (∀ before ∈ events.inits, statusWidth (run before first.start).player ≤ 51)) =
        true := by
    decide +kernel
  obtain ⟨first, hplay, hwidth⟩ := Execution.exists_of_theater? hshow
  refine ⟨first, hplay, ((bars_fit_iff hplay events).1 51).mpr ⟨by decide, ?_⟩⟩
  intro before hbefore _
  exact of_decide_eq_true hwidth before ((List.mem_inits before events).mpr hbefore)

-- In the smallest terminal that there may be, both are more than twice as long as their rows.
theorem bars_overflow_smallest :
    ∃ first, Command.play "anim.json" "\x7b\x7d" {} smallestSize = .playing first ∧
      first.start.screen.bars.map Drawing.width = [47, 43] ∧ smallestSize.columns = 20 := by
  have hshow : ((Command.play "anim.json" "\x7b\x7d" {} smallestSize).theater?.any fun first =>
      decide (first.start.screen.bars.map Drawing.width = [47, 43])) = true := by decide +kernel
  obtain ⟨first, hplay, hwidths⟩ := Execution.exists_of_theater? hshow
  exact ⟨first, hplay, of_decide_eq_true hwidths, rfl⟩

end Theater

end Diorama
