import Diorama.Proofs.Number.Comparison
import Diorama.Proofs.Playback.Bars

namespace Diorama

-- A step is in the bounds of a fixed clock, and a row covers some of the world.
structure PlayerConfig.Sound (c : PlayerConfig) : Prop where
  step_finite : c.frameStep.isFinite = true
  step_pos : 0 < c.frameStep
  step_le : c.frameStep ≤ Clock.longestStep
  unit : PlayerConfig.isPositive c.unitsPerCell = true

namespace PlayerConfig

theorem isPositive_iff {x : Float32} : isPositive x = true ↔ x.isFinite = true ∧ 0 < x := by
  rw [isPositive, Bool.and_eq_true, decide_eq_true_eq]

theorem sanitizeStep_sound (step : Float32) :
    isPositive (sanitizeStep step).2 = true ∧ (sanitizeStep step).2 ≤ Clock.longestStep := by
  have hdefault : isPositive Clock.defaultStep = true ∧ Clock.defaultStep ≤ Clock.longestStep := by
    decide +kernel
  have hlongest : isPositive Clock.longestStep = true ∧ Clock.longestStep ≤ Clock.longestStep := by
    decide +kernel
  fun_cases sanitizeStep with
  | case1 hpositive => exact hdefault
  | case2 hpositive hlarge => exact hlongest
  | case3 hpositive hlarge =>
      rw [Bool.not_eq_true', Bool.not_eq_false] at hpositive
      have hnumber := Scalar.isNaN_eq_false_of_isFinite (isPositive_iff.mp hpositive).1
      exact ⟨hpositive, Scalar.le_of_not_lt hlarge hnumber rfl⟩

theorem sanitize_sound (c : PlayerConfig) : (sanitize c).2.Sound := by
  obtain ⟨hstep, hle⟩ := sanitizeStep_sound c.frameStep
  obtain ⟨hfinite, hpos⟩ := isPositive_iff.mp hstep
  refine ⟨hfinite, hpos, hle, ?_⟩
  change isPositive (if isPositive c.unitsPerCell then c.unitsPerCell else 0.5) = true
  split
  · assumption
  · decide +kernel

-- What is taken where a document cannot be used.
theorem default_sound : ({} : PlayerConfig).Sound := by
  constructor <;> decide +kernel

end PlayerConfig

-- No configuration, whether it can be read or not, sets a player up in any other way.
theorem Command.config_sound (text : Option String) : (config text).Sound := by
  cases text with
  | none => exact PlayerConfig.default_sound
  | some text =>
      change (PlayerConfig.ofText text).2.Sound
      rw [PlayerConfig.ofText]
      split
      · exact PlayerConfig.sanitize_sound _
      · exact PlayerConfig.default_sound

-- Something that is true of the screen of a theater whatever happens there.
structure Screen.Lasting (holds : Screen → Prop) : Prop
    extends Stage.Keeps (fun _ => True) (fun _ => True) holds where
  write : ∀ {s} drawings, holds s → holds (s.write drawings)
  invalidate : ∀ {s}, holds s → holds s.invalidate

-- Nothing changes the scale of a screen.
theorem Screen.unit_lasting (unit : Float32) : Lasting fun s => s.unitsPerCell = unit where
  create _ h := h
  perform := by
    intro order s _ h
    cases order with
    | setTransform handle tf =>
        simp only [Stage.perform, Screen.perform, Screen.setTransform]
        split <;> exact h
    | _ => exact h
  write _ h := h
  invalidate h := h

namespace Screen.Lasting

variable {holds : Screen → Prop} {house : Theater} (h : Lasting holds)

include h

theorem drawStatus (hs : holds house.screen) : holds house.drawStatus.screen := by
  rw [Theater.drawStatus]
  split
  · exact h.write _ hs
  · exact hs

theorem seek (t : Float32) (hs : holds house.screen) : holds (house.seek t).screen :=
  h.toKeeps.seek house.player t hs

theorem act (key : Key) (hs : holds house.screen) : holds (house.act key).screen := by
  rw [Theater.act]
  split
  · exact hs
  · split
    · have hstopped : holds ({ house with player := house.player.stop } : Theater).screen := hs
      exact h.seek 0 hstopped
    · exact hs

theorem tick (elapsed : Float32) (hs : holds house.screen) : holds (house.tick elapsed).screen := by
  rw [Theater.tick]
  split
  · exact h.drawStatus (h.toKeeps.frame (house.player.measure elapsed) hs)
  · exact hs

theorem redraw (hs : holds house.screen) : holds house.redraw.screen := by
  have hmenu := h.write [.menuBar (Theater.menuItems house.bindings)]
    (h.invalidate (h.write [.clear] hs))
  exact h.drawStatus (h.toKeeps.seek house.player house.player.time hmenu)

theorem step (event : TheaterEvent) (hs : holds house.screen) :
    holds (house.step event).screen := by
  cases event with
  | press key =>
      rw [Theater.step]
      split
      · exact hs
      · exact h.drawStatus (h.act key hs)
  | resize size =>
      have hsized : holds ({ house with size } : Theater).screen := hs
      exact h.redraw hsized
  | tick elapsed => exact h.tick elapsed hs
  | other => exact hs

theorem run (events : List TheaterEvent) (hs : holds house.screen) :
    holds (Theater.run events house).screen := by
  induction events generalizing house with
  | nil => exact hs
  | cons event rest ih =>
      rw [Theater.run]
      split
      · exact ih (h.step event hs)
      · exact hs

theorem start (hs : holds house.screen) : holds house.start.screen := by
  have hmenu := h.write [.menuBar (Theater.menuItems house.bindings)] (h.write [.enter] hs)
  have hseek := h.toKeeps.seek house.player 0 hmenu
  rw [Theater.start]
  exact h.drawStatus hseek

theorem close (hs : holds house.screen) : holds house.close.screen :=
  h.toKeeps.teardown house.player.session (h.write [.leave] hs)

end Screen.Lasting

-- The parts of a terminal, one above the other.
inductive Band where
  | menu
  | canvas
  | status
deriving DecidableEq

-- The rows of a band in a terminal of so many rows.
def Band.rows (height : Nat) : Band → Finset Nat
  | .menu => {0}
  | .canvas => Finset.Icc 1 (height - 2)
  | .status => {height - 1}

theorem Band.rows_disjoint {height : Nat} (h : 2 ≤ height) {a b : Band} (hne : a ≠ b) :
    Disjoint (a.rows height) (b.rows height) := by
  rw [Finset.disjoint_left]
  cases a <;> cases b <;> simp [rows] at hne ⊢ <;> omega

theorem Band.lt_of_mem_rows {height row : Nat} (h : 2 ≤ height) {band : Band}
    (hrow : row ∈ band.rows height) : row < height := by
  cases band <;> simp [rows] at hrow <;> omega

namespace Drawing

-- The band of a drawing with column and row where it starts, if it has a place.
def site? : Drawing → Option (Band × Nat × Nat)
  | .cell column row _ => some (.canvas, column, row)
  | .menuBar _ => some (.menu, 0, 0)
  | .statusLine row _ => some (.status, 0, row)
  | .enter | .clear | .leave => none

-- That is where the terminal is sent first.
theorem text_of_site? {drawing : Drawing} {band : Band} {column row : Nat}
    (h : drawing.site? = some (band, column, row)) :
    ∃ rest, drawing.text = moveTo column row ++ rest := by
  cases drawing with
  | cell column row cell =>
      obtain ⟨⟩ := h
      exact ⟨styled cell, rfl⟩
  | menuBar items =>
      obtain ⟨⟩ := h
      simp only [text, String.append_assoc]
      exact ⟨_, rfl⟩
  | statusLine row line =>
      obtain ⟨⟩ := h
      simp only [text, String.append_assoc]
      exact ⟨_, rfl⟩
  | enter => cases h
  | clear => cases h
  | leave => cases h

end Drawing

namespace Theater

-- Rows as they are computed in sixteen bits: how many the canvas has, and on which row of the
-- terminal one of them is, or the status line, which comes right after them.
def canvasRows (h : UInt16) : UInt16 := h - .ofNat menuRows - .ofNat statusRows

def rowOnTerminal (y : UInt16) : UInt16 := y + .ofNat menuRows

-- The sums for a drawing come out in sixteen bits as they do without bounds.
def Fits (w h : UInt16) : Drawing → Prop
  | .cell column row _ => ∃ x y : UInt16, x < w ∧ y < canvasRows h ∧ column = x.toNat ∧
      row = y.toNat + menuRows ∧ row = (rowOnTerminal y).toNat
  | .statusLine row _ =>
      row = (canvasRows h).toNat + menuRows ∧ row = (rowOnTerminal (canvasRows h)).toNat
  | .menuBar _ | .enter | .clear | .leave => True

-- A drawing stays in its band of the terminal. Places are sent counting from one, which fits too.
structure Within (w h : UInt16) (drawing : Drawing) : Prop where
  fits : Fits w h drawing
  site : ∀ band column row, drawing.site? = some (band, column, row) →
    row ∈ band.rows h.toNat ∧ column < w.toNat ∧ column + 1 < UInt16.size ∧ row + 1 < UInt16.size ∧
      ∃ rest, drawing.text = Drawing.moveTo column row ++ rest

-- The numbers that a theater in a terminal of this size computes with.
structure Laid (w h : UInt16) (house : Theater) : Prop where
  unit_finite : house.screen.unitsPerCell.isFinite = true
  unit_pos : 0 < house.screen.unitsPerCell
  width : house.screen.width = w.toNat
  height : house.screen.height = (canvasRows h).toNat
  written : ∀ drawing ∈ house.screen.output.toList, Within w h drawing

theorem toNat_canvasRows {h : UInt16} (hrows : 7 ≤ h) : (canvasRows h).toNat = h.toNat - 2 := by
  have hle : 7 ≤ h.toNat := UInt16.le_iff_toNat_le.mp hrows
  have hlt : h.toNat < 65536 := h.toNat_lt
  simp only [canvasRows, menuRows, statusRows, UInt16.toNat_sub, UInt16.toNat_ofNat']
  omega

theorem toNat_rowOnTerminal {h y : UInt16} (hrows : 7 ≤ h) (hy : y ≤ canvasRows h) :
    (rowOnTerminal y).toNat = y.toNat + menuRows := by
  have hle : 7 ≤ h.toNat := UInt16.le_iff_toNat_le.mp hrows
  have hlt : h.toNat < 65536 := h.toNat_lt
  have hcanvas := UInt16.le_iff_toNat_le.mp hy
  rw [toNat_canvasRows hrows] at hcanvas
  simp only [rowOnTerminal, menuRows, UInt16.toNat_add, UInt16.toNat_ofNat']
  omega

variable {d : Definition} {bindings : KeyBindings} {w h : UInt16}

-- What belongs to a show is computed without going beyond sixteen bits.
theorem fits_of_isBilled (hrows : 7 ≤ h) {drawing : Drawing}
    (hbilled : IsBilled d bindings w.toNat (h.toNat - menuRows - statusRows) drawing) :
    Fits w h drawing := by
  have hhigh : 7 ≤ h.toNat := UInt16.le_iff_toNat_le.mp hrows
  have hw : w.toNat < UInt16.size := w.toNat_lt
  have hh : h.toNat < UInt16.size := h.toNat_lt
  have hcanvas := toNat_canvasRows hrows
  cases drawing with
  | cell column row cell =>
      obtain ⟨hcolumn, habove, hbelow, -⟩ := hbilled
      simp only [menuRows, statusRows] at habove hbelow
      have hx : (UInt16.ofNat column).toNat = column := UInt16.toNat_ofNat_of_lt' (by omega)
      have hy : (UInt16.ofNat (row - 1)).toNat = row - 1 := UInt16.toNat_ofNat_of_lt' (by omega)
      have hinside : UInt16.ofNat (row - 1) < canvasRows h := by
        rw [UInt16.lt_iff_toNat_lt, hy, hcanvas]
        omega
      have hrow : row = (UInt16.ofNat (row - 1)).toNat + menuRows := by
        rw [hy, menuRows]
        omega
      refine ⟨.ofNat column, .ofNat (row - 1), ?_, hinside, hx.symm, hrow, ?_⟩
      · rwa [UInt16.lt_iff_toNat_lt, hx]
      · exact hrow.trans (toNat_rowOnTerminal hrows (UInt16.le_of_lt hinside)).symm
  | statusLine row line =>
      obtain ⟨rfl, -⟩ := hbilled
      have hrow : menuRows + (h.toNat - menuRows - statusRows) =
          (canvasRows h).toNat + menuRows := by
        simp only [hcanvas, menuRows, statusRows]
        omega
      exact ⟨hrow, hrow.trans (toNat_rowOnTerminal hrows (UInt16.le_refl _)).symm⟩
  | menuBar items => trivial
  | enter => trivial
  | clear => trivial
  | leave => trivial

-- It stays in its band.
theorem mem_rows_of_isBilled (hcolumns : 20 ≤ w) (hrows : 7 ≤ h) {drawing : Drawing}
    (hbilled : IsBilled d bindings w.toNat (h.toNat - menuRows - statusRows) drawing)
    {band : Band} {column row : Nat} (hsite : drawing.site? = some (band, column, row)) :
    row ∈ band.rows h.toNat ∧ column < w.toNat := by
  have hwide : 20 ≤ w.toNat := UInt16.le_iff_toNat_le.mp hcolumns
  have hhigh : 7 ≤ h.toNat := UInt16.le_iff_toNat_le.mp hrows
  cases drawing with
  | cell column row cell =>
      obtain ⟨⟩ := hsite
      obtain ⟨hcolumn, habove, hbelow, -⟩ := hbilled
      simp only [menuRows, statusRows] at habove hbelow
      exact ⟨Finset.mem_Icc.mpr (by omega), hcolumn⟩
  | statusLine row line =>
      obtain ⟨⟩ := hsite
      obtain ⟨rfl, -⟩ := hbilled
      have hlast : menuRows + (h.toNat - menuRows - statusRows) = h.toNat - 1 := by
        simp only [menuRows, statusRows]
        omega
      exact ⟨Finset.mem_singleton.mpr hlast, by omega⟩
  | menuBar items =>
      obtain ⟨⟩ := hsite
      exact ⟨Finset.mem_singleton_self 0, by omega⟩
  | enter => cases hsite
  | clear => cases hsite
  | leave => cases hsite

theorem within_of_isBilled (hcolumns : 20 ≤ w) (hrows : 7 ≤ h) {drawing : Drawing}
    (hbilled : IsBilled d bindings w.toNat (h.toNat - menuRows - statusRows) drawing) :
    Within w h drawing where
  fits := fits_of_isBilled hrows hbilled
  site band column row hsite := by
    have hhigh : 7 ≤ h.toNat := UInt16.le_iff_toNat_le.mp hrows
    have hw : w.toNat < UInt16.size := w.toNat_lt
    have hh : h.toNat < UInt16.size := h.toNat_lt
    obtain ⟨hrow, hcolumn⟩ := mem_rows_of_isBilled hcolumns hrows hbilled hsite
    have hinside := Band.lt_of_mem_rows (by omega) hrow
    exact ⟨hrow, hcolumn, by omega, by omega, Drawing.text_of_site? hsite⟩

theorem laid_of_billed {house : Theater} (hcolumns : 20 ≤ w) (hrows : 7 ≤ h)
    (hunit : PlayerConfig.isPositive house.screen.unitsPerCell = true)
    (hbilled : house.Billed d bindings w.toNat (h.toNat - menuRows - statusRows)) :
    house.Laid w h where
  unit_finite := (PlayerConfig.isPositive_iff.mp hunit).1
  unit_pos := (PlayerConfig.isPositive_iff.mp hunit).2
  width := hbilled.screen.width_eq
  height := hbilled.screen.height_eq.trans (toNat_canvasRows hrows).symm
  written drawing hmem := within_of_isBilled hcolumns hrows (hbilled.screen.output drawing hmem)

-- The greater of two numbers is one of them.
theorem isPositive_max {a b : Float32} (ha : PlayerConfig.isPositive a = true)
    (hb : PlayerConfig.isPositive b = true) : PlayerConfig.isPositive (Scalar.max a b) = true := by
  fun_cases Scalar.max <;> assumption

theorem isPositive_smallestUnit : PlayerConfig.isPositive Screen.smallestUnit = true := by
  decide +kernel

-- The scale of a show is that of its configuration, unless that is tiny.
theorem unitsPerCell_of_play {path text : String} {c : PlayerConfig} {size : TerminalSize}
    {first : Theater} (hplay : Command.play path text c size = .playing first) :
    first.screen.unitsPerCell = Scalar.max c.unitsPerCell Screen.smallestUnit := by
  obtain ⟨-, d, e, -, -, rfl⟩ := play_inv hplay
  exact (Screen.unit_lasting _).load (fun _ _ _ _ => trivial) (fun _ _ => trivial) rfl

-- A terminal that is too small is refused. In any other, a document that can be read is played.
theorem play_cases (path text : String) (c : PlayerConfig) (size : TerminalSize) :
    (isRoomy size = false ∧ Command.play path text c size = .failed [] (.smallTerminal size)) ∨
      isRoomy size = true ∧
        ((∃ fault, (Definition.ofText text).result = .error fault ∧
            Command.play path text c size = .failed [] (.notLoaded path (.document fault))) ∨
          ∃ first, Command.play path text c size = .playing first) := by
  rw [Command.play]
  cases hroomy : isRoomy size with
  | false => exact .inl ⟨rfl, rfl⟩
  | true =>
      refine .inr ⟨rfl, ?_⟩
      cases hread : (Definition.ofText text).result with
      | error fault => exact .inl ⟨fault, rfl, by simp [Command.loadOn, Session.ofText, hread]⟩
      | ok d =>
          obtain ⟨e, hload⟩ := Session.load_ofSize d size.columns
            (size.rows - menuRows - statusRows) menuRows c.unitsPerCell
          have hloaded : (Session.load d (screenFor size c)).result = .ok e := hload
          refine .inr ⟨ofSession e (Session.load d (screenFor size c)).stage c size, ?_⟩
          simp [Command.loadOn, Session.ofText, hread, hloaded, Except.mapError]

-- Both bars of a show are written when it begins.
theorem bars_of_play {path text : String} {c : PlayerConfig} {size : TerminalSize} {first : Theater}
    (hplay : Command.play path text c size = .playing first) (events : List TheaterEvent) :
    [.menuBar (menuItems c.bindings), .statusLine (size.rows - 1) (status first.start.player)] ⊆
      (run events first.start).screen.output.toList := by
  have hsize : first.start.size = size := by
    obtain ⟨-, _, _, -, -, rfl⟩ := play_inv hplay
    rw [start, drawStatus]
    split <;> rfl
  have hbegins : size.rows ≤ (run [] first.start).size.rows := by rw [run, hsize]
  intro bar hbar
  have hmem : bar ∈ (run events first.start).screen.bars := by
    rw [mem_bars_show hplay events]
    rcases List.mem_pair.mp hbar with rfl | rfl
    · exact .inl rfl
    · exact .inr ⟨[], List.nil_prefix, hbegins, rfl⟩
  exact List.mem_of_mem_filter hmem

-- Whatever the configuration is, a step is a length of time that a clock can wait for. A terminal
-- of fewer than 20 columns or 7 rows is refused. In any other the rows are divided among menu,
-- canvas and status line, and a document that can be read is played such that each drawing stays on
-- the rows of its own part, however the show goes, with nothing computed that needs more than
-- sixteen bits and no division by zero. The bars are there from the start.
theorem play_laid (path text : String) (configText : Option String) (w h : UInt16) :
    let config := Command.config configText
    let size : TerminalSize := ⟨w.toNat, h.toNat⟩
    let outcome := Command.play path text config size
    (config.frameStep.isFinite = true ∧ 0 < config.frameStep ∧ config.frameStep ≤ 1) ∧
      ((w < 20 ∨ h < 7) ∧ outcome = .failed [] (.smallTerminal size) ∨
        20 ≤ w ∧ 7 ≤ h ∧ (canvasRows h).toNat + menuRows + statusRows = h.toNat ∧
          (∀ a b : Band, a ≠ b → Disjoint (a.rows h.toNat) (b.rows h.toNat)) ∧
          (∀ band : Band, ∀ row ∈ band.rows h.toNat, row < h.toNat) ∧
          ((∃ fault, (Definition.ofText text).result = .error fault ∧
              outcome = .failed [] (.notLoaded path (.document fault))) ∨
            ∃ first, outcome = .playing first ∧ ∀ events,
              let house := run events first.start
              house.Laid w h ∧ house.close.Laid w h ∧
                [.menuBar (menuItems config.bindings),
                  .statusLine (h.toNat - 1) (status first.start.player)] ⊆
                    house.screen.output.toList)) := by
  intro config size outcome
  have hsound : config.Sound := Command.config_sound configText
  refine ⟨⟨hsound.step_finite, hsound.step_pos, hsound.step_le⟩, ?_⟩
  have hroomy : isRoomy size = true ↔ 20 ≤ w ∧ 7 ≤ h := by
    rw [UInt16.le_iff_toNat_le, UInt16.le_iff_toNat_le, isRoomy, Bool.and_eq_true,
      decide_eq_true_eq, decide_eq_true_eq]
    rfl
  rcases play_cases path text config size with ⟨hsmall, hrefused⟩ | ⟨hlarge, hopened⟩
  · have hbounds : ¬(20 ≤ w ∧ 7 ≤ h) := by
      rw [← hroomy, hsmall]
      exact Bool.false_ne_true
    rw [not_and_or, UInt16.not_le, UInt16.not_le] at hbounds
    exact .inl ⟨hbounds, hrefused⟩
  · obtain ⟨hcolumns, hrows⟩ := hroomy.mp hlarge
    have hhigh : 7 ≤ h.toNat := UInt16.le_iff_toNat_le.mp hrows
    have hcanvas : (canvasRows h).toNat + menuRows + statusRows = h.toNat := by
      rw [toNat_canvasRows hrows, menuRows, statusRows]
      omega
    refine .inr ⟨hcolumns, hrows, hcanvas, fun _ _ => Band.rows_disjoint (by omega),
      fun _ _ => Band.lt_of_mem_rows (by omega), ?_⟩
    rcases hopened with hunread | ⟨first, hplay⟩
    · exact .inl hunread
    · refine .inr ⟨first, hplay, fun events => ?_⟩
      obtain ⟨-, d, hbilled⟩ := billed_of_play hplay
      have hlasting := Screen.unit_lasting first.screen.unitsPerCell
      have hunit : PlayerConfig.isPositive first.screen.unitsPerCell = true := by
        rw [unitsPerCell_of_play hplay]
        exact isPositive_max hsound.unit isPositive_smallestUnit
      have hstart : first.start.screen.unitsPerCell = first.screen.unitsPerCell :=
        hlasting.start rfl
      have hrun := hlasting.run events hstart
      have hclosed := hlasting.close hrun
      exact ⟨laid_of_billed hcolumns hrows (hrun ▸ hunit) (hbilled.start.run events),
        laid_of_billed hcolumns hrows (hclosed ▸ hunit) (hbilled.start.run events).close,
        bars_of_play hplay events⟩

end Theater

end Diorama
