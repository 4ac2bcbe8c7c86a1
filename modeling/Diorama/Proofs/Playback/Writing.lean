import Diorama.Proofs.Playback.Redraw
import Diorama.Proofs.Terminal.Glyphs
import Diorama.Proofs.Terminal.Lettering
import Diorama.Proofs.Terminal.Mirroring

namespace Diorama

open Screen (Lettered IsLettering Wears lettered_keeps)

theorem Player.frame_definition {σ : Type} [Stage σ] (p : Player) (s : σ) :
    (p.frame s).2.1.session.definition = p.session.definition := by
  have hframed := p.framed s
  have hsame := p.session.evaluate_definition p.nextTick.1.time s
  generalize p.frame s = framed at hframed
  cases hframed with
  | idle _ => rfl
  | finished _ _ => rfl
  | shown _ _ heval => rwa [heval] at hsame
  | failed _ _ heval => rwa [heval] at hsame

theorem Screen.play_eq (times : List Float32) (e : Session) (s : Screen) :
    ∃ e' s', Session.play times e s = (.ok (), e', s') := by
  induction times generalizing e s with
  | nil => exact ⟨e, s, rfl⟩
  | cons t times ih =>
      obtain ⟨s₁, heval⟩ := Screen.evaluate_eq e t s
      obtain ⟨e', s', hplay⟩ := ih (e.shown t) s₁
      exact ⟨e', s', by simp [Session.play, heval, hplay]⟩

namespace Theater

-- What belongs to the show of an animation: cells of the canvas under the menu, the menu itself, and
-- the status line of a player of that animation below the canvas.
def IsBilled (d : Definition) (bindings : KeyBindings) (width height : Nat) : Drawing → Prop
  | .menuBar items => items = menuItems bindings
  | .statusLine row line =>
    row = menuRows + height ∧ ∃ p : Player, p.session.definition = d ∧ line = status p
  | .enter | .clear | .leave => True
  | .cell column row cell =>
    IsLettering width height menuRows d.letters (.cell column row cell)

-- A theater that writes nothing else.
structure Billed (d : Definition) (bindings : KeyBindings) (width height : Nat) (house : Theater) :
    Prop where
  screen : house.screen.Lettered width height menuRows d.letters (IsBilled d bindings width height)
  definition : house.player.session.definition = d
  bindings : house.bindings = bindings

variable {d : Definition} {bindings : KeyBindings} {width height : Nat} {house : Theater}

theorem isBilled_of_isLettering (bindings : KeyBindings) {drawing : Drawing}
    (h : IsLettering width height menuRows d.letters drawing) :
    IsBilled d bindings width height drawing := by
  cases drawing with
  | cell column row cell => exact h
  | _ => exact h.elim

theorem billed_keeps (d : Definition) (bindings : KeyBindings) (width height : Nat) :
    Stage.Keeps (fun p => p.shape.letters ⊆ d.letters) (fun a => a.text.toList ⊆ d.letters)
      (Lettered width height menuRows d.letters (IsBilled d bindings width height)) :=
  lettered_keeps fun _ h => isBilled_of_isLettering bindings h

namespace Billed

theorem draw (h : house.Billed d bindings width height) (drawing : Drawing)
    (hdrawing : IsBilled d bindings width height drawing) :
    (house.draw [drawing]).Billed d bindings width height where
  screen := by
    refine { h.screen with output := fun other hmem => ?_ }
    have hwritten : other ∈ house.screen.output.toList ++ [drawing] := by
      simpa [Theater.draw, Screen.write] using hmem
    rcases List.mem_append.mp hwritten with hold | hnew
    · exact h.screen.output other hold
    · exact List.mem_singleton.mp hnew ▸ hdrawing
  definition := h.definition
  bindings := h.bindings

theorem drawMenu (h : house.Billed d bindings width height) :
    house.drawMenu.Billed d bindings width height :=
  h.draw (.menuBar (menuItems house.bindings)) (congrArg menuItems h.bindings)

theorem drawStatus (h : house.Billed d bindings width height) :
    house.drawStatus.Billed d bindings width height := by
  rw [Theater.drawStatus]
  split
  · refine h.draw (.statusLine _ _) ⟨?_, house.player, h.definition, rfl⟩
    rw [statusRow, h.screen.originRow_eq, h.screen.height_eq]
  · exact h

-- A player that shows the same animation.
theorem withPlayer (h : house.Billed d bindings width height) {p : Player}
    (hp : p.session.definition = d) :
    ({ house with player := p } : Theater).Billed d bindings width height :=
  ⟨h.screen, hp, h.bindings⟩

theorem seek (h : house.Billed d bindings width height) (t : Float32) :
    (house.seek t).Billed d bindings width height where
  screen := (billed_keeps d bindings width height).seek house.player t h.screen
  definition := (house.player.session.evaluate_definition t house.screen).trans h.definition
  bindings := h.bindings

theorem play (h : house.Billed d bindings width height) :
    house.play.Billed d bindings width height := by
  refine h.withPlayer ?_
  rw [Player.play]
  split <;> exact h.definition

theorem restart (h : house.Billed d bindings width height) :
    house.restart.Billed d bindings width height := by
  have hstopped : ({ house with player := house.player.stop } : Theater).Billed d bindings width
      height := h.withPlayer h.definition
  exact (hstopped.seek 0).play

theorem start (h : house.Billed d bindings width height) :
    house.start.Billed d bindings width height :=
  (((h.draw .enter trivial).drawMenu.seek 0).play).drawStatus

theorem act (h : house.Billed d bindings width height) (key : Key) :
    (house.act key).Billed d bindings width height := by
  rw [Theater.act]
  split
  · refine h.withPlayer ?_
    rw [Player.toggle]
    split
    · exact h.definition
    · exact h.play.definition
  · split
    · exact h.restart
    · exact h

theorem tick (h : house.Billed d bindings width height) (elapsed : Float32) :
    (house.tick elapsed).Billed d bindings width height := by
  rw [Theater.tick]
  split
  · have hframed : ({ house with
        player := ((house.player.measure elapsed).frame house.screen).2.1
        screen := ((house.player.measure elapsed).frame house.screen).2.2 } : Theater).Billed
          d bindings width height := {
      screen := (billed_keeps d bindings width height).frame (house.player.measure elapsed) h.screen
      definition := (Player.frame_definition _ _).trans h.definition
      bindings := h.bindings }
    exact hframed.drawStatus
  · exact h

theorem redraw (h : house.Billed d bindings width height) :
    house.redraw.Billed d bindings width height := by
  have hcleared := h.draw .clear trivial
  have hempty : ({ house.draw [.clear] with
      screen := (house.draw [.clear]).screen.invalidate } : Theater).Billed d bindings width height :=
    ⟨{ hcleared.screen with }, hcleared.definition, hcleared.bindings⟩
  exact ((hempty.drawMenu).seek _).drawStatus

theorem step (h : house.Billed d bindings width height) (event : TheaterEvent) :
    (house.step event).Billed d bindings width height := by
  cases event with
  | press key =>
      rw [Theater.step]
      split
      · exact ⟨h.screen, h.definition, h.bindings⟩
      · exact (h.act key).drawStatus
  | resize size =>
      have hsized : ({ house with size } : Theater).Billed d bindings width height :=
        ⟨h.screen, h.definition, h.bindings⟩
      exact hsized.redraw
  | tick elapsed => exact h.tick elapsed
  | other => exact h

theorem run (events : List TheaterEvent) (h : house.Billed d bindings width height) :
    (Theater.run events house).Billed d bindings width height := by
  induction events generalizing house with
  | nil => exact h
  | cons event rest ih =>
      rw [Theater.run]
      split
      · exact ih (h.step event)
      · exact h

theorem close (h : house.Billed d bindings width height) :
    house.close.Billed d bindings width height := by
  have hleft := h.draw .leave trivial
  exact {
    screen := (billed_keeps d bindings width height).teardown house.player.session hleft.screen
    definition := h.definition
    bindings := h.bindings }

end Billed

-- The theater of an animation, before it opens.
theorem billed_ofSession (d : Definition) (config : PlayerConfig) (size : TerminalSize) :
    let loaded := Session.load d (screenFor size config)
    ∃ e, loaded.result = .ok e ∧
      (ofSession e loaded.stage config size).Billed d config.bindings size.columns
        (size.rows - menuRows - statusRows) := by
  intro loaded
  obtain ⟨e, hload⟩ := Session.load_ofSize d size.columns (size.rows - menuRows - statusRows)
    menuRows config.unitsPerCell
  refine ⟨e, hload, ?_, Session.load_definition hload, rfl⟩
  exact Screen.lettered_load (fun _ h => isBilled_of_isLettering config.bindings h)
    config.unitsPerCell

-- What a document or the names of the keys bring into a drawing, as it stands there.
def sources (d : Definition) (bindings : KeyBindings) : Drawing → List Char
  | .cell _ _ _ => d.letters
  | .menuBar _ => bindings.togglePause.toList ++ bindings.restart.toList ++ bindings.quit.toList
  | .statusLine _ _ => (d.scene.getD "scene").toList
  | .enter | .clear | .leave => []

theorem mem_status_iff {p : Player} {c : Char} (hc : isControl c = true) :
    c ∈ (status p).toList ↔ c ∈ (p.session.definition.scene.getD "scene").toList := by
  have hblank : Printable " " := by decide
  have hbar : Printable " | " := by decide
  have hstate : Printable (stateName p.state) := by cases p.state <;> decide
  have htime : Printable (padLeft 6 (fixed 2 p.time)) := printable_padLeft (printable_fixed 2 _) 6
  have hslash : Printable "s / " := by decide
  have hend : Printable (fixed 2 p.session.duration) := printable_fixed 2 _
  have hunit : Printable "s" := by decide
  have hloop : Printable (if p.session.looping then " (loop)" else "") := by
    cases p.session.looping <;> decide
  simp only [status, String.toList_append, List.mem_append, hblank.notMem hc, hbar.notMem hc,
    hstate.notMem hc, htime.notMem hc, hslash.notMem hc, hend.notMem hc, hunit.notMem hc,
    hloop.notMem hc, or_false, false_or]

theorem mem_menuBar_iff {b : KeyBindings} {c : Char} (hc : isControl c = true) :
    c ∈ (" " ++ String.intercalate "  " (menuItems b)).toList ↔
      c ∈ b.togglePause.toList ++ b.restart.toList ++ b.quit.toList := by
  have hblank : Printable " " := by decide
  have hblanks : Printable "  " := by decide
  have hopen : Printable "[" := by decide
  have hplay : Printable "] play/pause" := by decide
  have hrestart : Printable "] restart" := by decide
  have hquit : Printable "][Esc] quit" := by decide
  simp only [menuItems, String.intercalate_cons_cons, String.intercalate_singleton,
    String.toList_append, List.mem_append, hblank.notMem hc, hblanks.notMem hc, hopen.notMem hc,
    hplay.notMem hc, hrestart.notMem hc, hquit.notMem hc, or_false, false_or, or_assoc]

theorem mem_letters_of_isLettering {width height originRow : Nat} {letters : List Char}
    {drawing : Drawing} (h : IsLettering width height originRow letters drawing) {c : Char}
    (hc : isControl c = true) (hmem : c ∈ Token.letters drawing.tokens) : c ∈ letters := by
  cases drawing with
  | cell column row cell =>
      rw [Drawing.letters_tokens] at hmem
      obtain rfl := List.mem_singleton.mp hmem
      have hwears : Wears letters cell := h.2.2.2
      exact hwears.mem_letters hc
  | _ => exact h.elim

-- No control character is shown that was not in what the document or the names of the keys brought.
theorem mem_sources_of_isBilled {d : Definition} {bindings : KeyBindings} {width height : Nat}
    {drawing : Drawing} (h : IsBilled d bindings width height drawing) {c : Char}
    (hc : isControl c = true) (hmem : c ∈ Token.letters drawing.tokens) :
    c ∈ sources d bindings drawing := by
  rw [Drawing.letters_tokens] at hmem
  cases drawing with
  | cell column row cell =>
      have hlettering : IsLettering width height menuRows d.letters (.cell column row cell) := h
      rw [← Drawing.letters_tokens (.cell column row cell)] at hmem
      exact mem_letters_of_isLettering hlettering hc hmem
  | menuBar items =>
      obtain rfl : items = menuItems bindings := h
      exact (mem_menuBar_iff hc).mp hmem
  | statusLine row line =>
      obtain ⟨-, p, rfl, rfl⟩ := h
      exact (mem_status_iff hc).mp hmem
  | enter => cases hmem
  | clear => cases hmem
  | leave => cases hmem

-- A terminal shows every character of what was written, and does nothing but what each drawing
-- consists of.
structure Legible (written : List Drawing) : Prop where
  plain : ∀ drawing ∈ written, ∀ c ∈ Token.letters drawing.tokens, isControl c = false
  read : Token.read (String.join (written.map Drawing.text)).toList = written.flatMap Drawing.tokens

-- It is enough to know where control characters may come from, and that there are none.
theorem legible_of_sources {written : List Drawing} {source : Drawing → List Char}
    (h : ∀ drawing ∈ written, ∀ c ∈ Token.letters drawing.tokens, isControl c = true →
      c ∈ source drawing)
    (hsource : ∀ drawing ∈ written, ∀ c ∈ source drawing, isControl c = false) :
    Legible written := by
  have hplain : ∀ drawing ∈ written, ∀ c ∈ Token.letters drawing.tokens, isControl c = false := by
    intro drawing hdrawing c hc
    by_contra hcontrol
    rw [Bool.not_eq_false] at hcontrol
    have hmem := h drawing hdrawing c hc hcontrol
    rw [hsource drawing hdrawing c hmem] at hcontrol
    cases hcontrol
  exact ⟨hplain, Drawing.read_drawings hplain⟩

-- A document's texts get to a terminal in cells of the canvas, one character each, and in the status
-- line, which leaves the label of the scene as it is. There are no others but the names of the keys,
-- so a control character is only ever written that one of these has. Where none has one, every
-- character that is written is shown, and all control sequences are those of the drawings.
theorem control_only_from_texts (d : Definition) :
    (∀ (width height originRow : Nat) (unitsPerCell : Float32) (times : List Float32),
      let loaded := Session.load d (Screen.ofSize width height originRow unitsPerCell)
      ∃ e e' s, loaded.result = .ok e ∧ Session.play times e loaded.stage = (.ok (), e', s) ∧
        (∀ drawing ∈ s.output.toList, IsLettering width height originRow d.letters drawing) ∧
        ((∀ c ∈ d.letters, isControl c = false) → Legible s.output.toList)) ∧
    ∀ (config : PlayerConfig) (size : TerminalSize) (events : List TheaterEvent),
      let loaded := Session.load d (screenFor size config)
      ∃ e, loaded.result = .ok e ∧
        let house := (run events (ofSession e loaded.stage config size).start).close
        (∀ drawing ∈ house.screen.output.toList,
          IsBilled d config.bindings size.columns (size.rows - menuRows - statusRows) drawing ∧
          ∀ c ∈ Token.letters drawing.tokens, isControl c = true →
            c ∈ sources d config.bindings drawing) ∧
        (∀ row line, .statusLine row line ∈ house.screen.output.toList → ∀ c, isControl c = true →
          (c ∈ line.toList ↔ c ∈ (d.scene.getD "scene").toList)) ∧
        ((∀ drawing, ∀ c ∈ sources d config.bindings drawing, isControl c = false) →
          Legible house.screen.output.toList) := by
  refine ⟨fun width height originRow unitsPerCell times => ?_, fun config size events => ?_⟩
  · obtain ⟨e, hload⟩ := Session.load_ofSize d width height originRow unitsPerCell
    have hproper : ∀ drawing, IsLettering width height originRow d.letters drawing →
        IsLettering width height originRow d.letters drawing := fun _ h => h
    have hloaded := Screen.lettered_load hproper unitsPerCell
    obtain ⟨e', s, hplay⟩ := Screen.play_eq times e
      (Session.load d (Screen.ofSize width height originRow unitsPerCell)).stage
    have hplayed := (lettered_keeps hproper).play times e hloaded
    rw [hplay] at hplayed
    have hletters : ∀ drawing ∈ s.output.toList, ∀ c ∈ Token.letters drawing.tokens,
        isControl c = true → c ∈ d.letters := fun drawing hmem c hc hcontrol =>
      mem_letters_of_isLettering (hplayed.output drawing hmem) hcontrol hc
    exact ⟨e, e', s, hload, hplay, hplayed.output,
      fun hplain => legible_of_sources hletters fun _ _ => hplain⟩
  · obtain ⟨e, hload, hfirst⟩ := billed_ofSession d config size
    have hclosed := (hfirst.start.run events).close
    have hwritten := hclosed.screen.output
    have hsources : ∀ drawing ∈ (run events
          (ofSession e (Session.load d (screenFor size config)).stage config size).start
            ).close.screen.output.toList, ∀ c ∈ Token.letters drawing.tokens, isControl c = true →
        c ∈ sources d config.bindings drawing := fun drawing hmem c hc hcontrol =>
      mem_sources_of_isBilled (hwritten drawing hmem) hcontrol hc
    refine ⟨e, hload, fun drawing hmem => ⟨hwritten drawing hmem, hsources drawing hmem⟩,
      fun row line hline c hc => ?_,
      fun hplain => legible_of_sources hsources fun drawing _ => hplain drawing⟩
    obtain ⟨-, p, hp, rfl⟩ := hwritten _ hline
    rw [mem_status_iff hc, hp]

-- An annotation of two lines has its line feed written in a cell. A scene named after a control
-- sequence has the terminal carry it out.
theorem line_feed_and_sequence_written :
    (∃ d e, (Definition.ofText "\x7b\"annotations\":[\x7b\"text\":\"a\\nb\"\x7d]\x7d").result =
        .ok d ∧
      let loaded := Session.load d (Screen.ofSize 20 8 1 1)
      loaded.result = .ok e ∧ ∃ drawing ∈ (e.evaluate 1 loaded.stage).2.2.output.toList,
        '\n' ∈ Token.letters drawing.tokens ∧ isControl '\n' = true) ∧
    ∃ d e, (Definition.ofText "\x7b\"scene\":\"\\u001b[2J\"\x7d").result = .ok d ∧
      (Session.load d (Screen.ofSize 20 8 1 1)).result = .ok e ∧
      let line := Drawing.statusLine 9 (status (.ofSession e .realTime))
      Token.sequence ['2', 'J'] ∈ Token.read line.text.toList ∧
        Token.sequence ['2', 'J'] ∉ line.tokens := by
  have hlines : ((Definition.ofText
      "\x7b\"annotations\":[\x7b\"text\":\"a\\nb\"\x7d]\x7d").result.toOption.any fun d =>
        let loaded := Session.load d (Screen.ofSize 20 8 1 1)
        loaded.result.toOption.any fun e =>
          decide (∃ drawing ∈ (e.evaluate 1 loaded.stage).2.2.output.toList,
            '\n' ∈ Token.letters drawing.tokens ∧ isControl '\n' = true)) = true := by
    decide +kernel
  have hscene : ((Definition.ofText "\x7b\"scene\":\"\\u001b[2J\"\x7d").result.toOption.any fun d =>
      (Session.load d (Screen.ofSize 20 8 1 1)).result.toOption.any fun e =>
        let line := Drawing.statusLine 9 (status (.ofSession e .realTime))
        decide (Token.sequence ['2', 'J'] ∈ Token.read line.text.toList) &&
          decide (Token.sequence ['2', 'J'] ∉ line.tokens)) = true := by
    decide +kernel
  obtain ⟨d, hd, hshown⟩ := exists_of_any hlines
  obtain ⟨e, he, hwritten⟩ := exists_of_any hshown
  obtain ⟨named, hnamed, hsaid⟩ := exists_of_any hscene
  obtain ⟨session, hsession, hread⟩ := exists_of_any hsaid
  rw [Bool.and_eq_true] at hread
  exact ⟨⟨d, e, hd, he, of_decide_eq_true hwritten⟩, named, session, hnamed, hsession,
    of_decide_eq_true hread.1, of_decide_eq_true hread.2⟩

end Theater

end Diorama
