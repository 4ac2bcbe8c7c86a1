import Mathlib.Data.List.Nodup
import Diorama.Terminal.Screen

namespace Diorama

-- What a terminal shows, by column and row.
abbrev Display := Nat → Nat → Cell

-- A cell goes to its place, and nothing else changes. A stage writes nothing but cells.
def Display.write (display : Display) : Drawing → Display
  | .cell column row cell => fun x y => if x = column ∧ y = row then cell else display x y
  | _ => display

def Display.writeAll (display : Display) (drawings : List Drawing) : Display :=
  drawings.foldl Display.write display

-- Column and row that a drawing goes to.
def Drawing.place? : Drawing → Option (Nat × Nat)
  | .cell column row _ => some (column, row)
  | _ => none

namespace Display

theorem writeAll_of_notMem {drawings : List Drawing} {x y : Nat}
    (h : ∀ cell, .cell x y cell ∉ drawings) (display : Display) :
    display.writeAll drawings x y = display x y := by
  induction drawings generalizing display with
  | nil => rfl
  | cons drawing rest ih =>
      have hrest := ih (fun cell hmem => h cell (List.mem_cons_of_mem _ hmem)) (display.write drawing)
      rw [writeAll, List.foldl_cons]
      refine hrest.trans ?_
      cases drawing with
      | cell column row cell =>
          have hne : ¬(x = column ∧ y = row) := by
            rintro ⟨rfl, rfl⟩
            exact h cell List.mem_cons_self
          simp [write, hne]
      | _ => rfl

theorem writeAll_of_mem {drawings : List Drawing} (hnodup : (drawings.map Drawing.place?).Nodup)
    {x y : Nat} {cell : Cell} (h : .cell x y cell ∈ drawings) (display : Display) :
    display.writeAll drawings x y = cell := by
  induction drawings generalizing display with
  | nil => exact absurd h List.not_mem_nil
  | cons drawing rest ih =>
      obtain ⟨hfirst, hrest⟩ := List.nodup_cons.mp hnodup
      rw [writeAll, List.foldl_cons]
      rcases List.mem_cons.mp h with rfl | h
      · -- nobody writes to the place again
        have hlast : ∀ other, .cell x y other ∉ rest := fun other hmem =>
          hfirst (List.mem_map.mpr ⟨_, hmem, rfl⟩)
        refine (writeAll_of_notMem hlast _).trans ?_
        simp [write]
      · exact ih hrest h _

-- The picture stands on the terminal, from a row on.
def Shows (display : Display) (originRow : Nat) (picture : Nat → Nat → Option Cell) : Prop :=
  ∀ x y cell, picture x y = some cell → display x (y + originRow) = cell

end Display

namespace Canvas

variable {width height : Nat}

theorem cell?_eq_some_iff {canvas : Canvas width height} {x y : Nat} {cell : Cell} :
    canvas.cell? x y = some cell ↔ ∃ row, canvas.toList[y]? = some row ∧ row.toList[x]? = some cell := by
  simp [cell?, Option.bind_eq_some_iff]

theorem cell?_isSome_iff {canvas : Canvas width height} {x y : Nat} :
    (canvas.cell? x y).isSome ↔ x < width ∧ y < height := by
  simp only [Option.isSome_iff_exists, cell?, Option.bind_eq_bind, Option.bind_eq_some_iff]
  constructor
  · rintro ⟨cell, row, hrow, hcell⟩
    exact ⟨(Vector.getElem?_eq_some_iff.mp hcell).1, (Vector.getElem?_eq_some_iff.mp hrow).1⟩
  · rintro ⟨hx, hy⟩
    exact ⟨canvas[y][x], canvas[y], by simp, by simp⟩

end Canvas

namespace Screen

variable {width height : Nat}

theorem mem_rowDrawings {row : Nat} {wanted : Cell → Nat → Bool} {cells : List Cell}
    {drawing : Drawing} :
    drawing ∈ rowDrawings row wanted cells ↔
      ∃ x cell, cells[x]? = some cell ∧ wanted cell x = true ∧ drawing = .cell x row cell := by
  simp only [rowDrawings, List.mem_map, List.mem_filter, Prod.exists, List.mem_zipIdx_iff_getElem?]
  constructor
  · rintro ⟨cell, x, ⟨hcell, hwanted⟩, rfl⟩
    exact ⟨x, cell, hcell, hwanted, rfl⟩
  · rintro ⟨x, cell, hcell, hwanted, rfl⟩
    exact ⟨cell, x, ⟨hcell, hwanted⟩, rfl⟩

theorem mem_pictureDrawings {originRow : Nat} (wanted : Nat → Nat → Cell → Bool)
    {next : Canvas width height} {drawing : Drawing} :
    (drawing ∈ next.toList.zipIdx.flatMap fun row =>
      rowDrawings (row.2 + originRow) (fun cell x => wanted row.2 x cell) row.1.toList) ↔
      ∃ x y cell, drawing = .cell x (y + originRow) cell ∧ next.cell? x y = some cell ∧
        wanted y x cell = true := by
  simp only [List.mem_flatMap, Prod.exists, List.mem_zipIdx_iff_getElem?, mem_rowDrawings,
    Canvas.cell?_eq_some_iff]
  constructor
  · rintro ⟨row, y, hrow, x, cell, hcell, hwanted, rfl⟩
    exact ⟨x, y, cell, rfl, ⟨row, hrow, hcell⟩, hwanted⟩
  · rintro ⟨x, y, cell, rfl, ⟨row, hrow, hcell⟩, hwanted⟩
    exact ⟨row, y, hrow, x, cell, hcell, hwanted, rfl⟩

-- A frame writes the cells of the picture that were not there before.
theorem mem_frameDrawings {originRow : Nat} {previous : Option (Canvas width height)}
    {next : Canvas width height} {drawing : Drawing} :
    drawing ∈ frameDrawings originRow previous next ↔
      ∃ x y cell, drawing = .cell x (y + originRow) cell ∧ next.cell? x y = some cell ∧
        (previous.bind fun c => c.cell? x y) ≠ some cell := by
  cases previous with
  | none => exact (mem_pictureDrawings fun _ _ _ => true).trans (by simp)
  | some c => exact (mem_pictureDrawings fun y x cell => c.cell? x y != some cell).trans (by simp)

theorem zipIdx_nodup {α : Type} (l : List α) : (l.zipIdx.map (·.2)).Nodup := by
  rw [List.zipIdx_map_snd]
  exact List.nodup_range'

theorem rowDrawings_nodup (row : Nat) (wanted : Cell → Nat → Bool) (cells : List Cell) :
    ((rowDrawings row wanted cells).map Drawing.place?).Nodup := by
  have hplaces : (rowDrawings row wanted cells).map Drawing.place? =
      ((cells.zipIdx.filter fun p => wanted p.1 p.2).map (·.2)).map fun x => some (x, row) := by
    simp [rowDrawings, Drawing.place?, Function.comp_def]
  rw [hplaces]
  refine List.Nodup.map (fun _ _ h => by simpa using h) ?_
  exact (zipIdx_nodup cells).sublist (List.filter_sublist.map _)

-- No place is written to twice.
theorem frameDrawings_nodup (originRow : Nat) (previous : Option (Canvas width height))
    (next : Canvas width height) :
    ((frameDrawings originRow previous next).map Drawing.place?).Nodup := by
  rw [frameDrawings, List.map_flatMap, List.nodup_flatMap]
  refine ⟨fun row _ => rowDrawings_nodup _ _ _, ?_⟩
  have hrows := List.pairwise_map.mp (zipIdx_nodup next.toList)
  refine hrows.imp ?_
  rintro ⟨cells, y⟩ ⟨others, y'⟩ hne place hplace hother
  obtain ⟨drawing, hmem, rfl⟩ := List.mem_map.mp hplace
  obtain ⟨drawing', hmem', heq⟩ := List.mem_map.mp hother
  obtain ⟨x, cell, -, -, rfl⟩ := mem_rowDrawings.mp hmem
  obtain ⟨x', cell', -, -, rfl⟩ := mem_rowDrawings.mp hmem'
  simp only [Drawing.place?, Option.some.injEq, Prod.mk.injEq] at heq
  exact hne (by omega)

-- Where the last picture stands, the difference makes the next one of it.
theorem shows_frameDrawings {originRow : Nat} {previous : Option (Canvas width height)}
    {display : Display} (h : ∀ c ∈ previous, display.Shows originRow fun x y => c.cell? x y)
    (next : Canvas width height) :
    (display.writeAll (frameDrawings originRow previous next)).Shows originRow
      fun x y => next.cell? x y := by
  intro x y cell hcell
  by_cases hold : (previous.bind fun c => c.cell? x y) = some cell
  · obtain ⟨c, hc, hsame⟩ := Option.bind_eq_some_iff.mp hold
    have hunwritten : ∀ other, .cell x (y + originRow) other ∉
        frameDrawings originRow previous next := by
      intro other hmem
      obtain ⟨x', y', cell', heq, hcell', hnew⟩ := mem_frameDrawings.mp hmem
      obtain ⟨rfl, hrow, rfl⟩ := Drawing.cell.inj heq
      obtain rfl : y = y' := by omega
      exact hnew (hold.trans (hcell.symm.trans hcell'))
    rw [Display.writeAll_of_notMem hunwritten]
    exact h c hc x y cell hsame
  · exact Display.writeAll_of_mem (frameDrawings_nodup originRow previous next)
      (mem_frameDrawings.mpr ⟨x, y, cell, rfl, hcell, hold⟩) display

-- What a screen takes to be on the terminal.
def kept (s : Screen) : Option (Nat → Nat → Option Cell) := s.previous.map fun c x y => c.cell? x y

theorem kept_bind (s : Screen) (x y : Nat) :
    (s.kept.bind fun picture => picture x y) = s.previous.bind fun c => c.cell? x y := by
  rw [kept, Option.bind_map]
  rfl

-- Nothing but the frame itself writes anything, and nothing else changes what is taken to be there.
structure Untouched (s s' : Screen) : Prop where
  width : s'.width = s.width
  height : s'.height = s.height
  originRow : s'.originRow = s.originRow
  kept : s'.kept = s.kept
  output : s'.output = s.output

theorem create_untouched (p : Primitive) (s : Screen) : s.Untouched (s.create p).2 :=
  ⟨rfl, rfl, rfl, rfl, rfl⟩

theorem perform_untouched {order : Order} (h : order ≠ .renderFrame) (s : Screen) :
    s.Untouched (s.perform order).2 := by
  cases order with
  | renderFrame => exact absurd rfl h
  | setTransform handle tf =>
      simp only [perform, setTransform]
      split <;> exact ⟨rfl, rfl, rfl, rfl, rfl⟩
  | _ => exact ⟨rfl, rfl, rfl, rfl, rfl⟩

-- What is done with a screen. Before it is told to start over, its terminal may come to show
-- anything.
inductive Event where
  | create (p : Primitive)
  | perform (order : Order)
  | invalidate (display : Display)

-- A screen with the terminal behind it, and the picture of the last frame unless the screen was
-- told to start over since.
structure Show where
  screen : Screen
  display : Display
  last : Option (Nat → Nat → Option Cell) := none

namespace Show

-- What was written on the way from one screen to another.
def written (s s' : Screen) : List Drawing := s'.output.toList.drop s.output.size

def become (a : Show) (screen : Screen) : Show :=
  { a with screen, display := a.display.writeAll (written a.screen screen) }

def step (a : Show) : Event → Show
  | .create p => a.become (Stage.create p a.screen).2
  | .perform order =>
    let next := a.become (Stage.perform order a.screen).2
    match order with
    | .renderFrame => { next with last := some fun x y => a.screen.rasterize.cell? x y }
    | _ => next
  | .invalidate display => ⟨a.screen.invalidate, display, none⟩

def run (events : List Event) (a : Show) : Show := events.foldl step a

-- The screen is right about what is on its terminal.
structure Faithful (width height originRow : Nat) (a : Show) : Prop where
  width_eq : a.screen.width = width
  height_eq : a.screen.height = height
  originRow_eq : a.screen.originRow = originRow
  kept_eq : a.screen.kept = a.last
  shown : ∀ picture ∈ a.last, a.display.Shows originRow picture

theorem Faithful.become {width height originRow : Nat} {a : Show} {screen : Screen}
    (h : a.Faithful width height originRow) (hsame : a.screen.Untouched screen) :
    (a.become screen).Faithful width height originRow where
  width_eq := hsame.width.trans h.width_eq
  height_eq := hsame.height.trans h.height_eq
  originRow_eq := hsame.originRow.trans h.originRow_eq
  kept_eq := hsame.kept.trans h.kept_eq
  shown picture hpicture := by
    have hnothing : written a.screen screen = [] := by simp [written, hsame.output]
    rw [Show.become, hnothing]
    exact h.shown picture hpicture

theorem written_renderFrame (s : Screen) :
    written s s.renderFrame = frameDrawings s.originRow s.previous s.rasterize := by
  simp [written, renderFrame]

theorem step_renderFrame (a : Show) :
    a.step (.perform .renderFrame) =
      ⟨a.screen.renderFrame,
        a.display.writeAll (frameDrawings a.screen.originRow a.screen.previous a.screen.rasterize),
        some fun x y => a.screen.rasterize.cell? x y⟩ := by
  rw [← written_renderFrame]
  rfl

theorem Faithful.previous {width height originRow : Nat} {a : Show}
    (h : a.Faithful width height originRow) :
    ∀ c ∈ a.screen.previous, a.display.Shows originRow fun x y => c.cell? x y := by
  intro c hc
  have hkept : a.screen.kept = some fun x y => c.cell? x y := by
    rw [Screen.kept, Option.mem_def.mp hc, Option.map_some]
  exact h.shown _ (h.kept_eq ▸ hkept)

theorem Faithful.renderFrame {width height originRow : Nat} {a : Show}
    (h : a.Faithful width height originRow) :
    (a.step (.perform .renderFrame)).Faithful width height originRow := by
  have hprevious := h.previous
  obtain ⟨rfl, rfl, rfl, -, -⟩ := h
  rw [step_renderFrame]
  refine ⟨rfl, rfl, rfl, rfl, fun picture hpicture => ?_⟩
  cases hpicture
  exact shows_frameDrawings hprevious a.screen.rasterize

theorem Faithful.step {width height originRow : Nat} {a : Show}
    (h : a.Faithful width height originRow) (event : Event) :
    (a.step event).Faithful width height originRow := by
  cases event with
  | create p => exact h.become (create_untouched p a.screen)
  | invalidate display =>
      refine ⟨h.width_eq, h.height_eq, h.originRow_eq, rfl, fun picture hpicture => ?_⟩
      cases hpicture
  | perform order =>
      cases order with
      | renderFrame => exact h.renderFrame
      | _ => exact h.become (perform_untouched (by simp) a.screen)

theorem Faithful.run {width height originRow : Nat} (events : List Event) {a : Show}
    (h : a.Faithful width height originRow) : (a.run events).Faithful width height originRow := by
  induction events generalizing a with
  | nil => exact h
  | cons event rest ih => exact ih (h.step event)

-- A new screen in front of a terminal that shows anything.
def start (width height originRow : Nat) (unitsPerCell : Float32) (display : Display) : Show :=
  { screen := .ofSize width height originRow unitsPerCell, display }

theorem start_faithful (width height originRow : Nat) (unitsPerCell : Float32) (display : Display) :
    (start width height originRow unitsPerCell display).Faithful width height originRow :=
  ⟨rfl, rfl, rfl, rfl, fun _ hpicture => by cases hpicture⟩

-- After every frame the terminal shows the picture, whatever was done before, and nothing else on
-- it has changed. What is written are the cells that the last picture did not have, each once;
-- when there is no last picture, they are all.
theorem frame_on_display (width height originRow : Nat) (unitsPerCell : Float32) (display : Display)
    (events : List Event) :
    let before := (start width height originRow unitsPerCell display).run events
    let after := before.step (.perform .renderFrame)
    let picture := fun x y => after.screen.rasterize.cell? x y
    let drawn := written before.screen after.screen
    (∀ x < width, ∀ y < height, picture x y = some (after.display x (y + originRow))) ∧
      (∀ x y, ¬(x < width ∧ originRow ≤ y ∧ y < originRow + height) →
        after.display x y = before.display x y) ∧
      (drawn.map Drawing.place?).Nodup ∧
      ∀ drawing, drawing ∈ drawn ↔ ∃ x y cell, drawing = .cell x (y + originRow) cell ∧
        picture x y = some cell ∧ (before.last.bind fun last => last x y) ≠ some cell := by
  intro before after picture drawn
  have hbefore : before.Faithful width height originRow :=
    (start_faithful width height originRow unitsPerCell display).run events
  have hafter : after.Faithful width height originRow := hbefore.renderFrame
  have hdrawn : drawn = frameDrawings before.screen.originRow before.screen.previous
      before.screen.rasterize := written_renderFrame before.screen
  rw [hbefore.originRow_eq] at hdrawn
  have hdisplay : after.display = before.display.writeAll drawn := rfl
  have hsome : ∀ x y, (picture x y).isSome ↔ x < width ∧ y < height := by
    intro x y
    rw [← hafter.width_eq, ← hafter.height_eq]
    exact Canvas.cell?_isSome_iff
  refine ⟨fun x hx y hy => ?_, fun x y houtside => ?_, ?_, fun drawing => ?_⟩
  · obtain ⟨cell, hcell⟩ := Option.isSome_iff_exists.mp ((hsome x y).mpr ⟨hx, hy⟩)
    rw [hcell, hafter.shown _ rfl x y cell hcell]
  · rw [hdisplay]
    apply Display.writeAll_of_notMem
    intro cell hmem
    obtain ⟨x', y', cell', heq, hcell, -⟩ := mem_frameDrawings.mp (hdrawn ▸ hmem)
    obtain ⟨rfl, rfl, -⟩ := Drawing.cell.inj heq
    obtain ⟨hx, hy⟩ := (hsome x y').mp (Option.isSome_of_mem hcell)
    omega
  · rw [hdrawn]
    exact frameDrawings_nodup _ _ _
  · rw [hdrawn, mem_frameDrawings, ← hbefore.kept_eq]
    simp only [kept_bind]
    rfl

end Show

end Screen

end Diorama
