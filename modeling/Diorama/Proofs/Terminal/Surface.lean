import Diorama.Proofs.Playback.Redraw
import Diorama.Proofs.Stage.Keeping
import Diorama.Proofs.Terminal.Difference

namespace Diorama

-- What a terminal shows of the drawings that it was sent: the cells, and for each row the bar that
-- stands there as it was written.
structure Surface where
  display : Display
  bars : Nat → Option Drawing

namespace Surface

def blank : Surface := ⟨fun _ _ => .blank, fun _ => none⟩

-- A bar takes the whole row.
def put (row : Nat) (bar : Drawing) (a : Surface) : Surface where
  display x y := if y = row then .blank else a.display x y
  bars y := if y = row then some bar else a.bars y

-- A cell takes its place, and what bar there was on the row is not whole any more.
def write (a : Surface) : Drawing → Surface
  | .cell column row cell =>
    ⟨a.display.write (.cell column row cell), fun y => if y = row then none else a.bars y⟩
  | .enter | .clear | .leave => blank
  | .menuBar items => a.put 0 (.menuBar items)
  | .statusLine row text => a.put row (.statusLine row text)

def writeAll (a : Surface) (drawings : List Drawing) : Surface := drawings.foldl write a

-- Cells that miss a row leave the bar on it alone.
theorem writeAll_cells {drawings : List Drawing}
    (h : ∀ drawing ∈ drawings, ∃ x y cell, drawing = .cell x y cell) (a : Surface) :
    (a.writeAll drawings).display = a.display.writeAll drawings ∧
      ∀ row, (∀ x cell, .cell x row cell ∉ drawings) →
        (a.writeAll drawings).bars row = a.bars row := by
  induction drawings generalizing a with
  | nil => exact ⟨rfl, fun _ _ => rfl⟩
  | cons drawing rest ih =>
      obtain ⟨⟨x, y, cell, rfl⟩, hrest⟩ := List.forall_mem_cons.mp h
      obtain ⟨hdisplay, hbars⟩ := ih hrest (a.write (.cell x y cell))
      refine ⟨hdisplay, fun row hrow => ?_⟩
      have hne : row ≠ y := by
        rintro rfl
        exact hrow x cell List.mem_cons_self
      have hkept := hbars row fun x' cell' hmem => hrow x' cell' (List.mem_cons_of_mem _ hmem)
      refine hkept.trans ?_
      simp [write, hne]

-- A bar on a row that a picture does not reach.
theorem put_shows {a : Surface} {originRow : Nat} {picture : Nat → Nat → Option Cell}
    (h : a.display.Shows originRow picture) {row : Nat}
    (hrow : ∀ x y cell, picture x y = some cell → y + originRow ≠ row) (bar : Drawing) :
    (a.put row bar).display.Shows originRow picture := by
  intro x y cell hcell
  refine (if_neg (hrow x y cell hcell)).trans ?_
  exact h x y cell hcell

end Surface

namespace Screen

variable {first : Surface} {s s' : Screen}

-- What the terminal of a screen shows that showed something else at first.
def surface (first : Surface) (s : Screen) : Surface := first.writeAll s.output.toList

theorem surface_write (drawings : List Drawing) :
    (s.write drawings).surface first = (s.surface first).writeAll drawings := by
  simp [surface, write, Surface.writeAll]

theorem Untouched.trans {s'' : Screen} (h : s.Untouched s') (h' : s'.Untouched s'') :
    s.Untouched s'' :=
  ⟨h'.width.trans h.width, h'.height.trans h.height, h'.originRow.trans h.originRow,
    h'.kept.trans h.kept, h'.output.trans h.output⟩

-- The screen is right about what is on its terminal, and the bars outside of the canvas are these.
structure InOrder (first : Surface) (height originRow : Nat) (bars : Nat → Option Drawing)
    (s : Screen) : Prop where
  height_eq : s.height = height
  originRow_eq : s.originRow = originRow
  shown : ∀ picture ∈ s.kept, (s.surface first).display.Shows s.originRow picture
  bars : ∀ row, ¬(originRow ≤ row ∧ row < originRow + height) →
    (s.surface first).bars row = bars row

variable {height originRow : Nat} {bars : Nat → Option Drawing}

theorem InOrder.untouched (h : s.InOrder first height originRow bars) (hsame : s.Untouched s') :
    s'.InOrder first height originRow bars := by
  have hsurface : s'.surface first = s.surface first := by rw [surface, hsame.output, surface]
  refine ⟨hsame.height.trans h.height_eq, hsame.originRow.trans h.originRow_eq, ?_, ?_⟩
  · rw [hsame.kept, hsurface, hsame.originRow]
    exact h.shown
  · rw [hsurface]
    exact h.bars

theorem InOrder.renderFrame (h : s.InOrder first height originRow bars) :
    s.renderFrame.InOrder first height originRow bars := by
  have hcells : ∀ drawing ∈ frameDrawings s.originRow s.previous s.rasterize,
      ∃ x y cell, drawing = .cell x y cell := by
    intro drawing hmem
    obtain ⟨x, y, cell, heq, -, -⟩ := mem_frameDrawings.mp hmem
    exact ⟨x, y + s.originRow, cell, heq⟩
  have hsurface : s.renderFrame.surface first =
      (s.surface first).writeAll (frameDrawings s.originRow s.previous s.rasterize) :=
    s.surface_write _
  obtain ⟨hdisplay, hbars⟩ := Surface.writeAll_cells hcells (s.surface first)
  refine ⟨h.height_eq, h.originRow_eq, fun picture hpicture => ?_, fun row hrow => ?_⟩
  · obtain rfl : (fun x y => s.rasterize.cell? x y) = picture := Option.some.inj hpicture
    rw [hsurface, hdisplay]
    refine shows_frameDrawings (fun c hc => h.shown _ ?_) s.rasterize
    rw [kept, Option.mem_def.mp hc]
    rfl
  · rw [hsurface, hbars, h.bars row hrow]
    intro x cell hmem
    obtain ⟨x', y', cell', heq, hcell, -⟩ := mem_frameDrawings.mp hmem
    obtain ⟨-, hrow', -⟩ := Drawing.cell.inj heq
    have hinside := (Canvas.cell?_isSome_iff.mp (Option.isSome_of_mem hcell)).2
    rw [h.height_eq] at hinside
    rw [h.originRow_eq] at hrow'
    omega

theorem inOrder_keeps :
    Stage.Keeps (fun _ => True) (fun _ => True) (InOrder first height originRow bars) where
  create _ h := h.untouched (create_untouched _ _)
  perform := by
    intro order s _ h
    by_cases hframe : order = .renderFrame
    · rw [hframe]
      exact h.renderFrame
    · exact h.untouched (perform_untouched hframe s)

-- A frame that is shown ends with the picture of what was then on the stage.
theorem evaluate_renders (e : Session) (t : Float32) (s : Screen) :
    ∃ s' : Screen, e.evaluate t s = (.ok (), e.shown t, s'.renderFrame) := by
  obtain ⟨before, horders, -⟩ := e.orders_eq t
  obtain ⟨s', hbefore⟩ := performAll_ok before s
  refine ⟨s', Session.evaluate_ok ?_⟩
  rw [horders, Stage.performAll_append_ok hbefore]
  rfl

-- Setting an animation up draws nothing.

theorem place_untouched (d : ActorDefinition) (p : Primitive) (s : Screen) :
    s.Untouched (Registry.place d p s).stage := by
  have hmoved : ∀ handle tf, (s.create p).2.Untouched
      ((s.create p).2.perform (.setTransform handle tf)).2 := fun handle tf =>
    perform_untouched (by simp) (s.create p).2
  exact (create_untouched p s).trans (hmoved _ _)

theorem createActor_untouched (d : ActorDefinition) (r : Registry) (s : Screen) :
    (∃ index, (r.createActor d s).1.result = .ok index) ∧
      s.Untouched (r.createActor d s).1.stage := by
  unfold Registry.createActor
  split
  · exact ⟨⟨_, rfl⟩, ⟨rfl, rfl, rfl, rfl, rfl⟩⟩
  · cases d.primitive? with
    | none => exact ⟨⟨_, rfl⟩, ⟨rfl, rfl, rfl, rfl, rfl⟩⟩
    | some p => exact ⟨⟨_, rfl⟩, place_untouched d p s⟩

theorem buildFrom_untouched (definitions : List ActorDefinition) (r : Registry) (s : Screen) :
    (∃ built, (r.buildFrom definitions s).result = .ok built) ∧
      s.Untouched (r.buildFrom definitions s).stage := by
  induction definitions generalizing r s with
  | nil => exact ⟨⟨_, rfl⟩, ⟨rfl, rfl, rfl, rfl, rfl⟩⟩
  | cons d rest ih =>
      obtain ⟨⟨index, hok⟩, hfirst⟩ := createActor_untouched d r s
      obtain ⟨hbuilt, hrest⟩ := ih (r.createActor d s).2 (r.createActor d s).1.stage
      simp only [Registry.buildFrom, hok]
      exact ⟨hbuilt, hfirst.trans hrest⟩

theorem announce_untouched (annotations : List Annotation) (index : Nat) (s : Screen) :
    (Session.announce index annotations s).1 = .ok () ∧
      s.Untouched (Session.announce index annotations s).2 := by
  induction annotations generalizing index s with
  | nil => exact ⟨rfl, ⟨rfl, rfl, rfl, rfl, rfl⟩⟩
  | cons a rest ih =>
      obtain ⟨hok, hrest⟩ := ih (index + 1) (s.perform (.createOverlay index a)).2
      exact ⟨hok, (perform_untouched (by simp) s).trans hrest⟩

theorem openView_untouched (d : Definition) (s : Screen) :
    (Session.openView d s).1 = .ok () ∧ s.Untouched (Session.openView d s).2 := by
  have hcamera : s.Untouched (s.perform (.setCamera (Session.cameraState d))).2 :=
    perform_untouched (by simp) s
  obtain ⟨hok, hannotations⟩ := announce_untouched d.annotations 0
    (s.perform (.setCamera (Session.cameraState d))).2
  exact ⟨hok, hcamera.trans hannotations⟩

theorem load_untouched (d : Definition) (s : Screen) :
    (∃ e, (Session.load d s).result = .ok e) ∧ s.Untouched (Session.load d s).stage := by
  obtain ⟨⟨r, hbuilt⟩, hactors⟩ := buildFrom_untouched d.actors .empty s
  replace hbuilt : (Registry.build d.actors s).result = .ok r := hbuilt
  obtain ⟨hok, hopened⟩ := openView_untouched d (Registry.build d.actors s).stage
  rcases hview : Session.openView d (Registry.build d.actors s).stage with ⟨result, s'⟩
  rw [hview] at hok hopened
  subst hok
  simp only [Session.load, hbuilt, hview]
  exact ⟨⟨_, rfl⟩, hactors.trans hopened⟩

end Screen

end Diorama
