import Diorama.Proofs.Canvas.Strokes
import Diorama.Proofs.Stage.Keeping
import Diorama.Proofs.Text.Printable

namespace Diorama

-- The characters of a shape that are its own. All other shapes are drawn in glyphs.
def Shape.letters : Shape → List Char
  | .text content _ => content.toList
  | _ => []

namespace Screen

open Canvas (Paints)

-- The characters that everything but texts is drawn with.
def glyphs : List Char := [' ', '@', '%', '#', '.', 'o', '*', '·']

-- A cell that shows a glyph or one of some letters.
def Wears (letters : List Char) (cell : Cell) : Prop :=
  cell.character ∈ glyphs ∨ cell.character ∈ letters

-- Glyphs are never control characters.
theorem Wears.mem_letters {letters : List Char} {cell : Cell} (h : Wears letters cell)
    (hc : isControl cell.character = true) : cell.character ∈ letters := by
  have hplain : glyphs.all (!isControl ·) = true := by decide
  refine h.resolve_left fun hglyph => ?_
  have hshown := List.all_eq_true.mp hplain cell.character hglyph
  rw [hc] at hshown
  cases hshown

variable {width height : Nat}

-- A shape is drawn with one cell, in glyphs and in the letters of the shape.
theorem drawShape_paints {p : Cell → Prop} (s : Screen) (shape : Shape) (tf : Transform)
    {cell : Cell} (hglyph : ∀ ch ∈ glyphs, p (withCharacter cell ch))
    (hletter : ∀ ch ∈ shape.letters, p (withCharacter cell ch)) :
    Paints p fun c : Canvas width height => s.drawShape shape tf cell c := by
  have hdot : p (withCharacter cell 'o') := hglyph 'o' (by decide)
  have hstar : p (withCharacter cell '*') := hglyph '*' (by decide)
  have hmote : p (withCharacter cell '·') := hglyph '·' (by decide)
  cases shape with
  | sphere radius => exact .fillDisc (hglyph '@' (by decide)) hdot _ _ _
  | cylinder radius height => exact .fillDisc (hglyph '%' (by decide)) hdot _ _ _
  | cube width height depth => exact .fillRectangle (hglyph '#' (by decide)) _ _ _ _
  | plane width height => exact .fillRectangle (hglyph '.' (by decide)) _ _ _ _
  | line points =>
      simp only [drawShape]
      split
      · exact .put hstar _ _
      · exact .foldl fun pair _ => .drawSegment hstar pair.1 pair.2
  | particles count spread => exact .foldl fun index _ => .put hmote _ _
  | text content fontSize =>
      simp only [drawShape]
      exact .putText hletter _ _

theorem drawPrimitive_paints {p : Cell → Prop} (s : Screen) (q : Primitive × Transform)
    (hglyph : ∀ ch ∈ glyphs, p (withCharacter (style q.1.material) ch))
    (hletter : ∀ ch ∈ q.1.shape.letters, p (withCharacter (style q.1.material) ch)) :
    Paints p fun c : Canvas width height => s.drawPrimitive q c :=
  s.drawShape_paints _ _ hglyph hletter

-- An overlay is drawn in its letters, all in white.
theorem drawOverlay_paints {p : Cell → Prop} (index : Nat) (o : Overlay)
    (h : ∀ cell : Cell, cell.color = some .white → cell.character ∈ o.text.toList → p cell) :
    Paints p fun c : Canvas width height => drawOverlay index o c := by
  simp only [drawOverlay]
  split
  · exact .putText (fun ch hmem => h _ rfl hmem) _ _
  · exact .nothing

-- Everything that may be drawn is written in some letters.
structure Written (letters : List Char) (s : Screen) : Prop where
  primitives : ∀ p ∈ s.primitives.values, p.1.shape.letters ⊆ letters
  overlays : ∀ o ∈ s.overlays, o.text.toList ⊆ letters

theorem blank_cell? {i j : Nat} {cell : Cell}
    (h : (Canvas.blank width height).cell? i j = some cell) : cell = .blank := by
  simp only [Canvas.cell?, Canvas.blank, Option.bind_eq_bind, Option.bind_eq_some_iff,
    Vector.getElem?_replicate, Option.ite_none_right_eq_some, Option.some.injEq] at h
  obtain ⟨_, ⟨-, rfl⟩, hcell⟩ := h
  simp only [Vector.getElem?_replicate, Option.ite_none_right_eq_some, Option.some.injEq] at hcell
  exact hcell.2.symm

theorem Written.rasterize_wears {letters : List Char} {s : Screen} (h : s.Written letters)
    {i j : Nat} {cell : Cell} (hcell : s.rasterize.cell? i j = some cell) :
    Wears letters cell := by
  have hscene : Paints (Wears letters) fun c : Canvas s.width s.height =>
      s.layers.foldl (fun c p => s.drawPrimitive p c) c := by
    refine .foldl fun p hp => ?_
    have hmem : p ∈ s.primitives.values := by simpa [layers] using hp
    exact s.drawPrimitive_paints p (fun ch hglyph => .inl hglyph)
      fun ch hletter => .inr (h.primitives p hmem hletter)
  have hoverlays : Paints (Wears letters) fun c : Canvas s.width s.height =>
      s.overlays.zipIdx.foldl (fun c o => drawOverlay o.2 o.1 c) c := by
    refine .foldl fun o ho => ?_
    have hmem : o.1 ∈ s.overlays := List.fst_mem_of_mem_zipIdx ho
    exact drawOverlay_paints o.2 o.1 fun cell _ hletter => .inr (h.overlays o.1 hmem hletter)
  have hpicture := (hscene.comp hoverlays).cell?_eq_some hcell
  rcases hpicture with hblank | hwears
  · rw [blank_cell? hblank]
    exact .inl (by decide)
  · exact hwears

-- A cell of a canvas that stands in the terminal from a row on, in a glyph or one of some letters.
def IsLettering (width height originRow : Nat) (letters : List Char) : Drawing → Prop
  | .cell column row cell =>
    column < width ∧ originRow ≤ row ∧ row < originRow + height ∧ Wears letters cell
  | _ => False

-- A screen that will write nothing else on its own, and has only written what is proper.
structure Lettered (width height originRow : Nat) (letters : List Char) (proper : Drawing → Prop)
    (s : Screen) : Prop extends Written letters s where
  width_eq : s.width = width
  height_eq : s.height = height
  originRow_eq : s.originRow = originRow
  output : ∀ drawing ∈ s.output.toList, proper drawing

variable {originRow : Nat} {letters : List Char} {proper : Drawing → Prop} {s : Screen}

theorem Written.set (h : s.Written letters) {key : Nat} {p : Primitive × Transform}
    (hp : p.1.shape.letters ⊆ letters) :
    ∀ q ∈ (s.primitives.set key p).values, q.1.shape.letters ⊆ letters := by
  intro q hq
  obtain ⟨entry, hentry, rfl⟩ := List.mem_map.mp hq
  rcases Table.mem_put hentry with rfl | hold
  · exact hp
  · exact h.primitives entry.2 (List.mem_map.mpr ⟨entry, hold, rfl⟩)

theorem Written.erase (h : s.Written letters) (key : Nat) :
    ∀ q ∈ (s.primitives.erase key).values, q.1.shape.letters ⊆ letters := by
  intro q hq
  obtain ⟨entry, hentry, rfl⟩ := List.mem_map.mp hq
  exact h.primitives entry.2 (List.mem_map.mpr ⟨entry, (List.mem_filter.mp hentry).1, rfl⟩)

theorem Written.get? (h : s.Written letters) {key : Nat} {p : Primitive × Transform}
    (hp : s.primitives.get? key = some p) : p.1.shape.letters ⊆ letters :=
  h.primitives p (List.mem_map.mpr ⟨(key, p), Table.get?_eq_some_iff.mp hp, rfl⟩)

theorem Written.putOverlay (h : s.Written letters) {o : Overlay} (ho : o.text.toList ⊆ letters)
    (index : Nat) : ∀ other ∈ (s.putOverlay index o).overlays, other.text.toList ⊆ letters := by
  intro other hmem
  rcases List.mem_or_eq_of_mem_set hmem with hmem | rfl
  · rcases List.mem_append.mp hmem with hold | hpadding
    · exact h.overlays other hold
    · rw [List.eq_of_mem_replicate hpadding]
      exact List.nil_subset letters
  · exact ho

theorem Written.updateOverlay (h : s.Written letters) (index : Nat) (view : AnnotationView) :
    ∀ o ∈ s.overlays.modify index (fun o => { o with view }), o.text.toList ⊆ letters := by
  intro o hmem
  obtain ⟨i, hi⟩ := List.mem_iff_getElem?.mp hmem
  rw [List.getElem?_modify] at hi
  obtain ⟨old, hold, rfl⟩ := Option.map_eq_some_iff.mp hi
  have htext := h.overlays old (List.mem_of_getElem? hold)
  split <;> exact htext

theorem Lettered.mem_frameDrawings (h : s.Lettered width height originRow letters proper)
    {drawing : Drawing} (hmem : drawing ∈ frameDrawings s.originRow s.previous s.rasterize) :
    IsLettering width height originRow letters drawing := by
  obtain ⟨x, y, cell, rfl, hcell, -⟩ := Screen.mem_frameDrawings.mp hmem
  have hwears := h.toWritten.rasterize_wears hcell
  obtain ⟨hx, hy⟩ := Canvas.cell?_isSome_iff.mp (Option.isSome_of_mem hcell)
  rw [h.width_eq] at hx
  rw [h.height_eq] at hy
  rw [h.originRow_eq]
  exact ⟨hx, by omega, by omega, hwears⟩

-- Whatever such a screen is told, it stays one, as long as what it is to show is in the letters.
theorem lettered_keeps
    (hproper : ∀ drawing, IsLettering width height originRow letters drawing → proper drawing) :
    Stage.Keeps (fun p => p.shape.letters ⊆ letters) (fun a => a.text.toList ⊆ letters)
      (Lettered width height originRow letters proper) where
  create := by
    intro p s hp h
    exact { h with primitives := h.set hp }
  perform := by
    intro order s ha h
    cases order with
    | setTransform handle tf =>
        simp only [Stage.perform, Screen.perform, Screen.setTransform]
        cases hknown : s.primitives.get? handle.number with
        | none => exact h
        | some entry =>
            have hletters : entry.1.shape.letters ⊆ letters := h.get? hknown
            exact { h with primitives := h.set hletters }
    | renderFrame =>
        refine { h with output := fun drawing hmem => ?_ }
        have hwritten : drawing ∈ s.output.toList ++
            frameDrawings s.originRow s.previous s.rasterize := by
          simpa [Stage.perform, Screen.perform, Screen.renderFrame] using hmem
        rcases List.mem_append.mp hwritten with hold | hnew
        · exact h.output drawing hold
        · exact hproper drawing (h.mem_frameDrawings hnew)
    | destroyPrimitive handle => exact { h with primitives := h.erase handle.number }
    | setCamera camera => exact { h with }
    | createOverlay index a => exact { h with overlays := h.putOverlay (ha a rfl) index }
    | updateOverlay index view => exact { h with overlays := h.updateOverlay index view }

theorem lettered_ofSize (width height originRow : Nat) (unitsPerCell : Float32)
    (letters : List Char) (proper : Drawing → Prop) :
    (ofSize width height originRow unitsPerCell).Lettered width height originRow letters proper where
  primitives p hmem := absurd hmem List.not_mem_nil
  overlays o hmem := absurd hmem List.not_mem_nil
  width_eq := rfl
  height_eq := rfl
  originRow_eq := rfl
  output drawing hmem := absurd hmem (by simp [ofSize])

end Screen

-- The letters of a document that may come to stand on a canvas: those of the actors that are texts
-- and those of the annotations.
def Definition.letters (d : Definition) : List Char :=
  (d.actors.filterMap (·.primitive?)).flatMap (·.shape.letters) ++
    d.annotations.flatMap (·.text.toList)

namespace Definition

theorem letters_of_actor {d : Definition} {a : ActorDefinition} (ha : a ∈ d.actors) {p : Primitive}
    (hp : p ∈ a.primitive?) : p.shape.letters ⊆ d.letters := by
  intro c hc
  have hmem : p ∈ d.actors.filterMap (·.primitive?) := List.mem_filterMap.mpr ⟨a, ha, hp⟩
  exact List.mem_append_left _ (List.mem_flatMap.mpr ⟨p, hmem, hc⟩)

theorem letters_of_annotation {d : Definition} {a : Annotation} (ha : a ∈ d.annotations) :
    a.text.toList ⊆ d.letters := by
  intro c hc
  exact List.mem_append_right _ (List.mem_flatMap.mpr ⟨a, ha, hc⟩)

end Definition

-- A screen on which an animation is set up shows only what the document says.
theorem Screen.lettered_load {width height originRow : Nat} {d : Definition} {proper : Drawing → Prop}
    (hproper : ∀ drawing, IsLettering width height originRow d.letters drawing → proper drawing)
    (unitsPerCell : Float32) :
    (Session.load d (ofSize width height originRow unitsPerCell)).stage.Lettered width height
      originRow d.letters proper := by
  have hempty := lettered_ofSize width height originRow unitsPerCell d.letters proper
  exact (lettered_keeps hproper).load (fun a ha p hp => Definition.letters_of_actor ha hp)
    (fun a ha => Definition.letters_of_annotation ha) hempty

end Diorama
