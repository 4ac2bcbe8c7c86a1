import Mathlib.Data.Prod.Lex
import Diorama.Proofs.Number.TotalOrder
import Diorama.Proofs.Terminal.Glyphs

namespace Diorama

-- Sorting leaves what is alike in the order in which it stood before.
theorem pairwise_mergeSort_of_pairwise {α : Type} {le : α → α → Bool} {before : α → α → Prop}
    (htrans : ∀ a b c, le a b = true → le b c = true → le a c = true)
    (htotal : ∀ a b, (le a b || le b a) = true) {l : List α} (h : l.Pairwise before) :
    (l.mergeSort le).Pairwise fun a b => le a b = true ∧ (le b a = true → before a b) := by
  induction l with
  | nil =>
      rw [List.mergeSort_nil]
      exact .nil
  | cons a l ih =>
      obtain ⟨hhead, htail⟩ := List.pairwise_cons.mp h
      -- the first of the list comes behind those only that are strictly less
      obtain ⟨front, back, hcons, hsorted, hless⟩ := List.mergeSort_cons htrans htotal a l
      have hrest := ih htail
      rw [hsorted] at hrest
      obtain ⟨hfront, hback, hacross⟩ := List.pairwise_append.mp hrest
      have hle := List.pairwise_mergeSort htrans htotal (a :: l)
      rw [hcons] at hle ⊢
      obtain ⟨hleast, -⟩ := List.pairwise_cons.mp (List.pairwise_append.mp hle).2.1
      have hmem : ∀ b ∈ back, b ∈ l := fun b hb =>
        List.mem_mergeSort.mp (hsorted ▸ List.mem_append_right front hb)
      refine List.pairwise_append.mpr ⟨hfront, List.pairwise_cons.mpr ⟨fun b hb => ?_, hback⟩, ?_⟩
      · exact ⟨hleast b hb, fun _ => hhead b (hmem b hb)⟩
      · intro b hb c hc
        rcases List.mem_cons.mp hc with rfl | hc
        · have hnot : le c b = false := by simpa using hless b hb
          have hor := htotal c b
          rw [hnot, Bool.false_or] at hor
          exact ⟨hor, fun hle => absurd (hle.symm.trans hnot) (by decide)⟩
        · exact hacross b hb c hc

namespace Canvas

variable {width height : Nat} {draw : Canvas width height → Canvas width height}

theorem blank_cell?_of_lt {x y : Nat} (hx : x < width) (hy : y < height) :
    (blank width height).cell? x y = some .blank := by
  obtain ⟨cell, hcell⟩ := Option.isSome_iff_exists.mp (cell?_isSome_iff.mpr ⟨hx, hy⟩)
  rw [hcell, Screen.blank_cell? hcell]

-- What a drawing leaves at a place of a canvas that was blank, if it is seen there at all.
def mark? (draw : Canvas width height → Canvas width height) (x y : Nat) : Option Cell :=
  ((draw (blank width height)).cell? x y).filter (· ≠ .blank)

-- A drawing without blanks is seen wherever one of its strokes goes, and the last of them is.
theorem mark?_eq_last? {strokes : List Stroke} (hcells : ∀ stroke ∈ strokes, stroke.cell ≠ .blank)
    (hdraw : ∀ c, draw c = c.paint strokes) {x y : Nat} (hx : x < width) (hy : y < height) :
    mark? draw x y = Stroke.last? x y strokes := by
  rw [mark?, hdraw, cell?_paint, blank_cell?_of_lt hx hy, Option.map_some]
  cases hlast : Stroke.last? x y strokes with
  | none => simp
  | some cell =>
      obtain ⟨stroke, hmem, rfl⟩ := Stroke.exists_of_last? hlast
      simpa using hcells stroke hmem

-- On any other canvas it leaves the same, and what was there before where it leaves nothing.
theorem Paints.cell?_eq (h : Paints (· ≠ .blank) draw) (c : Canvas width height) (x y : Nat) :
    (draw c).cell? x y = (c.cell? x y).map (mark? draw x y).getD := by
  obtain ⟨strokes, hcells, hdraw⟩ := h
  rw [hdraw, cell?_paint]
  by_cases hin : x < width ∧ y < height
  · rw [mark?_eq_last? hcells hdraw hin.1 hin.2]
  · rw [cell?_eq_none hin, Option.map_none, Option.map_none]

end Canvas

namespace Screen

open Canvas (Paints)

-- Where a primitive lies, its number apart.
def layer (p : Primitive × Transform) : ℕ ×ₗ ℤ :=
  toLex (if p.1.shape.isPlane then 0 else 1, p.2.height.key)

theorem below_iff {p q : Primitive × Transform} : below p q = true ↔ layer p ≤ layer q := by
  simp only [below, layer, Prod.Lex.toLex_le_toLex]
  cases p.1.shape.isPlane <;> cases q.1.shape.isPlane <;> simp

theorem below_trans (p q r : Primitive × Transform) (hpq : below p q = true)
    (hqr : below q r = true) : below p r = true :=
  below_iff.mpr ((below_iff.mp hpq).trans (below_iff.mp hqr))

theorem below_total (p q : Primitive × Transform) : (below p q || below q p) = true := by
  rw [Bool.or_eq_true, below_iff, below_iff]
  exact le_total _ _

-- What comes onto a canvas: primitives with their numbers, and overlays with their places among
-- all overlays.
inductive Item where
  | primitive (number : Nat) (p : Primitive × Transform)
  | overlay (index : Nat) (o : Overlay)

namespace Item

def draw {w h : Nat} (s : Screen) : Item → Canvas w h → Canvas w h
  | .primitive _ p, c => s.drawPrimitive p c
  | .overlay index o, c => drawOverlay index o c

-- Planes lie under all other primitives, and these under the overlays. Within one kind primitives
-- lie by their heights and then by their numbers, and overlays by their places.
inductive Under : Item → Item → Prop where
  | plane {n m : Nat} {p q : Primitive × Transform} (hp : p.1.shape.isPlane = true)
    (hq : q.1.shape.isPlane = false) : Under (.primitive n p) (.primitive m q)
  | height {n m : Nat} {p q : Primitive × Transform} (hkind : p.1.shape.isPlane = q.1.shape.isPlane)
    (h : Height.TotalLt p.2.height q.2.height) : Under (.primitive n p) (.primitive m q)
  | number {n m : Nat} {p q : Primitive × Transform} (hkind : p.1.shape.isPlane = q.1.shape.isPlane)
    (hheight : p.2.height = q.2.height) (h : n < m) :
    Under (.primitive n p) (.primitive m q)
  | scene {n i : Nat} {p : Primitive × Transform} {o : Overlay} :
    Under (.primitive n p) (.overlay i o)
  | place {i j : Nat} {o o' : Overlay} (h : i < j) : Under (.overlay i o) (.overlay j o')

theorem Under.asymm {a b : Item} (h : Under a b) : ¬Under b a := by
  intro h'
  cases h with
  | plane hp hq => cases h' with
      | plane hq' _ => exact absurd (hq'.symm.trans hq) (by decide)
      | height hkind _ => exact absurd (hq.symm.trans (hkind.trans hp)) (by decide)
      | number hkind _ _ => exact absurd (hq.symm.trans (hkind.trans hp)) (by decide)
  | height hkind hlt => cases h' with
      | plane hq hp => exact absurd (hp.symm.trans (hkind.trans hq)) (by decide)
      | height _ hlt' => exact hlt.asymm hlt'
      | number _ hheight _ => exact hlt.ne hheight.symm
  | number hkind hheight hlt => cases h' with
      | plane hq hp => exact absurd (hp.symm.trans (hkind.trans hq)) (by decide)
      | height _ hlt' => exact hlt'.ne hheight.symm
      | number _ _ hlt' => exact Nat.lt_asymm hlt hlt'
  | scene => cases h'
  | place hlt => cases h' with
      | place hlt' => exact Nat.lt_asymm hlt hlt'

-- What is seen of an item that is drawn alone.
def mark? (s : Screen) (item : Item) (x y : Nat) : Option Cell :=
  Canvas.mark? (item.draw s : Canvas s.width s.height → _) x y

-- No item is drawn in blanks: all of them have a color.
theorem draw_paints {w h : Nat} (s : Screen) (item : Item) :
    Paints (· ≠ .blank) fun c : Canvas w h => item.draw s c := by
  have hcolored : ∀ cell : Cell, cell.color ≠ none → cell ≠ .blank := by
    rintro cell hcolor rfl
    exact hcolor rfl
  cases item with
  | primitive number p =>
      exact s.drawPrimitive_paints p (fun ch _ => hcolored _ (by simp [withCharacter, style]))
        fun ch _ => hcolored _ (by simp [withCharacter, style])
  | overlay index o =>
      exact drawOverlay_paints index o fun cell hwhite _ => hcolored cell (by simp [hwhite])

end Item

-- The items that are to be seen: all primitives, and those overlays that are not hidden.
inductive Presents (s : Screen) : Item → Prop where
  | primitive {number : Nat} {p : Primitive × Transform} (h : s.primitives.get? number = some p) :
    s.Presents (.primitive number p)
  | overlay {index : Nat} {o : Overlay} (h : s.overlays[index]? = some o)
    (hvisible : o.view.visible = true) : s.Presents (.overlay index o)

-- All of them, from bottom to top.
def items (s : Screen) : List Item :=
  (s.primitives.entries.mergeSort fun a b => below a.2 b.2).map (fun e => .primitive e.1 e.2) ++
    (s.overlays.zipIdx.filter (·.1.view.visible)).map fun o => .overlay o.2 o.1

theorem mem_items {s : Screen} {item : Item} : item ∈ s.items ↔ s.Presents item := by
  simp only [items, List.mem_append, List.mem_map, List.mem_mergeSort, List.mem_filter]
  constructor
  · rintro (⟨⟨number, p⟩, hmem, rfl⟩ | ⟨⟨o, index⟩, ⟨hmem, hvisible⟩, rfl⟩)
    · exact .primitive (Table.get?_eq_some_iff.mpr hmem)
    · exact .overlay (List.mk_mem_zipIdx_iff_getElem?.mp hmem) hvisible
  · rintro (@⟨number, p, h⟩ | @⟨index, o, h, hvisible⟩)
    · exact .inl ⟨(number, p), Table.get?_eq_some_iff.mp h, rfl⟩
    · exact .inr ⟨(o, index), ⟨List.mk_mem_zipIdx_iff_getElem?.mpr h, hvisible⟩, rfl⟩

theorem under_of_below {n m : Nat} {p q : Primitive × Transform} (hbelow : below p q = true)
    (hnumber : below q p = true → n < m) : Item.Under (.primitive n p) (.primitive m q) := by
  by_cases hkind : p.1.shape.isPlane = q.1.shape.isPlane
  · simp only [below, hkind, beq_self_eq_true, if_true, decide_eq_true_eq] at hbelow hnumber
    rcases hbelow.lt_or_eq with hlt | heq
    · exact .height hkind (Height.key_lt_iff.mp hlt)
    · exact .number hkind (Height.key_injective heq) (hnumber heq.ge)
  · simp only [below, beq_eq_false_iff_ne.mpr hkind, Bool.false_eq_true, if_false] at hbelow
    exact .plane hbelow (by simpa [hbelow] using hkind)

theorem items_rising (s : Screen) : s.items.Pairwise Item.Under := by
  have hsorted : (s.primitives.entries.mergeSort fun a b => below a.2 b.2).Pairwise fun a b =>
      below a.2 b.2 = true ∧ (below b.2 a.2 = true → a.1 < b.1) :=
    pairwise_mergeSort_of_pairwise (fun a b c => below_trans a.2 b.2 c.2)
      (fun a b => below_total a.2 b.2) s.primitives.rising
  have hplaces : s.overlays.zipIdx.Pairwise fun a b => a.2 < b.2 := by
    rw [← List.pairwise_map (f := Prod.snd) (R := (· < ·)), List.zipIdx_map_snd]
    exact List.pairwise_lt_range'
  refine List.pairwise_append.mpr ⟨?_, ?_, fun a ha b hb => ?_⟩
  · exact List.pairwise_map.mpr (hsorted.imp fun h => under_of_below h.1 h.2)
  · exact List.pairwise_map.mpr ((hplaces.filter _).imp .place)
  · obtain ⟨entry, -, rfl⟩ := List.mem_map.mp ha
    obtain ⟨o, -, rfl⟩ := List.mem_map.mp hb
    exact .scene

theorem rasterize_eq (s : Screen) :
    s.rasterize = s.items.foldl (fun c item => item.draw s c) (.blank s.width s.height) := by
  have hlayers : s.layers =
      (s.primitives.entries.mergeSort fun a b => below a.2 b.2).map (·.2) := by
    rw [List.map_mergeSort (s := below) fun _ _ _ _ => rfl]
    rfl
  have hhidden : (fun (c : Canvas s.width s.height) (o : Overlay × Nat) => drawOverlay o.2 o.1 c) =
      fun c o => if o.1.view.visible = true then drawOverlay o.2 o.1 c else c := by
    funext c o
    rw [drawOverlay]
    split <;> rfl
  rw [rasterize, items, List.foldl_append, List.foldl_map, List.foldl_map, List.foldl_filter,
    hlayers, List.foldl_map, hhidden]
  rfl

-- The topmost of all items that leave something at a place when they are drawn alone.
structure IsTopmost (s : Screen) (x y : Nat) (item : Item) : Prop where
  presented : s.Presents item
  covers : item.mark? s x y ≠ none
  highest : ∀ other, s.Presents other → other.mark? s x y ≠ none →
    other ≠ item → other.Under item

theorem IsTopmost.eq {s : Screen} {x y : Nat} {a b : Item} (ha : s.IsTopmost x y a)
    (hb : s.IsTopmost x y b) : a = b := by
  by_contra hne
  exact (hb.highest a ha.presented ha.covers hne).asymm
    (ha.highest b hb.presented hb.covers fun heq => hne heq.symm)

theorem cell?_rasterize (s : Screen) (x y : Nat) : s.rasterize.cell? x y =
    ((Canvas.blank s.width s.height).cell? x y).map
      (s.items.reverse.findSome? (·.mark? s x y)).getD := by
  rw [rasterize_eq]
  exact Canvas.cell?_foldl (fun item _ c => (item.draw_paints s).cell?_eq c x y) _

-- What is found first from above belongs to the topmost item.
theorem exists_isTopmost_of_findSome? {s : Screen} {x y : Nat} {cell : Cell}
    (h : s.items.reverse.findSome? (·.mark? s x y) = some cell) :
    ∃ item, s.IsTopmost x y item ∧ item.mark? s x y = some cell := by
  obtain ⟨above, item, under, hitems, hmark, habove⟩ := List.findSome?_eq_some_iff.mp h
  have hmem : ∀ other, s.Presents other ↔ other ∈ above ++ item :: under := by
    intro other
    rw [← hitems, List.mem_reverse, mem_items]
  have hfalling := List.pairwise_reverse.mpr s.items_rising
  rw [hitems] at hfalling
  obtain ⟨hunder, -⟩ := List.pairwise_cons.mp (List.pairwise_append.mp hfalling).2.1
  refine ⟨item, ⟨(hmem item).mpr (by simp), by simp [hmark], ?_⟩, hmark⟩
  intro other hother hcovers hne
  rcases List.mem_append.mp ((hmem other).mp hother) with hother | hother
  · exact absurd (habove other hother) hcovers
  · exact hunder other ((List.mem_cons.mp hother).resolve_left hne)

-- Every item is drawn by strokes that do not depend on what lies below, and of all items that cover
-- a place the topmost one is seen there as if it were alone.
theorem rasterize_topmost (s : Screen) :
    (s.rasterize.toList.length = s.height ∧
      ∀ row ∈ s.rasterize.toList, row.toList.length = s.width) ∧
    (∀ item, s.Presents item → ∃ strokes : List Stroke,
      (∀ c : Canvas s.width s.height, item.draw s c = c.paint strokes) ∧
      ∀ x y, x < s.width → y < s.height → item.mark? s x y = Stroke.last? x y strokes) ∧
    ∀ x y, x < s.width → y < s.height →
      (∃ item, s.IsTopmost x y item ∧ (∀ other, s.IsTopmost x y other → other = item) ∧
        s.rasterize.cell? x y = item.mark? s x y) ∨
      (∀ item, s.Presents item → item.mark? s x y = none) ∧
        s.rasterize.cell? x y = some .blank := by
  refine ⟨⟨by simp, by simp⟩, fun item _ => ?_, fun x y hx hy => ?_⟩
  · obtain ⟨strokes, hcells, hdraw⟩ := item.draw_paints (w := s.width) (h := s.height) s
    exact ⟨strokes, hdraw, fun x y hx hy => Canvas.mark?_eq_last? hcells hdraw hx hy⟩
  · rw [cell?_rasterize, Canvas.blank_cell?_of_lt hx hy, Option.map_some]
    cases hfound : s.items.reverse.findSome? (·.mark? s x y) with
    | none =>
        have hnone := List.findSome?_eq_none_iff.mp hfound
        exact .inr ⟨fun item hitem => hnone item (List.mem_reverse.mpr (mem_items.mpr hitem)), rfl⟩
    | some cell =>
        obtain ⟨item, htopmost, hmark⟩ := exists_isTopmost_of_findSome? hfound
        exact .inl ⟨item, htopmost, fun other hother => hother.eq htopmost, hmark.symm⟩

end Screen

end Diorama
