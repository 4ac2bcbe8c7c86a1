import Diorama.Terminal.Screen
import Diorama.Proofs.Session.Recovery

namespace Diorama

open Stage (performAll)

namespace Screen

-- A screen shows a scenery: the same primitives under the same handles, the same camera, and for
-- each annotation that was announced its text with the same view.
structure Shows (announced : List Annotation) (c : Scenery) (s : Screen) : Prop where
  primitives : ∀ handle : Handle, s.primitives.get? handle.number =
    (c.primitive? handle).map fun p => (p.primitive, p.transform)
  camera : s.camera = c.camera
  captions : s.overlays.map (fun o => (o.text, o.offset)) =
    announced.map fun a => (a.text, a.position)
  views : ∀ index : Nat, (s.overlays[index]?).map (·.view) = c.annotations.get? index

-- What an order has to name: annotations are announced in turn, and updated once they were.
def Follows (announced : List Annotation) : Order → Prop
  | .createOverlay index _ => index = announced.length
  | .updateOverlay index _ => index < announced.length
  | _ => True

-- The annotations that were announced once an order was carried out.
def hear (announced : List Annotation) : Order → List Annotation
  | .createOverlay _ a => announced ++ [a]
  | _ => announced

namespace Shows

variable {announced : List Annotation} {c : Scenery} {s : Screen}

theorem overlays_length (h : Shows announced c s) : s.overlays.length = announced.length := by
  simpa using congrArg List.length h.captions

theorem create (h : Shows announced c s) (p : Primitive) :
    Shows announced (c.apply (.createPrimitive ⟨s.nextHandle⟩ p)) (s.create p).2 := by
  refine ⟨fun handle => ?_, h.camera, h.captions, h.views⟩
  rw [Scenery.primitive?_create, Screen.create, Table.get?_set]
  by_cases hnew : handle = ⟨s.nextHandle⟩
  · rw [if_pos hnew, if_pos (congrArg Handle.number hnew)]
    rfl
  · rw [if_neg hnew, if_neg fun hnumber => hnew (Handle.number_inj.mp hnumber)]
    exact h.primitives handle

-- Neither of them minds a handle that it does not know.
theorem setTransform (h : Shows announced c s) (handle : Handle) (tf : Transform) :
    Shows announced (c.apply (.setTransform handle tf)) (s.setTransform handle tf) := by
  have hknown := h.primitives handle
  cases hp : c.primitive? handle with
  | none =>
      have hsame : s.setTransform handle tf = s := by
        rw [Screen.setTransform, hknown, hp, Option.map_none]
      rw [hsame]
      refine ⟨fun other => ?_, h.camera, h.captions, h.views⟩
      rw [Scenery.primitive?_setTransform]
      by_cases heq : other = handle
      · rw [if_pos heq, heq, hp, hknown, hp]
        rfl
      · rw [if_neg heq]
        exact h.primitives other
  | some p =>
      have hset : s.setTransform handle tf =
          { s with primitives := s.primitives.set handle.number (p.primitive, tf) } := by
        rw [Screen.setTransform, hknown, hp, Option.map_some]
      rw [hset]
      refine ⟨fun other => ?_, h.camera, h.captions, h.views⟩
      rw [Scenery.primitive?_setTransform, Table.get?_set]
      by_cases heq : other = handle
      · rw [if_pos heq, if_pos (congrArg Handle.number heq), heq, hp]
        rfl
      · rw [if_neg heq, if_neg fun hnumber => heq (Handle.number_inj.mp hnumber)]
        exact h.primitives other

theorem destroyPrimitive (h : Shows announced c s) (handle : Handle) :
    Shows announced (c.apply (.destroyPrimitive handle))
      { s with primitives := s.primitives.erase handle.number } := by
  refine ⟨fun other => ?_, h.camera, h.captions, h.views⟩
  rw [Scenery.primitive?_destroy, Table.get?_erase]
  by_cases heq : other = handle
  · rw [if_pos heq, if_pos (congrArg Handle.number heq)]
    rfl
  · rw [if_neg heq, if_neg fun hnumber => heq (Handle.number_inj.mp hnumber)]
    exact h.primitives other

theorem createOverlay (h : Shows announced c s) (a : Annotation) :
    Shows (announced ++ [a]) (c.apply (.createOverlay announced.length a.text))
      (s.putOverlay announced.length ⟨a.text, a.position, .hidden⟩) := by
  have hlength := h.overlays_length
  -- the next number in turn goes behind the overlays that are there
  have hput : s.putOverlay announced.length ⟨a.text, a.position, .hidden⟩ =
      { s with overlays := s.overlays ++ [⟨a.text, a.position, .hidden⟩] } := by
    rw [putOverlay, ← hlength, Nat.add_sub_cancel_left]
    simp
  rw [hput]
  refine ⟨h.primitives, h.camera, ?_, fun index => ?_⟩
  · rw [List.map_append, h.captions, List.map_append]
    rfl
  · rw [Scenery.apply, Table.get?_set, ← h.views index, ← hlength]
    rcases Nat.lt_trichotomy index s.overlays.length with hlt | rfl | hgt
    · rw [List.getElem?_append_left hlt, if_neg (Nat.ne_of_lt hlt)]
    · simp
    · have hbeyond : (s.overlays ++ [Overlay.mk a.text a.position .hidden]).length ≤ index := by
        rw [List.length_append, List.length_singleton]
        omega
      rw [List.getElem?_eq_none hbeyond, List.getElem?_eq_none (Nat.le_of_lt hgt),
        if_neg (Nat.ne_of_gt hgt)]

theorem updateOverlay (h : Shows announced c s) {number : Nat} (view : AnnotationView)
    (hnumber : number < announced.length) :
    Shows announced (c.apply (.updateOverlay number view))
      { s with overlays := s.overlays.modify number fun o => { o with view } } := by
  refine ⟨h.primitives, h.camera, ?_, fun index => ?_⟩
  · rw [← h.captions]
    apply List.ext_getElem?
    intro index
    simp only [List.getElem?_map, List.getElem?_modify]
    by_cases heq : number = index <;> simp [heq, Function.comp_def]
  · rw [Scenery.apply, Table.get?_set, ← h.views index]
    by_cases heq : index = number
    · have hlt : number < s.overlays.length := by rw [h.overlays_length]; exact hnumber
      simp [heq, List.getElem?_eq_getElem hlt]
    · simp [heq, Ne.symm heq]

theorem perform (h : Shows announced c s) {order : Order} (hfollows : Follows announced order) :
    Shows (hear announced order) (c.apply order.entry) (s.perform order).2 := by
  cases order with
  | setTransform handle tf => exact h.setTransform handle tf
  | renderFrame => exact ⟨h.primitives, h.camera, h.captions, h.views⟩
  | destroyPrimitive handle => exact h.destroyPrimitive handle
  | setCamera camera => exact ⟨h.primitives, rfl, h.captions, h.views⟩
  | createOverlay index a =>
      obtain rfl : index = announced.length := hfollows
      exact h.createOverlay a
  | updateOverlay number view => exact h.updateOverlay view hfollows

end Shows

-- A screen and a recorder that show the same and give out the same handle next.
structure Mirrors (announced : List Annotation) (r : Recorder) (s : Screen) : Prop where
  nextHandle : s.nextHandle = r.nextHandle
  shows : Shows announced r.scenery s

theorem mirrors_ofSize (width height originRow : Nat) (unitsPerCell : Float32) :
    Mirrors [] .fresh (ofSize width height originRow unitsPerCell) :=
  ⟨rfl, fun _ => rfl, rfl, rfl, fun _ => rfl⟩

theorem perform_nextHandle (order : Order) (s : Screen) :
    (s.perform order).2.nextHandle = s.nextHandle := by
  cases order with
  | setTransform handle tf =>
      simp only [Screen.perform, Screen.setTransform]
      split <;> rfl
  | _ => rfl

namespace Mirrors

variable {announced : List Annotation} {r r' : Recorder} {s : Screen}

theorem create (h : Mirrors announced r s) {p : Primitive} {handle : Handle}
    (hcreate : r.create p = (.ok handle, r')) :
    ∃ s', s.create p = (.ok handle, s') ∧ Mirrors announced r' s' := by
  obtain ⟨rfl, hscenery, -, hnext⟩ := Recorder.create_ok hcreate
  have hshows := h.shows.create p
  rw [h.nextHandle, ← hscenery] at hshows
  refine ⟨(s.create p).2, ?_, ?_, hshows⟩
  · rw [Screen.create, h.nextHandle]
  · rw [Screen.create, hnext, h.nextHandle]

-- Whatever a recorder does, the screen does as well, as long as annotations are named in turn.
theorem perform (h : Mirrors announced r s) (order : Order) (hfollows : Follows announced order)
    (hperform : r.perform order = (.ok (), r')) :
    ∃ s', s.perform order = (.ok (), s') ∧ Mirrors (hear announced order) r' s' := by
  obtain ⟨hscenery, -, hnext, -, -⟩ := Recorder.perform_ok hperform
  refine ⟨(s.perform order).2, rfl, ?_, ?_⟩
  · rw [perform_nextHandle, hnext, h.nextHandle]
  · rw [hscenery]
    exact h.shows.perform hfollows

theorem performAll {orders : List Order} (h : Mirrors announced r s)
    (hfollows : ∀ order ∈ orders, Follows announced order ∧ hear announced order = announced)
    (hperform : Stage.performAll orders r = (.ok (), r')) :
    ∃ s', Stage.performAll orders s = (.ok (), s') ∧ Mirrors announced r' s' := by
  induction orders generalizing r s with
  | nil =>
      obtain rfl : r = r' := congrArg Prod.snd hperform
      exact ⟨s, rfl, h⟩
  | cons order rest ih =>
      obtain ⟨r₁, hfirst, hrest⟩ := Stage.performAll_cons_inv hperform
      obtain ⟨hfollow, hsame⟩ := hfollows order List.mem_cons_self
      obtain ⟨s₁, hs₁, h₁⟩ := h.perform order hfollow hfirst
      rw [hsame] at h₁
      obtain ⟨s', hs', h'⟩ := ih h₁ (fun order hmem => hfollows order (List.mem_cons_of_mem _ hmem))
        hrest
      exact ⟨s', (Stage.performAll_cons_ok hs₁ rest).trans hs', h'⟩

end Mirrors

end Screen

open Screen (Mirrors)

variable {announced : List Annotation} {r : Recorder} {s : Screen}

namespace Registry

theorem place_mirrors (h : Mirrors announced r s) {d : ActorDefinition} {p : Primitive}
    {handle : Handle} (hok : (place d p r).result = .ok handle) :
    (place d p s).result = .ok handle ∧
      Mirrors announced (place d p r).stage (place d p s).stage := by
  rcases hcreate : r.create p with ⟨_ | made, r₁⟩
  · simp [place, Stage.create, hcreate] at hok
  · obtain ⟨s₁, hs₁, h₁⟩ := h.create hcreate
    rcases hperform : r₁.perform (.setTransform made d.initialTransform) with ⟨_ | _, r₂⟩
    · simp only [place, Stage.create, hcreate, Recorder.stage_perform, hperform] at hok
      split at hok <;> cases hok
    · obtain ⟨s₂, hs₂, h₂⟩ := h₁.perform (.setTransform made _) trivial hperform
      have hplace : place d p r = ⟨[], .ok made, r₂⟩ := by
        simp [place, Stage.create, hcreate, hperform]
      have hplace' : place d p s = ⟨[], .ok made, s₂⟩ := by
        simp [place, Stage.create, Stage.perform, hs₁, hs₂]
      rw [hplace] at hok ⊢
      rw [hplace']
      exact ⟨hok, h₂⟩

theorem createActor_mirrors (h : Mirrors announced r s) {d : ActorDefinition} {actors : Registry}
    {index : Option Nat} (hok : (actors.createActor d r).1.result = .ok index) :
    (actors.createActor d s).1.result = .ok index ∧
      (actors.createActor d s).2 = (actors.createActor d r).2 ∧
      Mirrors announced (actors.createActor d r).1.stage (actors.createActor d s).1.stage := by
  unfold createActor at hok ⊢
  by_cases htaken : (actors.indexOf d.id).isSome
  · rw [if_pos htaken] at hok
    rw [if_pos htaken, if_pos htaken]
    exact ⟨hok, rfl, h⟩
  · rw [if_neg htaken] at hok
    rw [if_neg htaken, if_neg htaken]
    cases hp : d.primitive? with
    | none =>
        simp only [hp] at hok
        exact ⟨hok, rfl, h⟩
    | some p =>
        simp only [hp] at hok
        cases hplaced : (place d p r).result with
        | error fault => simp [hplaced] at hok
        | ok handle =>
            obtain ⟨hsame, h'⟩ := place_mirrors h hplaced
            simp only [hplaced] at hok
            simp only [hplaced, hsame]
            exact ⟨hok, trivial, h'⟩

theorem buildFrom_mirrors (h : Mirrors announced r s) {actors built : Registry}
    {definitions : List ActorDefinition}
    (hok : (actors.buildFrom definitions r).result = .ok built) :
    (actors.buildFrom definitions s).result = .ok built ∧
      Mirrors announced (actors.buildFrom definitions r).stage
        (actors.buildFrom definitions s).stage := by
  induction definitions generalizing actors r s with
  | nil => exact ⟨hok, h⟩
  | cons d rest ih =>
      simp only [buildFrom] at hok ⊢
      cases hcreated : (actors.createActor d r).1.result with
      | error fault => simp [hcreated] at hok
      | ok index =>
          obtain ⟨hsame, hregistry, h'⟩ := createActor_mirrors h hcreated
          simp only [hcreated] at hok
          simp only [hsame, hregistry]
          exact ih h' hok

theorem release_mirrors (h : Mirrors announced r s) {actors : List Actor} {r' : Recorder}
    (hok : release actors r = (.ok (), r')) :
    ∃ s', release actors s = (.ok (), s') ∧ Mirrors announced r' s' := by
  induction actors generalizing r s with
  | nil =>
      cases hok
      exact ⟨s, rfl, h⟩
  | cons a rest ih =>
      cases hh : a.handle with
      | none =>
          simp only [release, hh] at hok ⊢
          exact ih h hok
      | some handle =>
          rcases hperform : r.perform (.destroyPrimitive handle) with ⟨_ | _, r₁⟩
          · simp [release, hh, hperform] at hok
          · obtain ⟨s₁, hs₁, h₁⟩ := h.perform (.destroyPrimitive handle) trivial hperform
            simp only [release, hh, Recorder.stage_perform, hperform] at hok
            obtain ⟨s', hs', h'⟩ := ih h₁ hok
            exact ⟨s', by simp [release, hh, Stage.perform, hs₁, hs'], h'⟩

end Registry

namespace Session

theorem announce_mirrors {rest : List Annotation} {r' : Recorder} (h : Mirrors announced r s)
    (hok : announce announced.length rest r = (.ok (), r')) :
    ∃ s', announce announced.length rest s = (.ok (), s') ∧ Mirrors (announced ++ rest) r' s' := by
  induction rest generalizing announced r s with
  | nil =>
      cases hok
      exact ⟨s, rfl, by rwa [List.append_nil]⟩
  | cons a rest ih =>
      rcases hperform : r.perform (.createOverlay announced.length a) with ⟨_ | _, r₁⟩
      · simp [announce, hperform] at hok
      · obtain ⟨s₁, hs₁, h₁⟩ := h.perform (.createOverlay _ a) rfl hperform
        simp only [Screen.hear] at h₁
        have hlength : (announced ++ [a]).length = announced.length + 1 := by simp
        simp only [announce, Recorder.stage_perform, hperform, ← hlength] at hok
        obtain ⟨s', hs', h'⟩ := ih h₁ hok
        rw [List.append_assoc, List.singleton_append] at h'
        refine ⟨s', ?_, h'⟩
        rw [hlength] at hs'
        simp [announce, Stage.perform, hs₁, hs']

theorem openView_mirrors {d : Definition} {r' : Recorder} (h : Mirrors [] r s)
    (hok : openView d r = (.ok (), r')) :
    ∃ s', openView d s = (.ok (), s') ∧ Mirrors d.annotations r' s' := by
  rcases hperform : r.perform (.setCamera (cameraState d)) with ⟨_ | _, r₁⟩
  · simp [openView, hperform] at hok
  · obtain ⟨s₁, hs₁, h₁⟩ := h.perform (.setCamera _) trivial hperform
    simp only [Screen.hear] at h₁
    simp only [openView, Recorder.stage_perform, hperform] at hok
    obtain ⟨s', hs', h'⟩ := announce_mirrors h₁ hok
    rw [List.length_nil] at hs'
    exact ⟨s', by simp [openView, Stage.perform, hs₁, hs'], h'⟩

theorem load_mirrors {d : Definition} {e : Session} (h : Mirrors [] r s)
    (hok : (load d r).result = .ok e) :
    (load d s).result = .ok e ∧ Mirrors d.annotations (load d r).stage (load d s).stage := by
  simp only [load, Registry.build] at hok ⊢
  cases hbuilt : (Registry.buildFrom .empty d.actors r).result with
  | error fault => simp [hbuilt] at hok
  | ok actors =>
      obtain ⟨hsame, h₁⟩ := Registry.buildFrom_mirrors h hbuilt
      rcases hview : openView d (Registry.buildFrom .empty d.actors r).stage with ⟨_ | _, r₂⟩
      · simp [hbuilt, hview] at hok
      · obtain ⟨s₂, hs₂, h₂⟩ := openView_mirrors h₁ hview
        simp only [hbuilt, hview] at hok
        simp only [hsame, hs₂]
        exact ⟨hok, h₂⟩

-- An empty screen takes any animation.
theorem load_ofSize (d : Definition) (width height originRow : Nat) (unitsPerCell : Float32) :
    ∃ e, (load d (Screen.ofSize width height originRow unitsPerCell)).result = .ok e := by
  have hwilling : Recorder.fresh.Willing := ⟨rfl, rfl⟩
  obtain ⟨e, hload⟩ := hwilling.load d
  exact ⟨e, (load_mirrors (Screen.mirrors_ofSize width height originRow unitsPerCell) hload).1⟩

-- A frame moves, turns, updates what was announced, and draws.
theorem orders_follow {e : Session} (hviews : e.views.length = announced.length) {t : Float32}
    {order : Order} (hmem : order ∈ e.orders t) :
    Screen.Follows announced order ∧ Screen.hear announced order = announced := by
  simp only [orders, List.mem_append, List.mem_singleton] at hmem
  rcases hmem with hmem | hmem | hmem | rfl
  · obtain ⟨a, -, handle, next, -, -, rfl⟩ := Registry.mem_moves hmem
    exact ⟨trivial, rfl⟩
  · obtain ⟨p, -, rfl⟩ := CameraState.eq_of_turn? (Option.mem_toList.mp hmem)
    exact ⟨trivial, rfl⟩
  · obtain ⟨i, view, next, hi, -, rfl⟩ := mem_reveals hmem
    have hlt : i < e.views.length := (List.getElem?_eq_some_iff.mp hi).1
    refine ⟨?_, rfl⟩
    show 0 + i < announced.length
    omega
  · exact ⟨trivial, rfl⟩

theorem evaluate_mirrors {first : Recorder} {e : Session} (hstands : e.Stands first r)
    (h : Mirrors e.definition.annotations r s) (t : Float32) :
    ∃ r' s', e.evaluate t r = (.ok (), e.shown t, r') ∧ e.evaluate t s = (.ok (), e.shown t, s') ∧
      (e.shown t).Stands first r' ∧ Mirrors e.definition.annotations r' s' := by
  obtain ⟨r', horders, hstands'⟩ := performAll_orders hstands t
  obtain ⟨s', hs', h'⟩ :=
    h.performAll (fun order hmem => orders_follow hstands.views_length hmem) horders
  exact ⟨r', s', evaluate_ok horders, evaluate_ok hs', hstands', h'⟩

theorem play_mirrors {first : Recorder} {e : Session} (hstands : e.Stands first r)
    (h : Mirrors e.definition.annotations r s) (times : List Float32) :
    ∃ e' r' s', play times e r = (.ok (), e', r') ∧ play times e s = (.ok (), e', s') ∧
      e'.Stands first r' ∧ Mirrors e.definition.annotations r' s' := by
  induction times generalizing e r s with
  | nil => exact ⟨e, r, s, rfl, rfl, hstands, h⟩
  | cons t times ih =>
      obtain ⟨r₁, s₁, hr₁, hs₁, hstands₁, h₁⟩ := evaluate_mirrors hstands h t
      obtain ⟨e', r', s', hr', hs', hstands', h'⟩ := ih hstands₁ h₁
      exact ⟨e', r', s', by simp [play, hr₁, hr'], by simp [play, hs₁, hs'], hstands', h'⟩

-- It makes no difference to an animation whether it is shown on a screen or only written down:
-- both do all that they are told, the session is the same at every time, and so is what is shown.
theorem shown_alike_on_screen (d : Definition) (times : List Float32)
    (width height originRow : Nat) (unitsPerCell : Float32) :
    let screen := Screen.ofSize width height originRow unitsPerCell
    ∃ e, (load d Recorder.fresh).result = .ok e ∧ (load d screen).result = .ok e ∧
      Mirrors d.annotations (load d Recorder.fresh).stage (load d screen).stage ∧
      ∃ e' r s, play times e (load d Recorder.fresh).stage = (.ok (), e', r) ∧
        play times e (load d screen).stage = (.ok (), e', s) ∧ Mirrors d.annotations r s ∧
        ∃ r' s', e'.teardown r = (.ok (), r') ∧ e'.teardown s = (.ok (), s') ∧
          Mirrors d.annotations r' s' := by
  intro screen
  have hwilling : Recorder.fresh.Willing := ⟨rfl, rfl⟩
  obtain ⟨e, hload⟩ := hwilling.load d
  have hstands := load_stands (σ := Recorder) d (s := .fresh) trivial
  rw [hload] at hstands
  obtain ⟨rfl, hstands⟩ := hstands
  have hfresh : Mirrors [] .fresh screen :=
    Screen.mirrors_ofSize width height originRow unitsPerCell
  obtain ⟨hscreen, hloaded⟩ := load_mirrors hfresh hload
  obtain ⟨e', r, s, hr, hs, hstands', hplayed⟩ := play_mirrors hstands hloaded times
  obtain ⟨r', hrelease, -, -⟩ := Registry.release_ok (σ := Recorder) trivial hstands'.owes
  obtain ⟨s', hrelease', hreleased⟩ := Registry.release_mirrors hplayed hrelease
  exact ⟨e, hload, hscreen, hloaded, e', r, s, hr, hs, hplayed, r', s', hrelease, hrelease',
    hreleased⟩

end Session

end Diorama
