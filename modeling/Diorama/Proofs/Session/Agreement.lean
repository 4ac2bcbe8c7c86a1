import Diorama.Proofs.Session.Frame
import Diorama.Proofs.Session.Loading

namespace Diorama

open Stage (performAll)
open Registry (placements mem_placements placements_handles moves settleAll)

variable {first : Recorder}

namespace Registry

-- One actor is settled, and its primitive stands where the actor does.
theorem performAll_move {a : Actor} (next : Transform) {s : Recorder}
    {before after : List (Handle × Transform)}
    (h : Owes first s (before ++ (placements [a] ++ after))) :
    ∃ s', performAll (a.move? next).toList s = (.ok (), s') ∧
      Owes first s' (before ++ (placements [a.settle next] ++ after)) ∧
      s'.camera = s.camera ∧ s'.annotations = s.annotations := by
  by_cases heq : a.transform == next
  · exact ⟨s, by simp [Actor.move?, heq], by simpa [Actor.settle, heq] using h, rfl, rfl⟩
  · cases hh : a.handle with
    | none =>
        refine ⟨s, by simp [Actor.move?, hh], ?_, rfl, rfl⟩
        simpa [Actor.settle, heq, placements, hh] using h
    | some handle =>
        have howed : placements [a] = [(handle, a.transform)] := by simp [placements, hh]
        have hsettled : placements [a.settle next] = [(handle, next)] := by
          simp [placements, Actor.settle, heq, hh]
        rw [howed] at h
        have hmem : (handle, a.transform) ∈ before ++ ([(handle, a.transform)] ++ after) := by simp
        obtain ⟨s', hperform⟩ := Recorder.setTransform_ok (h.ne_none hmem) next
        have hscenery := (Recorder.perform_ok hperform).1
        refine ⟨s', ?_, ?_, congrArg Scenery.camera hscenery, congrArg Scenery.annotations hscenery⟩
        · simpa [Actor.move?, heq, hh] using hperform
        · rw [hsettled]
          exact h.setTransform hperform

theorem performAll_moves {actors : List Actor} (staged : List Transform)
    (before : List (Handle × Transform)) {s : Recorder}
    (h : Owes first s (before ++ placements actors)) :
    ∃ s', performAll (moves actors staged) s = (.ok (), s') ∧
      Owes first s' (before ++ placements (settleAll actors staged)) ∧
      s'.camera = s.camera ∧ s'.annotations = s.annotations := by
  induction actors generalizing staged s before with
  | nil => exact ⟨s, by simp [moves], by simpa [settleAll] using h, rfl, rfl⟩
  | cons a actors ih =>
      cases staged with
      | nil => exact ⟨s, by simp [moves], by simpa [settleAll] using h, rfl, rfl⟩
      | cons next staged =>
          rw [placements_cons] at h
          obtain ⟨s₁, hmove, howes, hcamera, hviews⟩ := performAll_move next h
          rw [← List.append_assoc] at howes
          obtain ⟨s₂, hmoves, howes', hcamera', hviews'⟩ := ih staged _ howes
          refine ⟨s₂, ?_, ?_, hcamera'.trans hcamera, hviews'.trans hviews⟩
          · rw [moves, Stage.performAll_append_ok hmove, hmoves]
          · rw [settleAll, placements_cons, ← List.append_assoc]
            exact howes'

end Registry

namespace Session

theorem performAll_turn {owed : List (Handle × Transform)} {camera : CameraState} {s : Recorder}
    (target : Option Vec3) (h : Owes first s owed) (hcamera : s.camera = some camera) :
    ∃ s', performAll (camera.turn? target).toList s = (.ok (), s') ∧ Owes first s' owed ∧
      s'.camera = some (camera.settle target) ∧ s'.annotations = s.annotations := by
  cases target with
  | none => exact ⟨s, rfl, h, hcamera, rfl⟩
  | some p =>
      by_cases heq : p == camera.target
      · refine ⟨s, by simp [CameraState.turn?, heq], h, ?_, rfl⟩
        rw [hcamera, CameraState.settle, if_pos heq]
      · obtain ⟨s', hperform⟩ :
            ∃ s', s.perform (.setCamera { camera with target := p }) = (.ok (), s') := ⟨_, rfl⟩
        have hscenery := (Recorder.perform_ok hperform).1
        refine ⟨s', by simpa [CameraState.turn?, heq] using hperform,
          h.perform_other hperform (by simp [Order.subject]), ?_,
          congrArg Scenery.annotations hscenery⟩
        rw [CameraState.settle, if_neg heq]
        exact congrArg Scenery.camera hscenery

-- The views from a number on are brought up to date; those before it are left alone.
theorem performAll_reveals {owed : List (Handle × Transform)} (t : Float32) (index : Nat)
    (annotations : List Annotation) {views : List AnnotationView} {s : Recorder}
    (h : Owes first s owed)
    (hviews : ∀ (i : Nat) view, views[i]? = some view → s.annotations.get? (index + i) = some view) :
    ∃ s', performAll (reveals t index annotations views) s = (.ok (), s') ∧ Owes first s' owed ∧
      s'.camera = s.camera ∧ (∀ i < index, s'.annotations.get? i = s.annotations.get? i) ∧
      ∀ (i : Nat) view, (settleViews t annotations views)[i]? = some view →
        s'.annotations.get? (index + i) = some view := by
  induction annotations generalizing index views s with
  | nil => exact ⟨s, by simp [reveals], h, rfl, fun _ _ => rfl, by simpa [settleViews] using hviews⟩
  | cons a rest ih =>
      cases views with
      | nil => exact ⟨s, by simp [reveals], h, rfl, fun _ _ => rfl, by simp [settleViews]⟩
      | cons view views =>
          -- the head of the list is sent if it differs, and the stage shows it in either case
          obtain ⟨s₁, hfirst, howes, hcamera, hother, hshown⟩ :
              ∃ s₁, performAll (if view == a.viewAt t then []
                  else [.updateOverlay index (a.viewAt t)]) s = (.ok (), s₁) ∧
                Owes first s₁ owed ∧ s₁.camera = s.camera ∧
                (∀ i ≠ index, s₁.annotations.get? i = s.annotations.get? i) ∧
                s₁.annotations.get? index =
                  some (if view == a.viewAt t then view else a.viewAt t) := by
            by_cases heq : view == a.viewAt t
            · refine ⟨s, by simp [heq], h, rfl, fun _ _ => rfl, ?_⟩
              simpa [heq] using hviews 0 view rfl
            · obtain ⟨s', hperform⟩ :
                  ∃ s', s.perform (.updateOverlay index (a.viewAt t)) = (.ok (), s') := ⟨_, rfl⟩
              have hscenery := (Recorder.perform_ok hperform).1
              have hset : s'.annotations = s.annotations.set index (a.viewAt t) :=
                congrArg Scenery.annotations hscenery
              refine ⟨s', by simpa [heq] using hperform,
                h.perform_other hperform (by simp [Order.subject]),
                congrArg Scenery.camera hscenery, fun i hi => ?_, ?_⟩
              · rw [hset, Table.get?_set, if_neg hi]
              · rw [hset, Table.get?_set, if_pos rfl, if_neg heq]
          have hviews₁ : ∀ (i : Nat) view', views[i]? = some view' →
              s₁.annotations.get? (index + 1 + i) = some view' := by
            intro i view' hi
            rw [hother _ (by omega), Nat.add_assoc, Nat.add_comm 1 i]
            exact hviews (i + 1) view' hi
          obtain ⟨s₂, hrest, howes', hcamera', hbefore, hafter⟩ := ih _ howes hviews₁
          refine ⟨s₂, by rw [reveals, Stage.performAll_append_ok hfirst, hrest], howes',
            hcamera'.trans hcamera, fun i hi => ?_, fun i view' hi => ?_⟩
          · rw [hbefore i (by omega), hother i (by omega)]
          · cases i with
            | zero =>
                rw [Nat.add_zero, hbefore index (by omega), hshown]
                simpa [settleViews] using hi
            | succ i =>
                rw [Nat.add_comm i 1, ← Nat.add_assoc]
                exact hafter i view' (by simpa [settleViews] using hi)

theorem length_settleViews (t : Float32) (annotations : List Annotation)
    (views : List AnnotationView) :
    (settleViews t annotations views).length = views.length := by
  induction annotations generalizing views with
  | nil => simp [settleViews]
  | cons a rest ih => cases views <;> simp [settleViews, ih]

theorem performAll_orders {e : Session} {s : Recorder} (h : e.Stands first s) (t : Float32) :
    ∃ s', performAll (e.orders t) s = (.ok (), s') ∧ (e.shown t).Stands first s' := by
  obtain ⟨s₁, hmoves, howes₁, hcamera₁, hviews₁⟩ :=
    Registry.performAll_moves (e.staged t) [] h.owes
  obtain ⟨s₂, hturn, howes₂, hcamera₂, hviews₂⟩ :=
    performAll_turn (e.focus t) howes₁ (hcamera₁.trans h.camera)
  obtain ⟨s₃, hreveals, howes₃, hcamera₃, -, hviews₃⟩ :=
    performAll_reveals t 0 e.definition.annotations howes₂
      (fun i view hi => by rw [hviews₂, hviews₁, Nat.zero_add]; exact h.views i view hi)
  obtain ⟨s₄, hframe⟩ : ∃ s₄, s₃.perform .renderFrame = (.ok (), s₄) := ⟨_, rfl⟩
  have hscenery := (Recorder.perform_ok hframe).1
  refine ⟨s₄, ?_, ?_⟩
  · rw [orders, Stage.performAll_append_ok hmoves, Stage.performAll_append_ok hturn,
      Stage.performAll_append_ok hreveals, Stage.performAll_singleton, Recorder.stage_perform, hframe]
  · refine ⟨howes₃.perform_other hframe (by simp [Order.subject]), ?_, fun i view hi => ?_, ?_⟩
    · rw [show s₄.camera = s₃.camera from congrArg Scenery.camera hscenery, hcamera₃, hcamera₂]
      rfl
    · rw [show s₄.annotations = s₃.annotations from congrArg Scenery.annotations hscenery,
        ← Nat.zero_add i]
      exact hviews₃ i view hi
    · exact (length_settleViews _ _ _).trans h.views_length

theorem evaluate_stands {e : Session} {s : Recorder} (h : e.Stands first s) (t : Float32) :
    ∃ s', e.evaluate t s = (.ok (), e.shown t, s') ∧ (e.shown t).Stands first s' := by
  obtain ⟨s', horders, hstands⟩ := performAll_orders h t
  exact ⟨s', evaluate_ok horders, hstands⟩

-- An opacity is a number, whatever the time is.
theorem viewAt_beq_self (a : Annotation) (t : Float32) : (a.viewAt t == a.viewAt t) = true := by
  have hone : ((1 : Float32) == 1) = true := by decide
  have hmin : ∀ x : Float32, (Scalar.min x 1 == Scalar.min x 1) = true := by
    intro x
    rw [Scalar.min]
    by_cases hx : x == x
    · split
      · exact hone
      · split
        · exact hone
        · exact hx
    · simp only [Scalar.same, hx, Bool.not_false, ite_true]
      exact hone
  by_cases hvisible : a.isVisible t = true
  · have hview : a.viewAt t = ⟨true, Scalar.min ((t - a.time) / Annotation.fadeIn) 1⟩ := by
      simp [hvisible, Annotation.viewAt]
    rw [hview]
    exact hmin _
  · have hview : a.viewAt t = .hidden := by simp [hvisible, Annotation.viewAt]
    rw [hview]
    decide

-- What is kept is what compares equal, so the views are as numbers what they are at that time.
theorem settleViews_beq (t : Float32) {annotations : List Annotation} {views : List AnnotationView}
    (h : views.length = annotations.length) :
    (settleViews t annotations views == Annotation.views annotations t) = true := by
  induction annotations generalizing views with
  | nil =>
      obtain rfl := List.length_eq_zero_iff.mp h
      rfl
  | cons a rest ih =>
      cases views with
      | nil => cases h
      | cons view views =>
          have hrest := ih (Nat.succ.inj h)
          rw [settleViews, Annotation.views, List.map_cons, List.cons_beq_cons, Bool.and_eq_true]
          refine ⟨?_, hrest⟩
          by_cases heq : view == a.viewAt t
          · rw [if_pos heq, heq]
          · rw [if_neg heq, viewAt_beq_self]

end Session

namespace Recorder

-- A recorder that makes any number of primitives and shows annotations.
structure Willing (s : Recorder) : Prop where
  createsLeft : s.createsLeft = none
  overlays : s.overlays = true

theorem Willing.perform {s s' : Recorder} (h : s.Willing) {order : Order}
    (hperform : s.perform order = (.ok (), s')) : s'.Willing := by
  obtain ⟨-, -, -, hcreates, hoverlays⟩ := perform_ok hperform
  exact ⟨hcreates.trans h.createsLeft, hoverlays.trans h.overlays⟩

theorem Willing.create {s : Recorder} (h : s.Willing) (p : Primitive) :
    ∃ handle s', s.create p = (.ok handle, s') ∧ s'.Willing ∧ s'.primitive? handle ≠ none := by
  refine ⟨⟨s.nextHandle⟩, (s.create p).2, ?_, ⟨?_, ?_⟩, ?_⟩
  · simp [Recorder.create, h.createsLeft]
  · simp [Recorder.create, h.createsLeft, write]
  · simp [Recorder.create, h.createsLeft, write, h.overlays]
  · simp [Recorder.create, h.createsLeft, write, primitive?]

theorem Willing.place {s : Recorder} (h : s.Willing) (d : ActorDefinition) (p : Primitive) :
    ∃ handle, (Registry.place d p s).result = .ok handle ∧ (Registry.place d p s).stage.Willing := by
  obtain ⟨handle, s₁, hcreate, h₁, hlive⟩ := h.create p
  obtain ⟨s₂, hperform⟩ := setTransform_ok hlive d.initialTransform
  have hplace : Registry.place d p s = ⟨[], .ok handle, s₂⟩ := by
    simp [Registry.place, Stage.create, hcreate, hperform]
  exact ⟨handle, by rw [hplace], by rw [hplace]; exact h₁.perform hperform⟩

theorem Willing.createActor {s : Recorder} (h : s.Willing) (d : ActorDefinition) (r : Registry) :
    ∃ index, (r.createActor d s).1.result = .ok index ∧ (r.createActor d s).1.stage.Willing := by
  unfold Registry.createActor
  split
  · exact ⟨none, rfl, h⟩
  · cases hp : d.primitive? with
    | none => exact ⟨_, rfl, h⟩
    | some p =>
        obtain ⟨handle, hplace, hwilling⟩ := h.place d p
        simp only [hplace]
        exact ⟨_, rfl, hwilling⟩

theorem Willing.buildFrom {s : Recorder} (h : s.Willing) (r : Registry)
    (definitions : List ActorDefinition) :
    ∃ built, (r.buildFrom definitions s).result = .ok built ∧
      (r.buildFrom definitions s).stage.Willing := by
  induction definitions generalizing r s with
  | nil => exact ⟨r, rfl, h⟩
  | cons d rest ih =>
      obtain ⟨index, hcreate, hwilling⟩ := h.createActor d r
      obtain ⟨built, hbuilt, hlast⟩ := ih hwilling (r.createActor d s).2
      simp only [Registry.buildFrom, hcreate]
      exact ⟨built, hbuilt, hlast⟩

theorem Willing.announce {s : Recorder} (h : s.Willing) (index : Nat)
    (annotations : List Annotation) : ∃ s', Session.announce index annotations s = (.ok (), s') := by
  induction annotations generalizing index s with
  | nil => exact ⟨s, rfl⟩
  | cons a rest ih =>
      obtain ⟨s₁, hperform⟩ : ∃ s₁, s.perform (.createOverlay index a) = (.ok (), s₁) := by
        simp [Recorder.perform, h.overlays]
      obtain ⟨s₂, hrest⟩ := ih (h.perform hperform) (index + 1)
      exact ⟨s₂, by simp [Session.announce, hperform, hrest]⟩

theorem Willing.load {s : Recorder} (h : s.Willing) (d : Definition) :
    ∃ e, (Session.load d s).result = .ok e := by
  obtain ⟨built, hbuilt, hwilling⟩ := h.buildFrom .empty d.actors
  obtain ⟨s₁, hcamera⟩ : ∃ s₁, (Registry.buildFrom .empty d.actors s).stage.perform
      (.setCamera (Session.cameraState d)) = (.ok (), s₁) := ⟨_, rfl⟩
  obtain ⟨s₂, hannounce⟩ := (hwilling.perform hcamera).announce 0 d.annotations
  have hview : Session.openView d (Registry.buildFrom .empty d.actors s).stage = (.ok (), s₂) := by
    simp [Session.openView, hcamera, hannounce]
  simp only [Session.load, Registry.build, hbuilt, hview]
  exact ⟨_, rfl⟩

end Recorder

namespace Session

variable {σ : Type} [Stage σ]

-- The scene at one time after the other, up to the first that cannot be shown.
def play : List Float32 → Session → σ → Except StageFault Unit × Session × σ
  | [], e, s => (.ok (), e, s)
  | t :: times, e, s =>
    match e.evaluate t s with
    | (.ok (), e, s) => play times e s
    | (.error fault, e, s) => (.error fault, e, s)

theorem play_stands {e : Session} {s : Recorder} (h : e.Stands first s) (times : List Float32) :
    ∃ e' s', play times e s = (.ok (), e', s') ∧ e'.Stands first s' ∧
      e'.definition = e.definition ∧
      ∀ t, times.getLast? = some t →
        (e'.views == Annotation.views e.definition.annotations t) = true := by
  induction times generalizing e s with
  | nil => exact ⟨e, s, rfl, h, rfl, by simp⟩
  | cons t times ih =>
      obtain ⟨s₁, hevaluate, hstands⟩ := evaluate_stands h t
      obtain ⟨e', s', hplay, hstands', hdefinition, hlast⟩ := ih hstands
      refine ⟨e', s', by simp [play, hevaluate, hplay], hstands', hdefinition, fun last hl => ?_⟩
      cases times with
      | nil =>
          cases hplay
          obtain rfl : t = last := by simpa using hl
          exact settleViews_beq t h.views_length
      | cons next times => exact hlast last (by simpa using hl)

-- Stage and session say the same.
structure Agrees (e : Session) (s : Recorder) : Prop where
  handles_nodup : (e.registry.actors.filterMap (·.handle)).Nodup
  live_iff : ∀ handle,
    (s.primitive? handle).isSome ↔ ∃ a ∈ e.registry.actors, a.handle = some handle
  transform : ∀ a ∈ e.registry.actors, ∀ handle, a.handle = some handle →
    (s.primitive? handle).map (·.transform) = some a.transform
  camera : s.camera = some e.camera
  views : ∀ index < e.views.length, s.annotations.get? index = e.views[index]?
  views_length : e.views.length = e.definition.annotations.length

theorem Stands.agrees {e : Session} {s : Recorder} (h : e.Stands .fresh s) : e.Agrees s where
  handles_nodup := placements_handles e.registry.actors ▸ h.owes.nodup
  live_iff handle := by
    constructor
    · intro hlive
      by_contra hnone
      have hkept := h.owes.kept handle (by
        rw [placements_handles]
        simpa using hnone)
      rw [hkept] at hlive
      cases hlive
    · rintro ⟨a, ha, hh⟩
      exact Option.isSome_iff_ne_none.mpr
        (h.owes.ne_none (mem_placements.mpr ⟨a, ha, hh, rfl⟩))
  transform a ha handle hh := h.owes.placed _ (mem_placements.mpr ⟨a, ha, hh, rfl⟩)
  camera := h.camera
  views index hlt := by
    rw [List.getElem?_eq_getElem hlt]
    exact h.views index _ (List.getElem?_eq_getElem hlt)
  views_length := h.views_length

-- On a stage that is empty at first and does what it is told, an animation can be set up, shown
-- at any times in any order, and taken down. In between stage and session always agree.
theorem play_agrees (d : Definition) (times : List Float32) :
    ∃ e, (load d Recorder.fresh).result = .ok e ∧ e.definition = d ∧
      e.Agrees (load d Recorder.fresh).stage ∧
      ∃ e' s', play times e (load d Recorder.fresh).stage = (.ok (), e', s') ∧
        e'.definition = d ∧ e'.Agrees s' ∧
        (∀ t, times.getLast? = some t →
          (e'.views == Annotation.views d.annotations t) = true) ∧
        ∃ s'', e'.teardown s' = (.ok (), s'') ∧ s''.primitives = {} := by
  have hwilling : Recorder.fresh.Willing := ⟨rfl, rfl⟩
  obtain ⟨e, hload⟩ := hwilling.load d
  have hstands := load_stands (σ := Recorder) d (s := .fresh) trivial
  rw [hload] at hstands
  obtain ⟨hdefinition, hstands⟩ := hstands
  obtain ⟨e', s', hplay, hstands', hdefinition', hlast⟩ := play_stands hstands times
  obtain ⟨s'', hrelease, -, hnone⟩ := Registry.release_ok (σ := Recorder) trivial hstands'.owes
  refine ⟨e, hload, hdefinition, hstands.agrees, e', s', hplay, hdefinition'.trans hdefinition,
    hstands'.agrees, ?_, s'', hrelease, hnone.undone.primitives⟩
  rw [← hdefinition]
  exact hlast

end Session

end Diorama
