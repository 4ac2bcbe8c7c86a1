import Diorama.Proofs.Session.Calls
import Diorama.Proofs.Session.Course

namespace Diorama

-- How an actor is tilted and how large it is. The timeline turns actors around y only.
structure Bearing where
  tilt : Float32
  roll : Float32
  scale : Vec3

def Transform.bearing (tf : Transform) : Bearing := ⟨tf.rotation.x, tf.rotation.z, tf.scale⟩

theorem Patch.apply_bearing (p : Patch) (tf : Transform) : (p.apply tf).bearing = tf.bearing := rfl

namespace Registry

theorem length_stageAssignment (r : Registry) (eased : Float32) (staged : List Transform)
    (a : Assignment) : (r.stageAssignment eased staged a).length = staged.length := by
  rw [stageAssignment]
  cases r.indexOf a.key.actor with
  | none => rfl
  | some index => exact List.length_modify _ _ _

theorem length_stageEvent (r : Registry) (t : Float32) (staged : List Transform)
    (e : TimelineEvent) : (r.stageEvent t staged e).length = staged.length := by
  apply List.foldlRecOn e.properties (r.stageAssignment (e.eased t))
    (motive := fun next => next.length = staged.length)
  · rfl
  · intro next hnext a _
    rw [length_stageAssignment, hnext]

theorem length_stageTimeline (r : Registry) (events : List TimelineEvent) (t : Float32)
    (staged : List Transform) : (r.stageTimeline events t staged).length = staged.length := by
  apply List.foldlRecOn (events.filter (·.isActive t)) (r.stageEvent t)
    (motive := fun next => next.length = staged.length)
  · rfl
  · intro next hnext e _
    rw [length_stageEvent, hnext]

theorem length_stageOrbits (actors : List Actor) (t : Float32) (staged : List Transform) :
    (stageOrbits actors t staged).length = staged.length := by
  induction actors generalizing staged with
  | nil => simp [stageOrbits]
  | cons a actors ih =>
      cases staged with
      | nil => rfl
      | cons tf staged => simp [stageOrbits, ih]

theorem length_transforms (r : Registry) : r.transforms.length = r.actors.length :=
  List.length_map _

end Registry

namespace Session

variable {σ : Type} [Stage σ]

def bearings (e : Session) : List Bearing := e.registry.transforms.map Transform.bearing

theorem bearings_shown (e : Session) (t : Float32) : (e.shown t).bearings = e.bearings := by
  apply List.ext_getElem?
  intro index
  simp only [bearings, List.getElem?_map, transforms_shown, Option.map_map]
  congr 1
  funext tf
  simp only [Function.comp_apply]
  split
  · rfl
  · exact Patch.apply_bearing _ tf

theorem length_staged (e : Session) (t : Float32) :
    (e.staged t).length = e.registry.actors.length := by
  calc (e.staged t).length
      = (e.registry.stageTimeline e.definition.timeline t e.registry.transforms).length :=
        Registry.length_stageOrbits _ _ _
    _ = e.registry.transforms.length := e.registry.length_stageTimeline _ _ _
    _ = e.registry.actors.length := e.registry.length_transforms

-- What a finished frame leaves as it was, every frame does, wherever it breaks off: what is left
-- of it can still be finished, and the end is the same.
theorem evaluate_keeps {α : Type} {f : Session → α} (hf : ∀ e t, f (e.shown t) = f e) (e : Session)
    (t : Float32) (s : σ) : f (e.evaluate t s).2.1 = f e := by
  calc f (e.evaluate t s).2.1
      = f ((e.evaluate t s).2.1.shown t) := (hf _ t).symm
    _ = f (e.shown t) := by rw [evaluate_shown]
    _ = f e := hf e t

-- What becomes of a session that is shown again and again, each time on any stage, whatever fails
-- there.
inductive Later (first : Session) : Session → Prop where
  | refl : Later first first
  | evaluate {σ : Type} [Stage σ] {e : Session} (h : Later first e) (t : Float32) (s : σ) :
      Later first (e.evaluate t s).2.1

theorem Later.keeps {α : Type} {f : Session → α} (hf : ∀ e t, f (e.shown t) = f e)
    {first e : Session} (h : first.Later e) : f e = f first := by
  induction h with
  | refl => rfl
  | evaluate _ t s ih => rw [evaluate_keeps hf, ih]

-- What is the same in a session as it was in an earlier one, and which sizes go together in it.
-- The cast is the actors but for where they stand.
structure Permanent (first e : Session) : Prop where
  definition : e.definition = first.definition
  cast : e.registry.cast = first.registry.cast
  positions : e.registry.positions = first.registry.positions
  bearings : e.bearings = first.bearings
  eye : e.camera.position = first.camera.position
  fovDegrees : e.camera.fovDegrees = first.camera.fovDegrees
  follow : e.follow = first.follow
  target : first.follow = none → e.camera.target = first.camera.target
  views : e.views.length = e.definition.annotations.length
  timeline : ∀ t, (e.registry.stageTimeline e.definition.timeline t e.registry.transforms).length =
    e.registry.actors.length
  staged : ∀ t, (e.staged t).length = e.registry.actors.length

theorem fixtures_target_of_follow {e : Session} (h : e.follow = none) :
    e.fixtures.target = some e.camera.target := by
  simp [fixtures, gaze, h]

theorem Later.permanent {first e : Session} (h : first.Later e)
    (hviews : first.views.length = first.definition.annotations.length) : first.Permanent e := by
  have hfixtures : e.fixtures = first.fixtures := h.keeps fixtures_shown
  have hdefinition : e.definition = first.definition := congrArg Fixtures.definition hfixtures
  have hfollow : e.follow = first.follow := congrArg Fixtures.follow hfixtures
  constructor
  case definition => exact hdefinition
  case cast => exact congrArg Fixtures.cast hfixtures
  case positions => exact congrArg Fixtures.positions hfixtures
  case bearings => exact h.keeps bearings_shown
  case eye => exact congrArg Fixtures.eye hfixtures
  case fovDegrees => exact congrArg Fixtures.fovDegrees hfixtures
  case follow => exact hfollow
  case target =>
    intro hnone
    have htarget := congrArg Fixtures.target hfixtures
    rw [fixtures_target_of_follow hnone, fixtures_target_of_follow (hfollow.trans hnone)] at htarget
    exact Option.some.inj htarget
  case views =>
    have hlength : e.views.length = first.views.length := congrArg Fixtures.overlays hfixtures
    rw [hlength, hviews, hdefinition]
  case timeline =>
    intro t
    rw [Registry.length_stageTimeline, Registry.length_transforms]
  case staged => exact e.length_staged

-- An actor that was just set up is tilted as its definition has it, and as large.
theorem bearings_of_load {d : Definition} {s : σ} {e : Session} (h : (load d s).result = .ok e) :
    e.bearings = e.registry.cast.map (·.definition.initialTransform.bearing) := by
  have hunmoved : e.registry.Unmoved := .buildFrom .empty d.actors (load_registry h)
  simp only [bearings, Registry.transforms, Registry.cast, List.map_map, List.map_inj_left]
  intro a ha
  exact congrArg Transform.bearing (hunmoved a ha)

-- What no frame of an animation changes. It is set up on any stage and then shown at any times,
-- also after frames that broke off wherever the stage failed.
theorem load_permanent {d : Definition} {s : σ} {first e : Session}
    (hload : (load d s).result = .ok first) (h : first.Later e) :
    first.Permanent e ∧ e.definition = d ∧ e.camera.position = (cameraState d).position ∧
      e.camera.fovDegrees = (cameraState d).fovDegrees ∧
      (e.follow = none → e.camera.target = (cameraState d).target) ∧
      e.registry.actors.map (·.transform.bearing) =
        e.registry.actors.map (·.definition.initialTransform.bearing) := by
  obtain ⟨r, -, hfirst⟩ := load_ok_inv hload
  have hviews : first.views.length = first.definition.annotations.length := by simp [hfirst]
  have hcamera : first.camera = cameraState d := by rw [hfirst]
  have hpermanent := h.permanent hviews
  have hbearings := bearings_of_load hload
  rw [← hpermanent.bearings, ← hpermanent.cast] at hbearings
  refine ⟨hpermanent, hpermanent.definition.trans (load_definition hload), ?_, ?_, ?_, ?_⟩
  · rw [hpermanent.eye, hcamera]
  · rw [hpermanent.fovDegrees, hcamera]
  · intro hnone
    rw [hpermanent.target (hpermanent.follow ▸ hnone), hcamera]
  · simpa [bearings, Registry.transforms, Registry.cast, Actor.role, Function.comp_def]
      using hbearings

-- A tilted ball that is pushed and turned, on a stage that refuses the first view: the frame breaks
-- off after the ball has moved, and another one is shown after it.
theorem interrupted_frame_permanent :
    let ball : ActorDefinition :=
      { id := "ball", kind := .sphere, rotation := ⟨30, 0, 60⟩, scale := ⟨2, 1, 2⟩ }
    let push : Assignment := ⟨⟨"ball", "position"⟩, .position ⟨4, 5, 6⟩⟩
    let turn : Assignment := ⟨⟨"ball", "rotation"⟩, .rotation 90⟩
    let d : Definition :=
      { actors := [ball], timeline := [{ properties := [push, turn] }]
        annotations := [{ text := "a" }] }
    let s : RefusingStage Recorder :=
      { inner := .fresh, plan := fun request asked => request == .updateOverlay && asked == 0 }
    ∃ first, (load d s).result = .ok first ∧
      let broken := first.evaluate 0.5 (load d s).stage
      let e := (broken.2.1.evaluate 1 broken.2.2).2.1
      broken.1 = .error (.refused .updateOverlay) ∧
        broken.2.1.registry.transforms ≠ first.registry.transforms ∧ first.Later e ∧
        first.Permanent e ∧ e.camera.target = (cameraState d).target ∧
        e.bearings = [ball.initialTransform.bearing] := by
  intro ball push turn d s
  refine ⟨_, rfl, ?_⟩
  intro broken e
  have hload : (load d s).result = .ok _ := rfl
  have hlater : Later _ e := (Later.refl.evaluate 0.5 (load d s).stage).evaluate 1 broken.2.2
  obtain ⟨hpermanent, -, -, -, htarget, -⟩ := load_permanent hload hlater
  exact ⟨by decide +kernel, by decide +kernel, hlater, hpermanent, htarget hpermanent.follow,
    hpermanent.bearings⟩

end Session

end Diorama
