import Diorama.Proofs.Session.Agreement
import Diorama.Proofs.Session.Likeness

namespace Diorama

namespace Patch

theorem apply_alike (p : Patch) {tf tf' : Transform} (h : tf.Alike tf') :
    (p.apply tf).Alike (p.apply tf') := by
  have hget : ∀ {a b : Float32} (o : Option Float32), Scalar.Alike a b →
      Scalar.Alike (o.getD a) (o.getD b) := by
    intro a b o hab
    cases o with
    | none => exact hab
    | some x => exact Scalar.alike_equivalence.refl x
  have hy := hget (p.y.map (·.number)) h.position.y
  exact ⟨⟨hget p.x h.position.x, hy, hget p.z h.position.z⟩,
    ⟨h.rotation.x, hget p.turn h.rotation.y, h.rotation.z⟩, h.scale⟩

theorem stack_singleton {α : Type} (patch : α → Patch) (a : α) : stack patch [a] = patch a := by
  simp [stack, under]

theorem apply_stack_append {α : Type} (patch : α → Patch) (l₁ l₂ : List α) (tf : Transform) :
    (stack patch (l₁ ++ l₂)).apply tf = (stack patch l₂).apply ((stack patch l₁).apply tf) := by
  induction l₂ using List.reverseRecOn with
  | nil => simp [stack]
  | append_singleton l a ih =>
      rw [← List.append_assoc]
      simp only [stack, List.foldl_append, List.foldl_cons, List.foldl_nil, apply_under] at ih ⊢
      rw [ih]

end Patch

namespace CameraState

@[simp] theorem settle_position (camera : CameraState) (target : Option Vec3) :
    (camera.settle target).position = camera.position := by
  cases target with
  | none => rfl
  | some p =>
      rw [settle]
      split <;> rfl

@[simp] theorem settle_fovDegrees (camera : CameraState) (target : Option Vec3) :
    (camera.settle target).fovDegrees = camera.fovDegrees := by
  cases target with
  | none => rfl
  | some p =>
      rw [settle]
      split <;> rfl

theorem settle_target_alike (camera : CameraState) (p : Vec3) :
    (camera.settle (some p)).target.Alike p := by
  rw [settle]
  split
  · rename_i heq
    exact Vec3.alike_equivalence.symm (Vec3.alike_of_beq heq)
  · exact Vec3.alike_equivalence.refl p

theorem settle_alike {camera camera' : CameraState} {target target' : Option Vec3}
    (hposition : camera.position = camera'.position)
    (hfov : camera.fovDegrees = camera'.fovDegrees) (h : Option.Rel Vec3.Alike target target')
    (hnone : target = none → camera.target = camera'.target) :
    (camera.settle target).Alike (camera'.settle target') where
  position := by
    rw [settle_position, settle_position, hposition]
    exact Vec3.alike_equivalence.refl _
  target := by
    cases h with
    | none => exact hnone rfl ▸ Vec3.alike_equivalence.refl _
    | @some p p' hp =>
        exact Vec3.alike_equivalence.trans (camera.settle_target_alike p)
          (Vec3.alike_equivalence.trans hp
            (Vec3.alike_equivalence.symm (camera'.settle_target_alike p')))
  fovDegrees := by
    rw [settle_fovDegrees, settle_fovDegrees, hfov]
    exact Scalar.alike_equivalence.refl _

end CameraState

-- The same part, and alike in where they stand.
structure Actor.Alike (a a' : Actor) : Prop where
  role : a.role = a'.role
  transform : a.transform.Alike a'.transform

theorem Actor.Alike.id_eq {a a' : Actor} (h : a.Alike a') : a.id = a'.id := by
  have hid := congrArg (fun role => role.id) h.role
  exact hid

theorem Actor.alike_equivalence : Equivalence Actor.Alike where
  refl _ := ⟨rfl, Transform.alike_equivalence.refl _⟩
  symm h := ⟨h.role.symm, Transform.alike_equivalence.symm h.transform⟩
  trans h h' := ⟨h.role.trans h'.role, Transform.alike_equivalence.trans h.transform h'.transform⟩

theorem Actor.settle_alike (a : Actor) (next : Transform) :
    (a.settle next).Alike { a with transform := next } := by
  refine ⟨a.settle_role next, ?_⟩
  by_cases h : a.transform == next
  · rw [settle, if_pos h]
    exact Transform.alike_of_beq h
  · rw [settle, if_neg h]
    exact Transform.alike_equivalence.refl next

namespace Registry

-- Actors after a patch for each.
def posed (patch : Nat → Patch) (actors : List Actor) : List Actor :=
  actors.mapIdx fun index a => { a with transform := (patch index).apply a.transform }

theorem posed_alike (patch : Nat → Patch) {actors actors' : List Actor}
    (h : List.Forall₂ Actor.Alike actors actors') :
    List.Forall₂ Actor.Alike (posed patch actors) (posed patch actors') := by
  induction h generalizing patch with
  | nil => exact .nil
  | cons ha _ ih =>
      simp only [posed, List.mapIdx_cons]
      exact .cons ⟨ha.role, (patch 0).apply_alike ha.transform⟩ (ih fun index => patch (index + 1))

theorem settleAll_alike (patch : Nat → Patch) (actors : List Actor) :
    List.Forall₂ Actor.Alike
      (settleAll actors (actors.mapIdx fun index a => (patch index).apply a.transform))
      (posed patch actors) := by
  induction actors generalizing patch with
  | nil => exact .nil
  | cons a actors ih =>
      simp only [posed, settleAll, List.mapIdx_cons]
      exact .cons (a.settle_alike _) (ih fun index => patch (index + 1))

end Registry

namespace Session

open Registry (posed posed_alike settleAll)

-- What no frame changes: all but where the actors stand, where the camera looks as long as it
-- follows one of them, which annotations show and what time it is.
structure Fixtures where
  definition : Definition
  positions : List (String × Nat)
  cast : List Actor
  follow : Option Nat
  eye : Vec3
  fovDegrees : Float32
  target : Option Vec3
  overlays : Nat
  spare : List AnnotationView

def fixtures (e : Session) : Fixtures where
  definition := e.definition
  positions := e.registry.positions
  cast := e.registry.cast
  follow := e.follow
  eye := e.camera.position
  fovDegrees := e.camera.fovDegrees
  target := if (gaze e.follow e.registry.actors).isSome then none else some e.camera.target
  overlays := e.views.length
  spare := e.views.drop e.definition.annotations.length

theorem gaze_isSome {follow : Option Nat} {actors actors' : List Actor}
    (h : actors'.map Actor.role = actors.map Actor.role) :
    (gaze follow actors').isSome = (gaze follow actors).isSome := by
  cases follow with
  | none => rfl
  | some index => simpa [gaze] using congrArg (fun roles => roles[index]?.isSome) h

theorem drop_settleViews (t : Float32) (annotations : List Annotation)
    (views : List AnnotationView) :
    (settleViews t annotations views).drop annotations.length = views.drop annotations.length := by
  induction annotations generalizing views with
  | nil => rfl
  | cons a rest ih =>
      cases views with
      | nil => rfl
      | cons view views => simpa [settleViews] using ih views

theorem focus_isSome (e : Session) (t : Float32) :
    (e.focus t).isSome = (gaze e.follow e.registry.actors).isSome :=
  gaze_isSome (Registry.resumes_settleAll e.registry.actors (e.staged t)).cast

theorem fixtures_target {e : Session} {t : Float32} (h : e.focus t = none) :
    e.fixtures.target = some e.camera.target := by
  simp [fixtures, ← e.focus_isSome t, h]

theorem fixtures_shown (e : Session) (t : Float32) : (e.shown t).fixtures = e.fixtures := by
  have hcast := (Registry.resumes_settleAll e.registry.actors (e.staged t)).cast
  have htarget : (if (gaze e.follow (e.shown t).registry.actors).isSome then none
        else some (e.shown t).camera.target) =
      if (gaze e.follow e.registry.actors).isSome then none else some e.camera.target := by
    rw [← e.focus_isSome t]
    change (if (e.focus t).isSome then none else some (e.camera.settle (e.focus t)).target) = _
    cases e.focus t <;> rfl
  simp only [fixtures, Fixtures.mk.injEq]
  exact ⟨rfl, rfl, hcast, rfl, e.camera.settle_position _, e.camera.settle_fovDegrees _, htarget,
    length_settleViews _ _ _, drop_settleViews _ _ _⟩

theorem transforms_shown (e : Session) (t : Float32) (index : Nat) :
    (e.shown t).registry.transforms[index]? = e.registry.transforms[index]?.map fun tf =>
      let next := (e.registry.framePatch e.definition.timeline t index).apply tf
      if tf == next then tf else next := by
  have hstaged : (e.staged t)[index]? = _ := Registry.getElem?_staged _ _ _ _ _
  simp only [shown, Registry.transforms, List.getElem?_map, Registry.getElem?_settleAll, hstaged]
  cases e.registry.actors[index]? with
  | none => rfl
  | some a =>
      simp only [Option.map_some, Option.getD_some, Actor.settle]
      split <;> rfl

-- The session after it was shown at one time after the other.
def shownAll (times : List Float32) (e : Session) : Session := times.foldl shown e

theorem fixtures_shownAll (times : List Float32) (e : Session) :
    (e.shownAll times).fixtures = e.fixtures := by
  induction times generalizing e with
  | nil => rfl
  | cons t times ih => exact (ih (e.shown t)).trans (e.fixtures_shown t)

theorem shownAll_definition (times : List Float32) (e : Session) :
    (e.shownAll times).definition = e.definition :=
  congrArg Fixtures.definition (fixtures_shownAll times e)

theorem shownAll_append (times times' : List Float32) (e : Session) :
    e.shownAll (times ++ times') = (e.shownAll times).shownAll times' := List.foldl_append

-- What a course of times makes of the actor at a position.
def coursePatch (e : Session) (times : List Float32) (index : Nat) : Patch :=
  .stack (e.registry.framePatch e.definition.timeline · index) times

theorem coursePatch_congr {e e' : Session} (h : e'.fixtures = e.fixtures) (times : List Float32) :
    e'.coursePatch times = e.coursePatch times := by
  funext index
  simp only [coursePatch]
  congr 1
  funext t
  rw [show e'.definition = e.definition from congrArg Fixtures.definition h]
  exact Registry.framePatch_congr (congrArg Fixtures.positions h) (congrArg Fixtures.cast h) _ _ _

theorem staged_eq (e : Session) (t : Float32) :
    e.staged t =
      e.registry.actors.mapIdx fun index a => (e.coursePatch [t] index).apply a.transform := by
  apply List.ext_getElem?
  intro index
  simp only [staged, Registry.getElem?_staged, Registry.transforms, List.getElem?_map,
    List.getElem?_mapIdx, Option.map_map, Function.comp_def, coursePatch, Patch.stack_singleton]

theorem shown_posed (e : Session) (t : Float32) :
    List.Forall₂ Actor.Alike (e.shown t).registry.actors
      (posed (e.coursePatch [t]) e.registry.actors) := by
  simp only [shown, staged_eq]
  exact Registry.settleAll_alike _ _

theorem posed_coursePatch_append (e : Session) (times times' : List Float32) (actors : List Actor) :
    posed (e.coursePatch (times ++ times')) actors =
      posed (e.coursePatch times') (posed (e.coursePatch times) actors) := by
  simp only [posed, List.mapIdx_mapIdx]
  congr 1
  funext index a
  simp only [Function.comp_apply, coursePatch, Patch.apply_stack_append]

-- Over a course of times each actor is changed by one patch, whatever it had been sent before.
theorem shownAll_posed (times : List Float32) (e : Session) :
    List.Forall₂ Actor.Alike (e.shownAll times).registry.actors
      (posed (e.coursePatch times) e.registry.actors) := by
  have hequivalence := forall₂_equivalence Actor.alike_equivalence
  induction times using List.reverseRecOn with
  | nil =>
      have hnone : posed (e.coursePatch []) e.registry.actors = e.registry.actors :=
        List.ext_getElem? fun index => by simp [posed, coursePatch, Patch.stack]
      rw [hnone]
      exact hequivalence.refl _
  | append_singleton times t ih =>
      have hlast := (e.shownAll times).shown_posed t
      rw [coursePatch_congr (fixtures_shownAll times e)] at hlast
      rw [shownAll_append, posed_coursePatch_append]
      exact hequivalence.trans hlast (posed_alike _ ih)

-- A course that is gone through twice ends as it does when it is gone through once: no patch reads
-- what it writes.
theorem shownAll_twice (times : List Float32) (e : Session) :
    List.Forall₂ Actor.Alike (e.shownAll (times ++ times)).registry.actors
      (e.shownAll times).registry.actors := by
  have hequivalence := forall₂_equivalence Actor.alike_equivalence
  have honce : posed (e.coursePatch (times ++ times)) e.registry.actors =
      posed (e.coursePatch times) e.registry.actors := by
    rw [posed_coursePatch_append]
    simp only [posed, List.mapIdx_mapIdx]
    congr 1
    funext index a
    simp only [Function.comp_apply, Patch.apply_apply]
  have htwice := shownAll_posed (times ++ times) e
  rw [honce] at htwice
  exact hequivalence.trans htwice (hequivalence.symm (shownAll_posed times e))

-- Sessions of which the next frame shows the same.
structure Twins (e e' : Session) : Prop where
  fixtures : e'.fixtures = e.fixtures
  actors : List.Forall₂ Actor.Alike e.registry.actors e'.registry.actors

theorem Twins.shown {e e' : Session} (h : e.Twins e') (t : Float32) :
    (e.shown t).Twins (e'.shown t) := by
  have hequivalence := forall₂_equivalence Actor.alike_equivalence
  refine ⟨by rw [fixtures_shown, fixtures_shown, h.fixtures], ?_⟩
  have hother := e'.shown_posed t
  rw [coursePatch_congr h.fixtures] at hother
  exact hequivalence.trans (e.shown_posed t)
    (hequivalence.trans (posed_alike _ h.actors) (hequivalence.symm hother))

theorem Twins.shownAll {e e' : Session} (h : e.Twins e') (times : List Float32) :
    (e.shownAll times).Twins (e'.shownAll times) := by
  induction times generalizing e e' with
  | nil => exact h
  | cons t times ih => exact ih (h.shown t)

theorem gaze_alike (follow : Option Nat) {actors actors' : List Actor}
    (h : List.Forall₂ Actor.Alike actors actors') :
    Option.Rel Vec3.Alike (gaze follow actors) (gaze follow actors') := by
  cases follow with
  | none => exact .none
  | some index =>
      simp only [gaze, Option.bind_some]
      induction h generalizing index with
      | nil => exact .none
      | cons ha _ ih =>
          cases index with
          | zero => exact .some ha.transform.position
          | succ index => exact ih index

-- The views are those of the time, as far as there are annotations for them.
theorem settleViews_alike (t : Float32) (annotations : List Annotation)
    (views : List AnnotationView) :
    List.Forall₂ AnnotationView.Alike (settleViews t annotations views)
      ((List.take views.length <| Annotation.views annotations t) ++
        views.drop annotations.length) := by
  induction annotations generalizing views with
  | nil =>
      simpa [settleViews, Annotation.views] using
        (forall₂_equivalence AnnotationView.alike_equivalence).refl views
  | cons a rest ih =>
      cases views with
      | nil => exact .nil
      | cons view views =>
          refine .cons ?_ (ih views)
          split
          · rename_i heq
            exact AnnotationView.alike_of_beq heq
          · exact AnnotationView.alike_equivalence.refl _

theorem twins_shownAll_twice (times : List Float32) (e : Session) :
    (e.shownAll times).Twins (e.shownAll (times ++ times)) where
  fixtures := by rw [fixtures_shownAll, fixtures_shownAll]
  actors := (forall₂_equivalence Actor.alike_equivalence).symm (shownAll_twice times e)

-- What the next frame of twins shows is alike.
theorem Twins.shown_snapshot {e e' : Session} (h : e.Twins e') (t : Float32) :
    (e.shown t).snapshot.Alike (e'.shown t).snapshot := by
  have hactors := (h.shown t).actors
  have hdefinition : e'.definition = e.definition := congrArg Fixtures.definition h.fixtures
  have hfollow : e'.follow = e.follow := congrArg Fixtures.follow h.fixtures
  constructor
  case time => exact Scalar.alike_equivalence.refl t
  case actors =>
    simp only [snapshot, List.forall₂_map_left_iff, List.forall₂_map_right_iff]
    exact hactors.imp fun _ _ ha => ⟨ha.id_eq, ha.transform⟩
  case camera =>
    have hfocus : Option.Rel Vec3.Alike (e.focus t) (e'.focus t) := by
      have hgaze := gaze_alike e.follow hactors
      rwa [show gaze e.follow (e'.shown t).registry.actors = e'.focus t by
        rw [← hfollow]; rfl] at hgaze
    refine CameraState.settle_alike (congrArg Fixtures.eye h.fixtures).symm
      (congrArg Fixtures.fovDegrees h.fixtures).symm hfocus fun hnone => ?_
    have hnone' : e'.focus t = none := by
      cases hother : e'.focus t with
      | none => rfl
      | some p =>
          rw [hnone, hother] at hfocus
          cases hfocus
    exact Option.some.inj ((fixtures_target hnone).symm.trans
      ((congrArg Fixtures.target h.fixtures).symm.trans (fixtures_target hnone')))
  case annotations =>
    have hequivalence := forall₂_equivalence AnnotationView.alike_equivalence
    have hother := settleViews_alike t e'.definition.annotations e'.views
    rw [show e'.views.length = e.views.length from congrArg Fixtures.overlays h.fixtures,
      show e'.views.drop e'.definition.annotations.length =
        e.views.drop e.definition.annotations.length from congrArg Fixtures.spare h.fixtures,
      hdefinition] at hother
    exact hequivalence.trans (settleViews_alike t e.definition.annotations e.views)
      (hequivalence.symm (hdefinition ▸ hother))

end Session

end Diorama
