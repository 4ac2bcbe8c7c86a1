import Mathlib.Data.List.Forall2
import Diorama.Proofs.Number.Likeness
import Diorama.Session.Basic

namespace Diorama

theorem forall₂_equivalence {α : Type} {r : α → α → Prop} (h : Equivalence r) :
    Equivalence (List.Forall₂ r) where
  refl _ := List.forall₂_same.mpr fun a _ => h.refl a
  symm hl := (hl.imp fun _ _ => h.symm).flip
  trans {l₁ l₂ l₃} h₁₂ h₂₃ := by
    induction h₁₂ generalizing l₃ with
    | nil => exact h₂₃
    | cons hab _ ih =>
        obtain ⟨c, rest, hbc, hrest, rfl⟩ := List.forall₂_cons_left_iff.mp h₂₃
        exact .cons (h.trans hab hbc) (ih hrest)

-- Likeness of what a picture consists of: the same, number by number.

structure Vec3.Alike (v w : Vec3) : Prop where
  x : Scalar.Alike v.x w.x
  y : Scalar.Alike v.y w.y
  z : Scalar.Alike v.z w.z

structure Transform.Alike (tf tf' : Transform) : Prop where
  position : tf.position.Alike tf'.position
  rotation : tf.rotation.Alike tf'.rotation
  scale : tf.scale.Alike tf'.scale

structure CameraState.Alike (camera camera' : CameraState) : Prop where
  position : camera.position.Alike camera'.position
  target : camera.target.Alike camera'.target
  fovDegrees : Scalar.Alike camera.fovDegrees camera'.fovDegrees

structure AnnotationView.Alike (view view' : AnnotationView) : Prop where
  visible : view.visible = view'.visible
  opacity : Scalar.Alike view.opacity view'.opacity

structure Snapshot.Alike (shot shot' : Snapshot) : Prop where
  time : Scalar.Alike shot.time shot'.time
  actors : List.Forall₂ (fun a a' => a.1 = a'.1 ∧ a.2.Alike a'.2) shot.actors shot'.actors
  camera : shot.camera.Alike shot'.camera
  annotations : List.Forall₂ AnnotationView.Alike shot.annotations shot'.annotations

theorem Vec3.alike_equivalence : Equivalence Vec3.Alike where
  refl _ := ⟨Scalar.alike_equivalence.refl _, Scalar.alike_equivalence.refl _,
    Scalar.alike_equivalence.refl _⟩
  symm h := ⟨Scalar.alike_equivalence.symm h.x, Scalar.alike_equivalence.symm h.y,
    Scalar.alike_equivalence.symm h.z⟩
  trans h h' := ⟨Scalar.alike_equivalence.trans h.x h'.x, Scalar.alike_equivalence.trans h.y h'.y,
    Scalar.alike_equivalence.trans h.z h'.z⟩

theorem Transform.alike_equivalence : Equivalence Transform.Alike where
  refl _ := ⟨Vec3.alike_equivalence.refl _, Vec3.alike_equivalence.refl _,
    Vec3.alike_equivalence.refl _⟩
  symm h := ⟨Vec3.alike_equivalence.symm h.position, Vec3.alike_equivalence.symm h.rotation,
    Vec3.alike_equivalence.symm h.scale⟩
  trans h h' := ⟨Vec3.alike_equivalence.trans h.position h'.position,
    Vec3.alike_equivalence.trans h.rotation h'.rotation,
    Vec3.alike_equivalence.trans h.scale h'.scale⟩

theorem AnnotationView.alike_equivalence : Equivalence AnnotationView.Alike where
  refl _ := ⟨rfl, Scalar.alike_equivalence.refl _⟩
  symm h := ⟨h.visible.symm, Scalar.alike_equivalence.symm h.opacity⟩
  trans h h' := ⟨h.visible.trans h'.visible, Scalar.alike_equivalence.trans h.opacity h'.opacity⟩

-- What compares equal is alike.
theorem Vec3.alike_of_beq {v w : Vec3} (h : (v == w) = true) : v.Alike w := by
  change ((v.x == w.x) && ((v.y == w.y) && (v.z == w.z))) = true at h
  simp only [Bool.and_eq_true] at h
  exact ⟨.inl h.1, .inl h.2.1, .inl h.2.2⟩

theorem Transform.alike_of_beq {tf tf' : Transform} (h : (tf == tf') = true) : tf.Alike tf' := by
  change ((tf.position == tf'.position) &&
    ((tf.rotation == tf'.rotation) && (tf.scale == tf'.scale))) = true at h
  simp only [Bool.and_eq_true] at h
  exact ⟨Vec3.alike_of_beq h.1, Vec3.alike_of_beq h.2.1, Vec3.alike_of_beq h.2.2⟩

theorem AnnotationView.alike_of_beq {view view' : AnnotationView} (h : (view == view') = true) :
    view.Alike view' := by
  change ((view.visible == view'.visible) && (view.opacity == view'.opacity)) = true at h
  simp only [Bool.and_eq_true, beq_iff_eq] at h
  exact ⟨h.1, .inl h.2⟩

end Diorama
