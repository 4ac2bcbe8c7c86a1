import Diorama.Proofs.Playback.Progress
import Diorama.Proofs.Session.Agreement
import Diorama.Proofs.Session.Calls

namespace Diorama

open Stage (performAll)

-- The annotation that an order announces.
def Order.announced? : Order → Option Annotation
  | .createOverlay _ a => some a
  | _ => none

-- Something that is true of a stage whatever it is told, as long as it is told to make no other
-- primitives and to announce no other annotations than these.
structure Stage.Keeps {σ : Type} [Stage σ] (made : Primitive → Prop) (announced : Annotation → Prop)
    (holds : σ → Prop) : Prop where
  create : ∀ {p s}, made p → holds s → holds (Stage.create p s).2
  perform : ∀ {order s}, (∀ a ∈ order.announced?, announced a) → holds s →
    holds (Stage.perform order s).2

-- The same for as long as it is not told to draw.
structure Stage.KeepsUndrawn {σ : Type} [Stage σ] (made : Primitive → Prop)
    (announced : Annotation → Prop) (holds : σ → Prop) : Prop where
  create : ∀ {p s}, made p → holds s → holds (Stage.create p s).2
  perform : ∀ {order s}, order ≠ .renderFrame → (∀ a ∈ order.announced?, announced a) → holds s →
    holds (Stage.perform order s).2

variable {σ : Type} [Stage σ] {made : Primitive → Prop} {announced : Annotation → Prop}
  {holds : σ → Prop} {s : σ}

theorem Stage.Keeps.undrawn (h : Stage.Keeps made announced holds) :
    Stage.KeepsUndrawn made announced holds := ⟨h.create, fun _ => h.perform⟩

theorem Stage.performAll_holds {orders : List Order}
    (h : ∀ order ∈ orders, ∀ s, holds s → holds (Stage.perform order s).2) (hs : holds s) :
    holds (performAll orders s).2 := by
  induction orders generalizing s with
  | nil => exact hs
  | cons order rest ih =>
      have hfirst := h order List.mem_cons_self s hs
      rcases hp : Stage.perform order s with ⟨fault | _, s'⟩ <;> rw [hp] at hfirst
      · rw [performAll_cons_error hp]
        exact hfirst
      · rw [performAll_cons_ok hp]
        exact ih (fun other hmem => h other (List.mem_cons_of_mem _ hmem)) hfirst

theorem Session.announced?_of_mem_orders {e : Session} {t : Float32} {order : Order}
    (h : order ∈ e.orders t) : order.announced? = none := by
  simp only [orders, List.mem_append, List.mem_singleton] at h
  rcases h with h | h | h | rfl
  · obtain ⟨_, _, _, _, _, _, rfl⟩ := Registry.mem_moves h
    rfl
  · obtain ⟨_, _, rfl⟩ := CameraState.eq_of_turn? (Option.mem_toList.mp h)
    rfl
  · obtain ⟨_, _, _, _, _, rfl⟩ := mem_reveals h
    rfl
  · rfl

namespace Stage.KeepsUndrawn

variable (h : Stage.KeepsUndrawn made announced holds)

include h

theorem place {d : ActorDefinition} {p : Primitive} (hp : made p) (hs : holds s) :
    holds (Registry.place d p s).stage := by
  have hcreated := h.create hp hs
  rw [Registry.place]
  rcases hc : Stage.create p s with ⟨fault | handle, s₁⟩ <;> rw [hc] at hcreated
  · exact hcreated
  have hplaced : holds (Stage.perform (.setTransform handle d.initialTransform) s₁).2 :=
    h.perform (by simp) (by simp [Order.announced?]) hcreated
  rcases ht : Stage.perform (.setTransform handle d.initialTransform) s₁ with ⟨fault | _, s₂⟩ <;>
    rw [ht] at hplaced
  · have hgone : holds (Stage.perform (.destroyPrimitive handle) s₂).2 :=
      h.perform (by simp) (by simp [Order.announced?]) hplaced
    rcases hd : Stage.perform (.destroyPrimitive handle) s₂ with ⟨second | _, s₃⟩ <;>
      rw [hd] at hgone <;> simpa [ht, hd] using hgone
  · simpa [ht] using hplaced

theorem createActor {d : ActorDefinition} (hd : ∀ p ∈ d.primitive?, made p) (r : Registry)
    (hs : holds s) : holds (r.createActor d s).1.stage := by
  unfold Registry.createActor
  split
  · exact hs
  · cases hp : d.primitive? with
    | none => exact hs
    | some p =>
        have hplaced : holds (Registry.place d p s).stage := h.place (hd p hp) hs
        simp only
        cases (Registry.place d p s).result with
        | ok handle => exact hplaced
        | error fault => exact hplaced

theorem release (actors : List Actor) (hs : holds s) : holds (Registry.release actors s).2 := by
  rw [Registry.release_eq]
  refine performAll_holds (fun order hmem s hs => ?_) hs
  obtain ⟨handle, -, rfl⟩ := List.mem_map.mp hmem
  exact h.perform (by simp) (by simp [Order.announced?]) hs

theorem discard (r : Registry) (hs : holds s) : holds (r.discard s).2 := by
  have hreleased := h.release r.actors hs
  rw [Registry.discard]
  rcases hr : Registry.release r.actors s with ⟨fault | _, s'⟩ <;> rw [hr] at hreleased <;>
    exact hreleased

theorem buildFrom {definitions : List ActorDefinition}
    (hd : ∀ d ∈ definitions, ∀ p ∈ d.primitive?, made p) (r : Registry) (hs : holds s) :
    holds (r.buildFrom definitions s).stage := by
  induction definitions generalizing r s with
  | nil => exact hs
  | cons d rest ih =>
      have hcreated := h.createActor (hd d List.mem_cons_self) r hs
      have hrest : ∀ other ∈ rest, ∀ p ∈ other.primitive?, made p := fun other hmem =>
        hd other (List.mem_cons_of_mem _ hmem)
      simp only [Registry.buildFrom]
      cases (r.createActor d s).1.result with
      | ok index => exact ih hrest (r.createActor d s).2 hcreated
      | error fault => exact h.discard (r.createActor d s).2 hcreated

theorem announce {annotations : List Annotation} (ha : ∀ a ∈ annotations, announced a)
    (index : Nat) (hs : holds s) : holds (Session.announce index annotations s).2 := by
  induction annotations generalizing index s with
  | nil => exact hs
  | cons a rest ih =>
      have hfirst : holds (Stage.perform (.createOverlay index a) s).2 :=
        h.perform (by simp) (fun _ hother => Option.some.inj hother ▸ ha a List.mem_cons_self) hs
      rw [Session.announce]
      rcases hp : Stage.perform (.createOverlay index a) s with ⟨fault | _, s'⟩ <;>
        rw [hp] at hfirst
      · exact hfirst
      · exact ih (fun other hmem => ha other (List.mem_cons_of_mem _ hmem)) (index + 1) hfirst

theorem openView {d : Definition} (ha : ∀ a ∈ d.annotations, announced a) (hs : holds s) :
    holds (Session.openView d s).2 := by
  have hcamera : holds (Stage.perform (.setCamera (Session.cameraState d)) s).2 :=
    h.perform (by simp) (by simp [Order.announced?]) hs
  rw [Session.openView]
  rcases hp : Stage.perform (.setCamera (Session.cameraState d)) s with ⟨fault | _, s'⟩ <;>
    rw [hp] at hcamera
  · exact hcamera
  · exact h.announce ha 0 hcamera

-- Setting an animation up tells a stage nothing else, and draws nothing.
theorem load {d : Definition} (hd : ∀ a ∈ d.actors, ∀ p ∈ a.primitive?, made p)
    (ha : ∀ a ∈ d.annotations, announced a) (hs : holds s) : holds (Session.load d s).stage := by
  have hbuilt : holds (Registry.build d.actors s).stage := h.buildFrom hd .empty hs
  rw [Session.load]
  cases (Registry.build d.actors s).result with
  | error fault => exact hbuilt
  | ok r =>
      have hopened := h.openView ha hbuilt
      rcases hview : Session.openView d (Registry.build d.actors s).stage with ⟨fault | _, s'⟩ <;>
        rw [hview] at hopened
      · simpa [hview] using h.discard r hopened
      · simpa [hview] using hopened

theorem teardown (e : Session) (hs : holds s) : holds (e.teardown s).2 :=
  h.release e.registry.actors hs

end Stage.KeepsUndrawn

namespace Stage.Keeps

variable (h : Stage.Keeps made announced holds)

include h

-- Showing it tells a stage nothing else either.
theorem evaluate (e : Session) (t : Float32) (hs : holds s) : holds (e.evaluate t s).2.2 := by
  rw [Session.evaluate_stage]
  refine performAll_holds (fun order hmem s hs => h.perform ?_ hs) hs
  simp [Session.announced?_of_mem_orders hmem]

theorem play (times : List Float32) (e : Session) (hs : holds s) :
    holds (Session.play times e s).2.2 := by
  induction times generalizing e s with
  | nil => exact hs
  | cons t times ih =>
      have hshown := h.evaluate e t hs
      rw [Session.play]
      rcases heval : e.evaluate t s with ⟨fault | _, e', s'⟩ <;> rw [heval] at hshown
      · exact hshown
      · exact ih e' hshown

theorem seek (p : Player) (t : Float32) (hs : holds s) : holds (p.seek t s).2.2 :=
  h.evaluate p.session t hs

theorem frame (p : Player) (hs : holds s) : holds (p.frame s).2.2 := by
  have hframed := p.framed s
  generalize p.frame s = framed at hframed
  cases hframed with
  | idle _ => exact hs
  | finished _ _ => exact hs
  | shown _ _ heval =>
      have hshown := h.evaluate p.session p.nextTick.1.time hs
      rwa [heval] at hshown
  | failed _ _ heval =>
      have hshown := h.evaluate p.session p.nextTick.1.time hs
      rwa [heval] at hshown

theorem load {d : Definition} (hd : ∀ a ∈ d.actors, ∀ p ∈ a.primitive?, made p)
    (ha : ∀ a ∈ d.annotations, announced a) (hs : holds s) : holds (Session.load d s).stage :=
  h.undrawn.load hd ha hs

theorem teardown (e : Session) (hs : holds s) : holds (e.teardown s).2 :=
  h.undrawn.teardown e hs

end Stage.Keeps

end Diorama
