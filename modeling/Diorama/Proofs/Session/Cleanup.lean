import Diorama.Session.Basic
import Diorama.Stage.Recorder
import Diorama.Proofs.Registry.Release

namespace Diorama.Session

open Registry (Releasable)

variable {σ : Type} [Stage σ] {w : Watched σ} {held : List Handle}

theorem announce_holds (annotations : List Annotation) (index : Nat) (h : w.Holds held) :
    (announce index annotations w).2.Holds held := by
  induction annotations generalizing index w with
  | nil => exact h
  | cons a rest ih =>
      rcases hp : Stage.perform (.createOverlay index a) w with ⟨_ | _, w'⟩
      · simpa [announce, hp] using h.perform rfl hp
      · simpa [announce, hp] using ih (index + 1) (h.perform rfl hp)

theorem openView_holds (d : Definition) (h : w.Holds held) : (openView d w).2.Holds held := by
  rcases hp : Stage.perform (.setCamera (cameraState d)) w with ⟨_ | _, w'⟩
  · simpa [openView, hp] using h.perform rfl hp
  · simpa [openView, hp] using announce_holds d.annotations 0 (h.perform rfl hp)

-- Where setting up breaks off: among the actors, or once they are all there.
def StopsAt (d : Definition) (s : σ) (r : Registry) (s' : σ) : Prop :=
  Registry.StopsAt d.actors s r s' ∨
    (Registry.build d.actors s).result = .ok r ∧
      ∃ fault, openView d (Registry.build d.actors s).stage = (.error fault, s')

theorem load_stops {d : Definition} {fault : StageFault} (h : w.Holds [])
    (herror : (load d w).result = .error fault) :
    ∃ r w', StopsAt d w r w' ∧ w'.Holds r.handles ∧ (load d w).stage = (r.discard w').2 := by
  rw [load] at herror ⊢
  cases hbuilt : (Registry.build d.actors w).result with
  | error broken =>
      obtain ⟨r, w', hstops, hholds, hstage⟩ := Registry.build_stops h hbuilt
      exact ⟨r, w', .inl hstops, hholds, hstage⟩
  | ok r =>
      have hactors : (Registry.build d.actors w).stage.Holds r.handles :=
        Registry.buildFrom_holds d.actors h hbuilt
      have hview := openView_holds d hactors
      simp only [hbuilt] at herror ⊢
      rcases hopen : openView d (Registry.build d.actors w).stage with ⟨broken | _, w'⟩
      · have hholds : w'.Holds r.handles := by rwa [hopen] at hview
        exact ⟨r, w', .inr ⟨hbuilt, broken, hopen⟩, hholds, rfl⟩
      · simp [hopen] at herror

-- On any stage, whatever it refuses. A teardown asks for the handles in turn, for all of them
-- exactly if none is refused that has another one behind it, and reports what was refused. What a
-- build or a setup that fails has made is then gone, or was refused itself, exactly if the same
-- holds for the actors that were there when it broke off.
theorem all_released_iff_releasable (s : σ) :
    let first : Watched σ := { stage := s }
    (∀ r : Registry, let torn := r.teardown first
      Call.asked torn.2.2.calls <+: r.handles ∧
      ((Call.asked torn.2.2.calls).Perm r.handles ↔ Releasable r.handles s) ∧
      ((∃ fault, torn.1 = .error fault) ↔ Call.refused torn.2.2.calls ≠ [])) ∧
    (∀ e : Session, let torn := e.registry.teardown first
      e.teardown first = (torn.1, torn.2.2)) ∧
    (∀ definitions fault, (Registry.build definitions first).result = .error fault →
      let calls := (Registry.build definitions first).stage.calls
      ∃ r w, Registry.StopsAt definitions first r w ∧
        ((Call.made calls).Perm (Call.gone calls ++ Call.refused calls) ↔
          Releasable r.handles w.stage)) ∧
    (∀ d fault, (load d first).result = .error fault →
      let calls := (load d first).stage.calls
      ∃ r w, StopsAt d first r w ∧
        ((Call.made calls).Perm (Call.gone calls ++ Call.refused calls) ↔
          Releasable r.handles w.stage)) := by
  intro first
  have hfirst : first.Holds [] := List.Perm.refl []
  refine ⟨fun r => ?_, fun e => ?_, fun definitions fault herror => ?_, fun d fault herror => ?_⟩
  · obtain ⟨hresult, hstage⟩ := Registry.teardown_eq r first
    obtain ⟨since, behind, hcalls, hasks⟩ := Registry.performAll_asks r.handles first
    have hsince : (r.teardown first).2.2.calls = since := by rw [hstage, hcalls, List.nil_append]
    simp only [hsince, hresult]
    refine ⟨⟨behind, hasks.split.symm⟩, hasks.asked_perm_iff, ?_⟩
    rw [ne_eq, ← hasks.result]
    cases (Stage.performAll (r.handles.map .destroyPrimitive) first).1 <;> simp
  · obtain ⟨hresult, hstage⟩ := Registry.teardown_eq e.registry first
    simp only [hresult, hstage]
    exact Registry.release_eq e.registry.actors first
  · obtain ⟨r, w, hstops, hholds, hstage⟩ := Registry.build_stops hfirst herror
    rw [hstage]
    exact ⟨r, w, hstops, Registry.discard_perm_iff hholds⟩
  · obtain ⟨r, w, hstops, hholds, hstage⟩ := load_stops hfirst herror
    rw [hstage]
    exact ⟨r, w, hstops, Registry.discard_perm_iff hholds⟩

-- Two spheres, and a stage that has no camera and does not let go of the first sphere: the second
-- is left standing although nobody asked for it.
theorem refused_release_leaves_rest :
    let s : RefusingStage Recorder :=
      { inner := .fresh
        plan := fun request n => request == .setCamera || request == .destroyPrimitive && n == 0 }
    let first : Watched (RefusingStage Recorder) := { stage := s }
    let spheres : List ActorDefinition :=
      [{ id := "a", kind := .sphere }, { id := "b", kind := .sphere }]
    let built := Registry.build spheres first
    let loaded := load { actors := spheres } first
    (∃ r, built.result = .ok r ∧ r.handles = [⟨0⟩, ⟨1⟩] ∧
      Call.asked (r.teardown built.stage).2.2.calls = [⟨0⟩]) ∧
    loaded.result = .error (.refused .setCamera) ∧ Call.made loaded.stage.calls = [⟨0⟩, ⟨1⟩] ∧
      Call.asked loaded.stage.calls = [⟨0⟩] ∧
      (loaded.stage.stage.inner.primitive? ⟨1⟩).isSome = true := by
  refine ⟨⟨_, rfl, by decide, by decide⟩, rfl, by decide, by decide, by decide⟩

end Diorama.Session
