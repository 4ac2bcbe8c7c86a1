import Diorama.Proofs.Registry.Casting
import Diorama.Proofs.Session.Recovery
import Diorama.Proofs.Registry.Release

namespace Diorama

open Stage (performAll BreaksAt)

namespace Registry

variable {σ : Type} [Stage σ] {w : Watched σ}

-- As long as nothing fails, a primitive is made and placed.
theorem place_of_smooth {d : ActorDefinition} {p : Primitive} (h : (place d p w).stage.Smooth) :
    ∃ handle, (place d p w).result = .ok handle := by
  rw [place] at h ⊢
  rcases hc : Stage.create p w with ⟨fault | handle, w₁⟩
  · simp only [hc] at h
    obtain ⟨handle, hmade⟩ := h.created hc
    cases hmade
  · rcases hp : Stage.perform (.setTransform handle d.initialTransform) w₁ with ⟨fault | _, w₂⟩
    · -- the attempt to take the primitive away again comes after what failed
      have hlater := Watched.perform_prefix (.destroyPrimitive handle) w₂
      simp only [hc, hp] at h
      have hsmooth : w₂.Smooth := by
        rcases hd : Stage.perform (.destroyPrimitive handle) w₂ with ⟨_ | _, w₃⟩ <;>
          simp only [hd] at h hlater <;> exact h.of_prefix hlater
      cases hsmooth.performed hp
    · exact ⟨handle, by simp [hp]⟩

theorem createActor_of_smooth {d : ActorDefinition} {r : Registry}
    (h : (r.createActor d w).1.stage.Smooth) :
    ∃ index, (r.createActor d w).1.result = .ok index := by
  unfold createActor at h ⊢
  split
  · exact ⟨none, rfl⟩
  · rename_i hfree
    rw [if_neg hfree] at h
    cases hp : d.primitive? with
    | none => exact ⟨_, rfl⟩
    | some p =>
        simp only [hp] at h ⊢
        cases hplaced : (place d p w).result with
        | ok handle => exact ⟨_, rfl⟩
        | error fault =>
            simp only [hplaced] at h
            obtain ⟨handle, hok⟩ := place_of_smooth h
            simp [hplaced] at hok

theorem buildFrom_of_smooth (definitions : List ActorDefinition) {r : Registry}
    (h : (r.buildFrom definitions w).stage.Smooth) :
    ∃ built, (r.buildFrom definitions w).result = .ok built := by
  induction definitions generalizing r w with
  | nil => exact ⟨r, rfl⟩
  | cons d rest ih =>
      rw [buildFrom] at h ⊢
      cases hcreated : (r.createActor d w).1.result with
      | ok index =>
          simp only [hcreated] at h ⊢
          exact ih h
      | error fault =>
          simp only [hcreated, discard_eq] at h
          obtain ⟨index, hok⟩ := createActor_of_smooth
            (h.of_prefix (Watched.performAll_prefix _ _))
          simp [hcreated] at hok

end Registry

namespace Session

variable {σ : Type} [Stage σ]

-- What comes of setting an animation up, if anything does.
theorem load_ok_inv {d : Definition} {s : σ} {e : Session} (h : (load d s).result = .ok e) :
    ∃ r, (Registry.build d.actors s).result = .ok r ∧
      e = ⟨d, r, cameraState d, (followed d r).2,
        List.replicate d.annotations.length .hidden, 0⟩ := by
  rw [load] at h
  cases hbuilt : (Registry.build d.actors s).result with
  | error fault => simp [hbuilt] at h
  | ok r =>
      simp only [hbuilt] at h
      rcases hopen : openView d (Registry.build d.actors s).stage with ⟨_ | _, s'⟩
      · simp [hopen] at h
      · simp only [hopen, Except.ok.injEq] at h
        exact ⟨r, rfl, h.symm⟩

theorem load_definition {d : Definition} {s : σ} {e : Session} (h : (load d s).result = .ok e) :
    e.definition = d := by
  obtain ⟨_, -, rfl⟩ := load_ok_inv h
  rfl

theorem load_registry {d : Definition} {s : σ} {e : Session} (h : (load d s).result = .ok e) :
    (Registry.build d.actors s).result = .ok e.registry := by
  obtain ⟨_, hbuilt, rfl⟩ := load_ok_inv h
  exact hbuilt

theorem load_casts {d : Definition} {s : σ} {e : Session} (h : (load d s).result = .ok e) :
    e.registry.Casts d.actors :=
  Registry.Casts.buildFrom .empty d.actors (load_registry h)

theorem evaluate_cases (e : Session) (t : Float32) (s : σ) :
    (∃ s', performAll (e.orders t) s = (.ok (), s') ∧ e.evaluate t s = (.ok (), e.shown t, s')) ∨
      ∃ before order after fault s' reached, e.orders t = before ++ order :: after ∧
        BreaksAt order before s fault s' ∧ e.evaluate t s = (.error fault, reached, s') ∧
        reached.definition = e.definition := by
  rcases h : performAll (e.orders t) s with ⟨fault | _, s'⟩
  · obtain ⟨before, order, after, reached, hsplit, hbreaks, heval, hshown, -⟩ := evaluate_error h
    have hsame : (reached.shown t).definition = (e.shown t).definition :=
      congrArg Session.definition hshown
    exact .inr ⟨before, order, after, fault, s', reached, hsplit, hbreaks, heval, hsame⟩
  · exact .inl ⟨s', rfl, evaluate_ok h⟩

theorem evaluate_definition (e : Session) (t : Float32) (s : σ) :
    (e.evaluate t s).2.1.definition = e.definition := by
  have hshown : ((e.evaluate t s).2.1.shown t).definition = (e.shown t).definition :=
    congrArg Session.definition (e.evaluate_shown t s)
  exact hshown

-- A frame is drawn once, at the end.
theorem orders_eq (e : Session) (t : Float32) :
    ∃ before, e.orders t = before ++ [.renderFrame] ∧ .renderFrame ∉ before := by
  refine ⟨Registry.moves e.registry.actors (e.staged t) ++
    ((e.camera.turn? (e.focus t)).toList ++ reveals t 0 e.definition.annotations e.views), ?_, ?_⟩
  · simp only [orders, List.append_assoc]
  · simp only [List.mem_append, Option.mem_toList, not_or]
    refine ⟨fun hmem => ?_, fun hmem => ?_, fun hmem => ?_⟩
    · obtain ⟨_, _, _, _, _, _, horder⟩ := Registry.mem_moves hmem
      cases horder
    · obtain ⟨_, _, horder⟩ := CameraState.eq_of_turn? hmem
      cases horder
    · obtain ⟨_, _, _, _, _, horder⟩ := mem_reveals hmem
      cases horder

theorem evaluate_watched_ok {e e' : Session} {t : Float32} {w w' : Watched σ}
    (h : e.evaluate t w = (.ok (), e', w')) :
    e' = e.shown t ∧ ∃ before : List Order, .renderFrame ∉ before ∧ w'.calls = w.calls ++
      (before.map (.perform · (.ok ())) ++ [.perform .renderFrame (.ok ())]) := by
  rcases e.evaluate_cases t w with ⟨s', hall, heval⟩ | ⟨_, _, _, fault, s', reached, -, -, heval, -⟩
  · obtain ⟨rfl, rfl⟩ : e.shown t = e' ∧ s' = w' := by simpa [h] using heval.symm
    obtain ⟨before, horders, hbefore⟩ := e.orders_eq t
    have hcalls := Watched.performAll_ok hall
    rw [horders, List.map_append] at hcalls
    exact ⟨rfl, before, hbefore, hcalls⟩
  · simp [h] at heval

theorem evaluate_watched_error {e e' : Session} {t : Float32} {w w' : Watched σ}
    {fault : StageFault} (h : e.evaluate t w = (.error fault, e', w')) :
    ∃ call ∈ w'.calls, call.failed = true := by
  rcases e.evaluate_cases t w with
    ⟨s', -, heval⟩ | ⟨before, order, _, fault', s', reached, -, hbreaks, heval, -⟩
  · simp [h] at heval
  · obtain rfl : w' = s' := congrArg (·.2.2) (h.symm.trans heval)
    refine ⟨.perform order (.error fault'), ?_, rfl⟩
    rw [Watched.breaksAt hbreaks]
    simp

-- What was asked of a stage before stands in front of what a frame asks of it.
theorem evaluate_prefix (e : Session) (t : Float32) (w : Watched σ) :
    w.calls <+: (e.evaluate t w).2.2.calls := by
  rcases e.evaluate_cases t w with ⟨w', hall, heval⟩ | ⟨_, _, _, _, w', _, -, hbreaks, heval, -⟩
  · rw [heval]
    exact ⟨_, (Watched.performAll_ok hall).symm⟩
  · rw [heval]
    exact ⟨_, (Watched.breaksAt hbreaks).symm⟩

theorem evaluate_of_smooth {e : Session} {t : Float32} {w : Watched σ}
    (h : (e.evaluate t w).2.2.Smooth) :
    ∃ w', performAll (e.orders t) w = (.ok (), w') ∧ e.evaluate t w = (.ok (), e.shown t, w') := by
  rcases e.evaluate_cases t w with hshown | ⟨_, _, _, _, _, _, -, -, heval, -⟩
  · exact hshown
  · obtain ⟨call, hmem, hfailed⟩ := evaluate_watched_error heval
    rw [heval] at h
    exact absurd (hfailed.symm.trans (h call hmem)) (by decide)

theorem announce_of_smooth {index : Nat} {annotations : List Annotation} {w : Watched σ}
    (h : (announce index annotations w).2.Smooth) :
    (announce index annotations w).1 = .ok () := by
  induction annotations generalizing index w with
  | nil => rfl
  | cons a rest ih =>
      rw [announce] at h ⊢
      rcases hp : Stage.perform (.createOverlay index a) w with ⟨fault | _, w'⟩
      · simp only [hp] at h
        cases h.performed hp
      · simp only [hp] at h ⊢
        exact ih h

theorem openView_of_smooth {d : Definition} {w : Watched σ} (h : (openView d w).2.Smooth) :
    (openView d w).1 = .ok () := by
  rw [openView] at h ⊢
  rcases hp : Stage.perform (.setCamera (cameraState d)) w with ⟨fault | _, w'⟩
  · simp only [hp] at h
    cases h.performed hp
  · simp only [hp] at h ⊢
    exact announce_of_smooth h

-- Setting up fails only if the stage does.
theorem load_of_smooth {d : Definition} {w : Watched σ} (h : (load d w).stage.Smooth) :
    ∃ e, (load d w).result = .ok e := by
  rw [load] at h ⊢
  cases hbuilt : (Registry.build d.actors w).result with
  | error fault =>
      simp only [hbuilt] at h
      obtain ⟨r, hok⟩ := Registry.buildFrom_of_smooth d.actors h
      simp [Registry.build, hok] at hbuilt
  | ok r =>
      simp only [hbuilt] at h ⊢
      rcases hopen : openView d (Registry.build d.actors w).stage with ⟨fault | _, w'⟩
      · simp only [hopen, Registry.discard_eq] at h
        have hview : (openView d (Registry.build d.actors w).stage).2.Smooth := by
          rw [hopen]
          exact h.of_prefix (Watched.performAll_prefix _ _)
        simpa [hopen] using openView_of_smooth hview
      · exact ⟨_, rfl⟩

end Session

end Diorama
