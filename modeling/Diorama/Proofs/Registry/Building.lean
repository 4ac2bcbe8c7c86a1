import Diorama.Session.Registry
import Diorama.Proofs.Stage.Front

namespace Diorama.Registry

open Front (recorder sound)

-- The primitives of actors, each with the transform that was committed for it.
def placements (actors : List Actor) : List (Handle × Transform) :=
  actors.filterMap fun a => a.handle.map (·, a.transform)

theorem mem_placements {actors : List Actor} {handle : Handle} {tf : Transform} :
    (handle, tf) ∈ placements actors ↔ ∃ a ∈ actors, a.handle = some handle ∧ a.transform = tf := by
  simp [placements, List.mem_filterMap]

theorem placements_handles (actors : List Actor) :
    (placements actors).map (·.1) = actors.filterMap (·.handle) := by
  simp [placements, List.map_filterMap, Function.comp_def]

theorem placements_cons (a : Actor) (actors : List Actor) :
    placements (a :: actors) = placements [a] ++ placements actors := by
  simp [placements, List.filterMap_cons]
  cases a.handle <;> rfl

variable {σ : Type} [Stage σ] [Front σ] {first : Recorder} {owed : List (Handle × Transform)}

theorem place_ok {d : ActorDefinition} {p : Primitive} {s : σ} (hs : sound s)
    (h : Owes first (recorder s) owed) {handle : Handle}
    (hok : (place d p s).result = .ok handle) :
    sound (place d p s).stage ∧
      Owes first (recorder (place d p s).stage) (owed ++ [(handle, d.initialTransform)]) := by
  simp only [place] at hok ⊢
  rcases hc : Stage.create p s with ⟨_ | made, s₁⟩
  · simp [hc] at hok
  · obtain ⟨hcreate, hs₁⟩ := Front.create_ok hs hc
    have hmade := h.create hcreate
    rcases hp : Stage.perform (.setTransform made d.initialTransform) s₁ with ⟨_ | _, s₂⟩
    · simp only [hc, hp] at hok
      split at hok <;> cases hok
    · simp only [hc, hp] at hok ⊢
      cases hok
      obtain ⟨hperform, hs₂⟩ := Front.perform_ok hs₁ hp
      exact ⟨hs₂, hmade.setTransform hperform⟩

-- What could be made but not placed is taken away again.
theorem place_error {d : ActorDefinition} {p : Primitive} {s : σ} (hs : sound s)
    (h : Owes first (recorder s) owed) {fault : StageFault}
    (herror : (place d p s).result = .error fault) :
    sound (place d p s).stage ∧ Owes first (recorder (place d p s).stage) owed := by
  simp only [place] at herror ⊢
  rcases hc : Stage.create p s with ⟨_ | made, s₁⟩
  · obtain ⟨hsame, hs₁⟩ := Front.create_error hs hc
    simp only [hsame]
    exact ⟨hs₁, h⟩
  · obtain ⟨hcreate, hs₁⟩ := Front.create_ok hs hc
    have hmade := h.create hcreate
    rcases hp : Stage.perform (.setTransform made d.initialTransform) s₁ with ⟨_ | _, s₂⟩
    · obtain ⟨hsame, hs₂⟩ := Front.perform_error hs₁ hp
      rw [← hsame] at hmade
      have hmade := hmade.perm (List.perm_append_singleton _ _)
      have hmem : (recorder s₂).primitive? made ≠ none := hmade.ne_none List.mem_cons_self
      obtain ⟨s₃, hd⟩ := Front.destroyPrimitive_ok hs₂ hmem
      obtain ⟨hdestroy, hs₃⟩ := Front.perform_ok hs₂ hd
      simp only [hp, hd]
      exact ⟨hs₃, hmade.destroyPrimitive hdestroy⟩
    · simp [hc, hp] at herror

theorem placements_add (d : ActorDefinition) (handle : Option Handle) (r : Registry) :
    placements (r.add d handle).actors =
      placements r.actors ++ (handle.map (·, d.initialTransform)).toList := by
  cases handle <;> simp [placements, add]

theorem createActor_ok {d : ActorDefinition} {r : Registry} {s : σ} (hs : sound s)
    (h : Owes first (recorder s) (placements r.actors)) {index : Option Nat}
    (hok : (r.createActor d s).1.result = .ok index) :
    sound (r.createActor d s).1.stage ∧
      Owes first (recorder (r.createActor d s).1.stage)
        (placements (r.createActor d s).2.actors) := by
  unfold createActor at hok ⊢
  split
  · exact ⟨hs, h⟩
  · rename_i hfree
    rw [if_neg hfree] at hok
    cases hp : d.primitive? with
    | none =>
        simp only [placements_add, Option.map_none, Option.toList_none, List.append_nil]
        exact ⟨hs, h⟩
    | some p =>
        simp only [hp] at hok ⊢
        cases hplaced : (place d p s).result with
        | error fault => simp [hplaced] at hok
        | ok handle =>
            simp only [placements_add, Option.map_some, Option.toList_some]
            exact place_ok hs h hplaced

theorem createActor_error {d : ActorDefinition} {r : Registry} {s : σ} (hs : sound s)
    (h : Owes first (recorder s) owed) {fault : StageFault}
    (herror : (r.createActor d s).1.result = .error fault) :
    (r.createActor d s).2 = r ∧ sound (r.createActor d s).1.stage ∧
      Owes first (recorder (r.createActor d s).1.stage) owed := by
  unfold createActor at herror ⊢
  split
  · exact ⟨rfl, hs, h⟩
  · rename_i hfree
    rw [if_neg hfree] at herror
    cases hp : d.primitive? with
    | none => simp [hp] at herror
    | some p =>
        simp only [hp] at herror ⊢
        cases hplaced : (place d p s).result with
        | error fault => exact ⟨rfl, place_error hs h hplaced⟩
        | ok handle => simp [hplaced] at herror

theorem release_ok {actors : List Actor} {s : σ} (hs : sound s)
    (h : Owes first (recorder s) (placements actors)) :
    ∃ s', release actors s = (.ok (), s') ∧ sound s' ∧ Owes first (recorder s') [] := by
  induction actors generalizing s with
  | nil => exact ⟨s, rfl, hs, h⟩
  | cons a rest ih =>
      cases hh : a.handle with
      | none =>
          obtain ⟨s', hrelease, hs', hnone⟩ := ih hs (by simpa [placements, hh] using h)
          exact ⟨s', by simp [release, hh, hrelease], hs', hnone⟩
      | some handle =>
          have howed : placements (a :: rest) = (handle, a.transform) :: placements rest := by
            simp [placements, hh]
          rw [howed] at h
          obtain ⟨s₁, hd⟩ := Front.destroyPrimitive_ok hs (h.ne_none List.mem_cons_self)
          obtain ⟨hdestroy, hs₁⟩ := Front.perform_ok hs hd
          obtain ⟨s', hrelease, hs', hnone⟩ := ih hs₁ (h.destroyPrimitive hdestroy)
          exact ⟨s', by simp [release, hh, hd, hrelease], hs', hnone⟩

theorem discard_owes {r : Registry} {s : σ} (hs : sound s)
    (h : Owes first (recorder s) (placements r.actors)) :
    sound (r.discard s).2 ∧ Owes first (recorder (r.discard s).2) [] := by
  obtain ⟨s', hrelease, hs', hnone⟩ := release_ok hs h
  simp only [discard, hrelease]
  exact ⟨hs', hnone⟩

-- The actors that were built are owed; on failure nothing is.
theorem buildFrom_owes {r : Registry} (definitions : List ActorDefinition) {s : σ} (hs : sound s)
    (h : Owes first (recorder s) (placements r.actors)) :
    sound (r.buildFrom definitions s).stage ∧
      match (r.buildFrom definitions s).result with
      | .ok built => Owes first (recorder (r.buildFrom definitions s).stage) (placements built.actors)
      | .error _ => Owes first (recorder (r.buildFrom definitions s).stage) [] := by
  induction definitions generalizing r s with
  | nil => exact ⟨hs, h⟩
  | cons d rest ih =>
      simp only [buildFrom]
      cases hcreated : (r.createActor d s).1.result with
      | ok index =>
          obtain ⟨hs', h'⟩ := createActor_ok hs h hcreated
          exact ih hs' h'
      | error fault =>
          obtain ⟨hsame, hs', h'⟩ := createActor_error hs h hcreated
          rw [hsame]
          exact discard_owes hs' h'

end Diorama.Registry
