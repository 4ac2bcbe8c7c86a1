import Diorama.Proofs.Registry.Consistency

namespace Diorama.Registry

variable {σ : Type} [Stage σ]

-- For each id the first definition that has it is the one that its actor is made from.
structure Casts (definitions : List ActorDefinition) (r : Registry) : Prop where
  indexed : r.Indexed
  definition : ∀ id, (r.get? id).map (·.definition) = definitions.find? (·.id == id)

theorem get?_add {r : Registry} (h : r.Indexed) (d : ActorDefinition) (handle : Option Handle)
    (id : String) :
    (r.add d handle).get? id =
      if id = d.id then some ⟨d.id, d.kind, handle, d.initialTransform, d⟩ else r.get? id := by
  rw [get?, indexOf_add]
  split_ifs
  · simp [at?, add, size]
  · rw [get?]
    cases hindex : r.indexOf id with
    | none => rfl
    | some index =>
        have hlt : index < r.actors.length := h.consistent.indexOf_lt id index hindex
        simp [at?, add, List.getElem?_append_left hlt]

namespace Casts

variable {before definitions : List ActorDefinition} {r : Registry}

theorem isSome_get? (h : r.Casts definitions) (id : String) :
    (r.get? id).isSome = (definitions.find? (·.id == id)).isSome := by
  rw [← h.definition, Option.isSome_map]

theorem isSome_indexOf (h : r.Casts definitions) (id : String) :
    (r.indexOf id).isSome = (definitions.find? (·.id == id)).isSome := by
  rw [← h.isSome_get?, Bool.eq_iff_iff]
  exact (h.indexed.consistent.get?_isSome_iff id).symm

theorem empty : Registry.empty.Casts [] where
  indexed := empty_indexed
  definition _ := rfl

theorem createActor (h : r.Casts before) {d : ActorDefinition} {s : σ} {index : Option Nat}
    (hok : (r.createActor d s).1.result = .ok index) :
    (r.createActor d s).2.Casts (before ++ [d]) := by
  refine ⟨createActor_indexed h.indexed d s, fun id => ?_⟩
  rw [List.find?_append, List.find?_singleton, ← h.definition]
  rcases r.createActor_cases d s with
    ⟨htaken, -, hsame⟩ | ⟨hfree, ⟨handle, -, hadded⟩ | ⟨fault, hresult, -⟩⟩
  · -- the id has an actor already, and what comes later does not count
    rw [hsame]
    by_cases hid : id = d.id
    · subst hid
      obtain ⟨a, ha⟩ := Option.isSome_iff_exists.mp
        ((h.indexed.consistent.get?_isSome_iff d.id).mpr htaken)
      simp [ha]
    · simp [Ne.symm hid]
  · rw [hadded, get?_add h.indexed]
    by_cases hid : id = d.id
    · subst hid
      have hnew : r.get? d.id = none := by simp [get?, hfree]
      simp [hnew]
    · simp [hid, Ne.symm hid]
  · rw [hresult] at hok
    cases hok

theorem buildFrom (h : r.Casts before) (rest : List ActorDefinition) {s : σ} {built : Registry}
    (hok : (r.buildFrom rest s).result = .ok built) : built.Casts (before ++ rest) := by
  induction rest generalizing before r s with
  | nil =>
      simp only [Registry.buildFrom, Except.ok.injEq] at hok
      simpa [← hok] using h
  | cons d rest ih =>
      simp only [Registry.buildFrom] at hok
      split at hok
      · rename_i hcreated
        have hlast := ih (h.createActor hcreated) hok
        rwa [List.append_assoc] at hlast
      · cases hok

theorem of_cast {r' : Registry} (h : r.Casts definitions) (hpositions : r'.positions = r.positions)
    (hcast : r'.cast = r.cast) : r'.Casts definitions where
  indexed := h.indexed.of_cast hpositions hcast
  definition id := by
    have hrole : (r'.get? id).map Actor.role = (r.get? id).map Actor.role := by
      simp only [get?, indexOf, hpositions, Option.map_bind]
      congr 1
      funext index
      simpa [at?, cast] using congrArg (·[index]?) hcast
    rw [← h.definition]
    simpa [Actor.role, Function.comp_def] using congrArg (Option.map (·.definition)) hrole

theorem commit (h : r.Casts definitions) (staged : List Transform) (s : σ) :
    (r.commit staged s).2.1.Casts definitions :=
  h.of_cast rfl (commit_cast r staged s)

end Casts

-- Every actor stands where its definition puts it.
def Unmoved (r : Registry) : Prop := ∀ a ∈ r.actors, a.transform = a.definition.initialTransform

namespace Unmoved

theorem empty : Registry.empty.Unmoved := fun _ hmem => absurd hmem List.not_mem_nil

theorem createActor {r : Registry} (h : r.Unmoved) (d : ActorDefinition) (s : σ) :
    (r.createActor d s).2.Unmoved := by
  rcases createActor_registry d r s with hsame | ⟨-, handle, hadded⟩
  · rwa [hsame]
  · rw [hadded]
    intro a ha
    rcases List.mem_append.mp ha with ha | ha
    · exact h a ha
    · rw [List.mem_singleton.mp ha]

theorem buildFrom {r : Registry} (h : r.Unmoved) (rest : List ActorDefinition) {s : σ}
    {built : Registry} (hok : (r.buildFrom rest s).result = .ok built) : built.Unmoved := by
  induction rest generalizing r s with
  | nil =>
      simp only [Registry.buildFrom, Except.ok.injEq] at hok
      exact hok ▸ h
  | cons d rest ih =>
      simp only [Registry.buildFrom] at hok
      split at hok
      · exact ih (h.createActor d s) hok
      · cases hok

end Unmoved

end Diorama.Registry
