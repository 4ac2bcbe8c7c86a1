import Mathlib.Data.List.Nodup
import Diorama.Session.Registry
import Diorama.Stage.Recorder

namespace Diorama

-- The actor apart from where it stands.
def Actor.role (a : Actor) : Actor := { a with transform := .rest }

namespace Registry

variable {σ : Type} [Stage σ]

-- Who takes part, in the order of the actors. A frame moves actors and leaves the cast alone.
def cast (r : Registry) : List Actor := r.actors.map Actor.role

theorem commitActors_cast (actors : List Actor) (staged : List Transform) (s : σ) :
    (commitActors actors staged s).2.1.map Actor.role = actors.map Actor.role := by
  induction actors generalizing staged s with
  | nil => simp [commitActors]
  | cons a actors ih =>
      cases staged with
      | nil => simp [commitActors]
      | cons next staged =>
          simp only [commitActors]
          split
          · simp [ih]
          · split
            · simp [ih, Actor.role]
            · split
              · simp [Actor.role]
              · simp [ih, Actor.role]

theorem commit_cast (r : Registry) (staged : List Transform) (s : σ) :
    (r.commit staged s).2.1.cast = r.cast :=
  commitActors_cast r.actors staged s

-- What a creation can come to: the id was taken already, or the actor is put behind the others, or
-- its primitive cannot be made.
theorem createActor_cases (d : ActorDefinition) (r : Registry) (s : σ) :
    (r.indexOf d.id).isSome ∧ (r.createActor d s).1.result = .ok none ∧ (r.createActor d s).2 = r ∨
      r.indexOf d.id = none ∧
        ((∃ handle, (r.createActor d s).1.result = .ok (some r.size) ∧
            (r.createActor d s).2 = r.add d handle) ∨
          ∃ fault, (r.createActor d s).1.result = .error fault ∧ (r.createActor d s).2 = r) := by
  unfold createActor
  split
  · rename_i htaken
    exact .inl ⟨htaken, rfl, rfl⟩
  · rename_i hfree
    refine .inr ⟨by simpa using hfree, ?_⟩
    cases d.primitive? with
    | none => exact .inl ⟨none, rfl, rfl⟩
    | some p =>
        simp only
        cases (place d p s).result with
        | ok handle => exact .inl ⟨some handle, rfl, rfl⟩
        | error fault => exact .inr ⟨fault, rfl, rfl⟩

theorem createActor_registry (d : ActorDefinition) (r : Registry) (s : σ) :
    (r.createActor d s).2 = r ∨
      r.indexOf d.id = none ∧ ∃ handle, (r.createActor d s).2 = r.add d handle := by
  rcases r.createActor_cases d s with
    ⟨-, -, hsame⟩ | ⟨hfree, ⟨handle, -, hadded⟩ | ⟨fault, -, hsame⟩⟩
  · exact .inl hsame
  · exact .inr ⟨hfree, handle, hadded⟩
  · exact .inl hsame

theorem createActor_eq_ok_none_iff (d : ActorDefinition) (r : Registry) (s : σ) :
    (r.createActor d s).1.result = .ok none ↔ (r.indexOf d.id).isSome := by
  rcases r.createActor_cases d s with
    ⟨htaken, hresult, -⟩ | ⟨hfree, ⟨handle, hresult, -⟩ | ⟨fault, hresult, -⟩⟩
  · exact iff_of_true hresult htaken
  · simp [hresult, hfree]
  · simp [hresult, hfree]

-- The positions and the actors say the same, so that every lookup finds what it asks for.
structure Consistent (r : Registry) : Prop where
  indexOf_iff : ∀ id index,
    r.indexOf id = some index ↔ index < r.size ∧ (r.at? index).map (·.id) = some id
  ids_nodup : (r.actors.map (·.id)).Nodup
  indexOf_lt : ∀ id index, r.indexOf id = some index → index < r.size
  at?_isSome_iff : ∀ index, (r.at? index).isSome ↔ index < r.size
  get?_isSome_iff : ∀ id, (r.get? id).isSome ↔ (r.indexOf id).isSome
  get?_iff : ∀ id a, r.get? id = some a ↔ a ∈ r.actors ∧ a.id = id
  createActor_iff : ∀ {σ : Type} [Stage σ] (d : ActorDefinition) (s : σ),
    (r.createActor d s).1.result = .ok none ↔ ∃ a ∈ r.actors, a.id = d.id

-- An id that is still taken although its actor is gone.
def Stale (r : Registry) : Prop :=
  ∃ id index, r.indexOf id = some index ∧ ∀ a ∈ r.actors, a.id ≠ id

-- The positions as they have to be, in terms of the ids alone.
def Indexed (r : Registry) : Prop :=
  ∀ id index, r.indexOf id = some index ↔ (r.actors.map (·.id))[index]? = some id

theorem at?_map_id (r : Registry) (index : Nat) :
    (r.at? index).map (·.id) = (r.actors.map (·.id))[index]? := by
  simp [at?]

theorem Indexed.ids_nodup {r : Registry} (h : r.Indexed) : (r.actors.map (·.id)).Nodup := by
  rw [List.nodup_iff_getElem?_ne_getElem?]
  intro i j hij hj heq
  obtain ⟨id, hid⟩ : ∃ id, (r.actors.map (·.id))[j]? = some id :=
    ⟨_, List.getElem?_eq_getElem hj⟩
  have hi := (h id i).mpr (heq.trans hid)
  rw [(h id j).mpr hid] at hi
  injection hi with hi
  omega

theorem Indexed.mem_iff {r : Registry} (h : r.Indexed) (id : String) :
    (r.indexOf id).isSome ↔ ∃ a ∈ r.actors, a.id = id := by
  constructor
  · intro hsome
    obtain ⟨index, hindex⟩ := Option.isSome_iff_exists.mp hsome
    have hmem := List.mem_of_getElem? ((h id index).mp hindex)
    exact List.mem_map.mp hmem
  · intro hex
    obtain ⟨index, hindex⟩ := List.getElem?_of_mem (List.mem_map.mpr hex)
    rw [(h id index).mpr hindex]
    rfl

theorem Indexed.get?_iff {r : Registry} (h : r.Indexed) (id : String) (a : Actor) :
    r.get? id = some a ↔ a ∈ r.actors ∧ a.id = id := by
  simp only [get?, Option.bind_eq_some_iff]
  constructor
  · rintro ⟨index, hindex, ha⟩
    have hid := (h id index).mp hindex
    rw [← at?_map_id, ha] at hid
    exact ⟨List.mem_of_getElem? ha, Option.some.inj hid⟩
  · rintro ⟨hmem, hid⟩
    obtain ⟨index, ha⟩ := List.getElem?_of_mem hmem
    refine ⟨index, (h id index).mpr ?_, ha⟩
    rw [← at?_map_id, show r.at? index = some a from ha, ← hid]
    rfl

theorem Indexed.consistent {r : Registry} (h : r.Indexed) : r.Consistent where
  indexOf_iff id index := by
    rw [at?_map_id, h id index, iff_and_self]
    intro hid
    simpa [size] using (List.getElem?_eq_some_iff.mp hid).1
  ids_nodup := h.ids_nodup
  indexOf_lt id index hindex := by
    simpa [size] using (List.getElem?_eq_some_iff.mp ((h id index).mp hindex)).1
  at?_isSome_iff index := by simp [at?, size]
  get?_isSome_iff id := by
    rw [h.mem_iff]
    simp only [Option.isSome_iff_exists, h.get?_iff]
  get?_iff := h.get?_iff
  createActor_iff d s := (createActor_eq_ok_none_iff d r s).trans (h.mem_iff d.id)

theorem Stale.not_consistent {r : Registry} (h : r.Stale) : ¬r.Consistent := by
  obtain ⟨id, index, hindex, hgone⟩ := h
  intro hr
  have hid := ((hr.indexOf_iff id index).mp hindex).2
  rw [at?_map_id] at hid
  obtain ⟨a, ha, he⟩ := List.mem_map.mp (List.mem_of_getElem? hid)
  exact hgone a ha he

theorem indexOf_add (d : ActorDefinition) (handle : Option Handle) (r : Registry) (id : String) :
    (r.add d handle).indexOf id = if id = d.id then some r.size else r.indexOf id :=
  Table.lookup_cons_eq d.id id r.size r.positions

theorem Indexed.add {r : Registry} (h : r.Indexed) (d : ActorDefinition) (handle : Option Handle)
    (hfree : r.indexOf d.id = none) : (r.add d handle).Indexed := by
  intro id index
  have hnew : ∀ index : Nat, (r.actors.map (·.id))[index]? ≠ some d.id := fun index he => by
    simp [(h d.id index).mpr he] at hfree
  rw [indexOf_add]
  simp only [Registry.add, List.map_append, List.map_cons, List.map_nil]
  by_cases hid : id = d.id
  · subst hid
    rw [if_pos rfl, Option.some.injEq]
    rcases Nat.lt_trichotomy index r.size with hlt | heq | hgt
    · rw [List.getElem?_append_left (by simpa [size] using hlt)]
      simp only [hnew index, iff_false]
      omega
    · subst heq
      simp [size]
    · rw [List.getElem?_eq_none (by simp [size] at hgt ⊢; omega)]
      simp only [reduceCtorEq, iff_false]
      omega
  · rw [if_neg hid, h id index]
    by_cases hlt : index < r.size
    · rw [List.getElem?_append_left (by simpa [size] using hlt)]
    · have hlen : (r.actors.map (·.id)).length ≤ index := by simp [size] at hlt ⊢; omega
      rw [List.getElem?_append_right hlen, List.getElem?_eq_none hlen]
      cases index - (r.actors.map (·.id)).length with
      | zero => simpa using fun he => hid he.symm
      | succ n => simp

theorem Stale.add {r : Registry} (h : r.Stale) (d : ActorDefinition) (handle : Option Handle)
    (hfree : r.indexOf d.id = none) : (r.add d handle).Stale := by
  obtain ⟨id, index, hindex, hgone⟩ := h
  have hne : id ≠ d.id := by
    rintro rfl
    simp [hfree] at hindex
  refine ⟨id, index, by rw [indexOf_add, if_neg hne, hindex], ?_⟩
  intro a ha
  rcases List.mem_append.mp ha with ha | ha
  · exact hgone a ha
  · rw [List.mem_singleton.mp ha]
    exact hne.symm

-- Who is found where does not depend on where anybody stands.
theorem Indexed.of_cast {r r' : Registry} (h : r.Indexed) (hpositions : r'.positions = r.positions)
    (hcast : r'.cast = r.cast) : r'.Indexed := by
  have hids : r'.actors.map (·.id) = r.actors.map (·.id) := by
    simpa [cast, Actor.role, Function.comp_def] using congrArg (List.map (·.id)) hcast
  intro id index
  rw [indexOf, hpositions, hids]
  exact h id index

theorem commit_indexed {r : Registry} (h : r.Indexed) (staged : List Transform) (s : σ) :
    (r.commit staged s).2.1.Indexed :=
  h.of_cast rfl (commit_cast r staged s)

theorem commit_stale {r : Registry} (h : r.Stale) (staged : List Transform) (s : σ) :
    (r.commit staged s).2.1.Stale := by
  obtain ⟨id, index, hindex, hgone⟩ := h
  refine ⟨id, index, hindex, fun a ha => ?_⟩
  have hrole : a.role ∈ r.cast := commit_cast r staged s ▸ List.mem_map_of_mem ha
  obtain ⟨b, hb, hab⟩ := List.mem_map.mp hrole
  have hid : b.role.id = a.role.id := congrArg Actor.id hab
  exact hid ▸ hgone b hb

theorem createActor_indexed {r : Registry} (h : r.Indexed) (d : ActorDefinition) (s : σ) :
    (r.createActor d s).2.Indexed := by
  rcases createActor_registry d r s with heq | ⟨hfree, handle, heq⟩
  · rwa [heq]
  · rw [heq]
    exact h.add d handle hfree

theorem createActor_stale {r : Registry} (h : r.Stale) (d : ActorDefinition) (s : σ) :
    (r.createActor d s).2.Stale := by
  rcases createActor_registry d r s with heq | ⟨hfree, handle, heq⟩
  · rwa [heq]
  · rw [heq]
    exact h.add d handle hfree

theorem empty_indexed : empty.Indexed := by
  intro id index
  simp [empty, indexOf]

theorem buildFrom_indexed {r : Registry} (h : r.Indexed) (definitions : List ActorDefinition)
    (s : σ) {built : Registry} (hok : (r.buildFrom definitions s).result = .ok built) :
    built.Indexed := by
  induction definitions generalizing r s with
  | nil =>
      simp only [buildFrom, Except.ok.injEq] at hok
      exact hok ▸ h
  | cons d rest ih =>
      simp only [buildFrom] at hok
      split at hok
      · exact ih (createActor_indexed h d s) _ hok
      · cases hok

-- Only actors with a primitive can keep a registry from being taken down.
theorem release_error {actors : List Actor} {s : σ} {fault : StageFault}
    (h : (release actors s).1 = .error fault) : actors ≠ [] := by
  rintro rfl
  simp [release] at h

theorem Indexed.teardown_stale {r : Registry} (h : r.Indexed) {a : Actor} (ha : a ∈ r.actors) :
    ({ r with actors := [] } : Registry).Stale := by
  obtain ⟨index, hindex⟩ := Option.isSome_iff_exists.mp ((h.mem_iff a.id).mpr ⟨a, ha, rfl⟩)
  exact ⟨a.id, index, hindex, by simp⟩

-- What can be done with a registry.
inductive Operation where
  | create (d : ActorDefinition)
  | build (definitions : List ActorDefinition)
  | commit (staged : List Transform)
  | teardown

-- A registry between two operations. It is torn from a teardown that failed on, until another
-- teardown or a build succeeds.
structure Life (σ : Type) where
  registry : Registry := .empty
  torn : Bool := false
  stage : σ

namespace Life

def step (l : Life σ) : Operation → Life σ
  | .create d =>
    let (created, registry) := l.registry.createActor d l.stage
    { l with registry, stage := created.stage }
  | .build definitions =>
    let built := Registry.build definitions l.stage
    match built.result with
    | .ok registry => { registry, stage := built.stage }
    | .error _ => { l with stage := built.stage }
  | .commit staged =>
    let (_, registry, stage) := l.registry.commit staged l.stage
    { l with registry, stage }
  | .teardown =>
    let (result, registry, stage) := l.registry.teardown l.stage
    { registry, stage, torn := !result.isOk }

def run (operations : List Operation) (l : Life σ) : Life σ := operations.foldl step l

-- What every operation keeps: a registry is in order, or it is torn and an id is stale.
def Sound (l : Life σ) : Prop :=
  l.torn = false ∧ l.registry.Indexed ∨ l.torn = true ∧ l.registry.Stale

theorem step_sound {l : Life σ} (h : l.Sound) (operation : Operation) :
    (l.step operation).Sound := by
  cases operation with
  | create d =>
      exact h.imp (fun h => ⟨h.1, createActor_indexed h.2 d l.stage⟩)
        (fun h => ⟨h.1, createActor_stale h.2 d l.stage⟩)
  | build definitions =>
      simp only [step]
      split
      · rename_i built hok
        exact .inl ⟨rfl, buildFrom_indexed empty_indexed definitions l.stage hok⟩
      · exact h
  | commit staged =>
      exact h.imp (fun h => ⟨h.1, commit_indexed h.2 staged l.stage⟩)
        (fun h => ⟨h.1, commit_stale h.2 staged l.stage⟩)
  | teardown =>
      cases hrelease : release l.registry.actors l.stage with
      | mk result s =>
          cases result with
          | ok _ =>
              refine .inl ⟨?_, ?_⟩
              · simp [step, Registry.teardown, hrelease, Except.isOk, Except.toBool]
              · simpa [step, Registry.teardown, hrelease] using empty_indexed
          | error fault =>
              have hstale : ({ l.registry with actors := [] } : Registry).Stale := by
                rcases h with ⟨_, hindexed⟩ | ⟨_, id, index, hindex, _⟩
                · obtain ⟨a, ha⟩ := List.exists_mem_of_ne_nil _
                    (release_error (congrArg Prod.fst hrelease))
                  exact hindexed.teardown_stale ha
                · exact ⟨id, index, hindex, by simp⟩
              refine .inr ⟨?_, ?_⟩
              · simp [step, Registry.teardown, hrelease, Except.isOk, Except.toBool]
              · simpa [step, Registry.teardown, hrelease] using hstale

theorem run_sound (operations : List Operation) {l : Life σ} (h : l.Sound) :
    (l.run operations).Sound := by
  induction operations generalizing l with
  | nil => exact h
  | cons operation rest ih => exact ih (step_sound h operation)

end Life

-- The positions keep in step with the actors through all creations, builds, frames and teardowns
-- on a stage that may fail at any point, a failed teardown apart. That empties the actors but not
-- the positions, and nothing but a later teardown or build that succeeds puts it right.
theorem consistent_iff_not_torn (operations : List Operation) (s : σ) :
    (({ stage := s } : Life σ).run operations).registry.Consistent ↔
      (({ stage := s } : Life σ).run operations).torn = false := by
  have hstart : ({ stage := s } : Life σ).Sound := .inl ⟨rfl, empty_indexed⟩
  rcases Life.run_sound operations hstart with ⟨hwhole, hindexed⟩ | ⟨htorn, hstale⟩
  · exact iff_of_true hindexed.consistent hwhole
  · exact iff_of_false hstale.not_consistent (by simp [htorn])

-- One actor and a stage that does not let its primitive go: nobody is left, and still the id is
-- taken.
theorem refused_teardown_keeps_id :
    let s : RefusingStage Recorder :=
      { inner := .fresh, plan := fun request _ => request == .destroyPrimitive }
    let d : ActorDefinition := { id := "a", kind := .sphere }
    let l := ({ stage := s } : Life (RefusingStage Recorder)).run [.create d, .teardown]
    l.torn = true ∧ l.registry.size = 0 ∧ l.registry.indexOf "a" = some 0 ∧
      (l.registry.createActor d l.stage).1.result = .ok none ∧ ¬l.registry.Consistent := by
  refine ⟨by decide, by decide, by decide, ?_, ?_⟩
  · rfl
  · exact fun h => absurd (h.indexOf_lt "a" 0 (by decide)) (by decide)

end Registry

end Diorama
