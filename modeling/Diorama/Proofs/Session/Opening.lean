import Diorama.Proofs.Registry.Consistency
import Diorama.Proofs.Session.Agreement

namespace Diorama

namespace ActorDefinition

-- Where an actor stands at first. A degree is as many radians as the 180th part of the half circle,
-- as a single, and a tilt that is a number stands in for the turn around z.
def start (d : ActorDefinition) : Transform where
  position := d.position
  rotation :=
    let degree : Float32 := 3.14159265358979323846 / 180
    let turn := match d.metadata.lookup "tilt" with
      | some (.number tilt) => narrow tilt.toDouble
      | _ => d.rotation.z
    ⟨d.rotation.x * degree, d.rotation.y * degree, turn * degree⟩
  scale := d.scale
  height := ⟨d.position.y, d.position.y.toBits, .inl rfl⟩

theorem initialTransform_eq_start (d : ActorDefinition) : d.initialTransform = d.start := by
  rw [initialTransform, start, measure?, Json.member?]
  rcases d.metadata.lookup "tilt" with _ | j
  · rfl
  · cases j <;> rfl

-- What kinds are known is what can be shown.
theorem primitive?_isSome (d : ActorDefinition) : d.primitive?.isSome = d.kind.isKnown := by
  rw [primitive?, Option.isSome_map, shape?]
  cases d.kind <;> rfl

-- The definitions with an id that none before them has.
def newcomers (definitions : List ActorDefinition) : List ActorDefinition :=
  (List.range definitions.length).filterMap fun index =>
    (definitions[index]?).filter fun d => (definitions.take index).all (·.id != d.id)

theorem newcomers_concat (definitions : List ActorDefinition) (d : ActorDefinition) :
    newcomers (definitions ++ [d]) =
      newcomers definitions ++ if definitions.all (·.id != d.id) then [d] else [] := by
  have hbefore : (List.range definitions.length).filterMap (fun index =>
        ((definitions ++ [d])[index]?).filter fun e =>
          ((definitions ++ [d]).take index).all (·.id != e.id)) =
      newcomers definitions := by
    apply List.filterMap_congr
    intro index hindex
    have hlt : index < definitions.length := List.mem_range.mp hindex
    rw [List.getElem?_append_left hlt, List.take_append_of_le_length (Nat.le_of_lt hlt)]
  have hlast : (definitions ++ [d])[definitions.length]? = some d := by simp
  rw [newcomers, List.length_append, List.length_singleton, List.range_succ, List.filterMap_append,
    hbefore, List.filterMap_cons, hlast, List.take_left]
  by_cases hnew : definitions.all (·.id != d.id) <;> simp [Option.filter, hnew]

theorem newcomers_ids (definitions : List ActorDefinition) (id : String) :
    (∃ d ∈ newcomers definitions, d.id = id) ↔ ∃ d ∈ definitions, d.id = id := by
  induction definitions using List.reverseRecOn with
  | nil => rfl
  | append_singleton definitions d ih =>
      rw [newcomers_concat]
      by_cases hnew : definitions.all (·.id != d.id)
      · simp only [hnew, if_true, List.mem_append, or_and_right, exists_or, ih]
      · -- an id that is taken is the id of a newcomer already
        have htaken : ∃ e ∈ definitions, e.id = d.id := by simpa using hnew
        rw [if_neg hnew, List.append_nil, ih]
        simp only [List.mem_append, or_and_right, exists_or, List.mem_singleton, exists_eq_left]
        refine ⟨Or.inl, ?_⟩
        rintro (h | rfl)
        · exact h
        · exact htaken

end ActorDefinition

open ActorDefinition (newcomers newcomers_concat)

-- The number of actors with a primitive.
def knownCount (definitions : List ActorDefinition) : Nat := definitions.countP (·.kind.isKnown)

-- The actors that are to come of definitions with ids of their own. Those of a known kind hold
-- the handles in turn.
def lineup (definitions : List ActorDefinition) : List Actor :=
  definitions.mapIdx fun index d =>
    { id := d.id
      kind := d.kind
      handle := if d.kind.isKnown then some ⟨knownCount (definitions.take index)⟩ else none
      transform := d.start
      definition := d }

-- What is written down for them: each primitive is made and at once put in its place.
def placing (definitions : List ActorDefinition) : List Entry :=
  (definitions.filterMap fun d => d.primitive?.map (·, d.start)).zipIdx.flatMap fun placed =>
    [.createPrimitive ⟨placed.2⟩ placed.1.1, .setTransform ⟨placed.2⟩ placed.1.2]

-- What is written down for the annotations.
def announcing (annotations : List Annotation) : List Entry :=
  annotations.zipIdx.map fun a => .createOverlay a.2 a.1.text

theorem lineup_concat (definitions : List ActorDefinition) (d : ActorDefinition) :
    lineup (definitions ++ [d]) = lineup definitions ++
      [⟨d.id, d.kind, if d.kind.isKnown then some ⟨knownCount definitions⟩ else none, d.start,
        d⟩] := by
  rw [lineup, List.mapIdx_append, List.mapIdx_singleton, Nat.zero_add, List.take_left]
  congr 1
  apply List.ext_getElem
  · simp [lineup]
  · intro index hindex _
    have hlt : index < definitions.length := by simpa using hindex
    simp [lineup, List.take_append_of_le_length (Nat.le_of_lt hlt)]

theorem lineup_ids (definitions : List ActorDefinition) :
    (lineup definitions).map (·.id) = definitions.map (·.id) := by
  apply List.ext_getElem
  · simp [lineup]
  · intro index _ _
    simp [lineup]

theorem knownCount_concat (definitions : List ActorDefinition) (d : ActorDefinition) :
    knownCount (definitions ++ [d]) = knownCount definitions + if d.kind.isKnown then 1 else 0 := by
  simp [knownCount, List.countP_append, List.countP_cons]

theorem length_primitives (definitions : List ActorDefinition) :
    (definitions.filterMap fun d => d.primitive?.map (·, d.start)).length =
      knownCount definitions := by
  simp [knownCount, List.length_filterMap_eq_countP, ActorDefinition.primitive?_isSome]

theorem placing_concat_known (definitions : List ActorDefinition) {d : ActorDefinition}
    {p : Primitive} (hp : d.primitive? = some p) :
    placing (definitions ++ [d]) = placing definitions ++
      [.createPrimitive ⟨knownCount definitions⟩ p,
        .setTransform ⟨knownCount definitions⟩ d.start] := by
  simp [placing, hp, List.zipIdx_append, length_primitives]

theorem placing_concat_unknown (definitions : List ActorDefinition) {d : ActorDefinition}
    (hp : d.primitive? = none) : placing (definitions ++ [d]) = placing definitions := by
  simp [placing, hp]

namespace Registry

-- A registry and a recorder after actors were created from definitions with ids of their own.
structure Opened (definitions : List ActorDefinition) (r : Registry) (s : Recorder) : Prop where
  actors : r.actors = lineup definitions
  indexed : r.Indexed
  log : s.log.toList = placing definitions
  nextHandle : s.nextHandle = knownCount definitions
  willing : s.Willing

theorem Opened.isSome_indexOf {definitions : List ActorDefinition} {r : Registry} {s : Recorder}
    (h : Opened definitions r s) (id : String) :
    (r.indexOf id).isSome ↔ ∃ d ∈ definitions, d.id = id := by
  have hids : r.actors.map (·.id) = definitions.map (·.id) := by rw [h.actors, lineup_ids]
  rw [h.indexed.mem_iff, ← List.mem_map, hids, List.mem_map]

theorem opened_fresh : Opened [] .empty .fresh where
  actors := rfl
  indexed := empty_indexed
  log := rfl
  nextHandle := rfl
  willing := ⟨rfl, rfl⟩

-- A recorder that is willing makes a primitive and puts it in its place.
theorem place_willing {s : Recorder} (h : s.Willing) (d : ActorDefinition) (p : Primitive) :
    ∃ s', place d p s = ⟨[], .ok ⟨s.nextHandle⟩, s'⟩ ∧ s'.Willing ∧
      s'.nextHandle = s.nextHandle + 1 ∧
      s'.log.toList = s.log.toList ++
        [.createPrimitive ⟨s.nextHandle⟩ p, .setTransform ⟨s.nextHandle⟩ d.start] := by
  obtain ⟨handle, s₁, hcreate, h₁, hlive⟩ := h.create p
  obtain ⟨rfl, -, hlog₁, hnext₁⟩ := Recorder.create_ok hcreate
  obtain ⟨s₂, hperform⟩ := Recorder.setTransform_ok hlive d.initialTransform
  obtain ⟨-, hlog₂, hnext₂, -, -⟩ := Recorder.perform_ok hperform
  refine ⟨s₂, ?_, h₁.perform hperform, hnext₂.trans hnext₁, ?_⟩
  · simp [place, Stage.create, hcreate, hperform]
  · simp [hlog₂, hlog₁, Order.entry, d.initialTransform_eq_start]

theorem Opened.createActor_known {definitions : List ActorDefinition} {r : Registry} {s : Recorder}
    (h : Opened definitions r s) {d : ActorDefinition} (hfree : r.indexOf d.id = none)
    {p : Primitive} (hp : d.primitive? = some p) :
    (r.createActor d s).1.result = .ok (some r.size) ∧
      Opened (definitions ++ [d]) (r.createActor d s).2 (r.createActor d s).1.stage := by
  obtain ⟨s', hplace, hwilling, hnext, hlog⟩ := place_willing h.willing d p
  have hcreate : r.createActor d s =
      (⟨[], .ok (some r.size), s'⟩, r.add d (some ⟨s.nextHandle⟩)) := by
    simp [createActor, hfree, hp, hplace]
  have hknown : d.kind.isKnown = true := by rw [← d.primitive?_isSome, hp, Option.isSome_some]
  rw [hcreate]
  refine ⟨rfl, ?_, h.indexed.add d _ hfree, ?_, ?_, hwilling⟩
  · rw [lineup_concat, if_pos hknown, Registry.add, h.actors, d.initialTransform_eq_start,
      h.nextHandle]
  · rw [hlog, h.log, h.nextHandle, placing_concat_known definitions hp]
  · rw [hnext, h.nextHandle, knownCount_concat, if_pos hknown]

theorem Opened.createActor_unknown {definitions : List ActorDefinition} {r : Registry}
    {s : Recorder} (h : Opened definitions r s) {d : ActorDefinition}
    (hfree : r.indexOf d.id = none) (hp : d.primitive? = none) :
    (r.createActor d s).1.result = .ok (some r.size) ∧
      Opened (definitions ++ [d]) (r.createActor d s).2 (r.createActor d s).1.stage := by
  have hcreate : r.createActor d s =
      (⟨[.unknownKind d.kind.name d.id], .ok (some r.size), s⟩, r.add d none) := by
    simp [createActor, hfree, hp]
  have hunknown : ¬d.kind.isKnown = true := by rw [← d.primitive?_isSome, hp]; simp
  rw [hcreate]
  refine ⟨rfl, ?_, h.indexed.add d _ hfree, ?_, ?_, h.willing⟩
  · rw [lineup_concat, if_neg hunknown, Registry.add, h.actors, d.initialTransform_eq_start]
  · rw [h.log, placing_concat_unknown definitions hp]
  · rw [h.nextHandle, knownCount_concat, if_neg hunknown, Nat.add_zero]

-- One definition more: it adds an actor if its id is new, and otherwise nothing.
theorem Opened.createActor {before : List ActorDefinition} {r : Registry} {s : Recorder}
    (h : Opened (newcomers before) r s) (d : ActorDefinition) :
    ∃ index, (r.createActor d s).1.result = .ok index ∧
      Opened (newcomers (before ++ [d])) (r.createActor d s).2 (r.createActor d s).1.stage := by
  have htaken : (r.indexOf d.id).isSome ↔ ∃ e ∈ before, e.id = d.id := by
    rw [h.isSome_indexOf, ActorDefinition.newcomers_ids]
  rw [newcomers_concat]
  by_cases hnew : before.all (·.id != d.id)
  · have hfree : r.indexOf d.id = none := by
      rw [← Option.not_isSome_iff_eq_none, htaken]
      simpa using hnew
    rw [if_pos hnew]
    cases hp : d.primitive? with
    | none => exact ⟨_, h.createActor_unknown hfree hp⟩
    | some p => exact ⟨_, h.createActor_known hfree hp⟩
  · have hsome : (r.indexOf d.id).isSome = true := htaken.mpr (by simpa using hnew)
    rw [if_neg hnew, List.append_nil]
    have hcreate : r.createActor d s = (⟨[.duplicateActor d.id], .ok none, s⟩, r) := by
      simp [Registry.createActor, hsome]
    rw [hcreate]
    exact ⟨none, rfl, h⟩

theorem Opened.buildFrom {before : List ActorDefinition} {r : Registry} {s : Recorder}
    (h : Opened (newcomers before) r s) (rest : List ActorDefinition) :
    ∃ built, (r.buildFrom rest s).result = .ok built ∧
      Opened (newcomers (before ++ rest)) built (r.buildFrom rest s).stage := by
  induction rest generalizing before r s with
  | nil => exact ⟨r, rfl, (List.append_nil before).symm ▸ h⟩
  | cons d rest ih =>
      obtain ⟨index, hcreate, hopened⟩ := h.createActor d
      obtain ⟨built, hbuilt, hlast⟩ := ih hopened
      rw [List.append_assoc, List.singleton_append] at hlast
      simp only [Registry.buildFrom, hcreate]
      exact ⟨built, hbuilt, hlast⟩

end Registry

namespace Session

theorem announce_log {s : Recorder} (h : s.Willing) (index : Nat) (annotations : List Annotation) :
    ∃ s', announce index annotations s = (.ok (), s') ∧
      s'.log.toList = s.log.toList ++
        (annotations.zipIdx index).map fun a => .createOverlay a.2 a.1.text := by
  induction annotations generalizing index s with
  | nil => exact ⟨s, rfl, by simp⟩
  | cons a rest ih =>
      obtain ⟨s₁, hperform⟩ : ∃ s₁, s.perform (.createOverlay index a) = (.ok (), s₁) := by
        simp [Recorder.perform, h.overlays]
      have hlog₁ := (Recorder.perform_ok hperform).2.1
      obtain ⟨s₂, hrest, hlog₂⟩ := ih (h.perform hperform) (index + 1)
      exact ⟨s₂, by simp [announce, hperform, hrest], by simp [hlog₂, hlog₁, Order.entry]⟩

end Session

end Diorama
