import Diorama.Proofs.Playback.Redraw
import Diorama.Proofs.Session.Isolation
import Diorama.Proofs.Session.Pruning
import Diorama.Proofs.Terminal.Mirroring

namespace Diorama

-- The numbers that a transform consists of.
inductive Component where
  | positionX
  | positionY
  | positionZ
  | rotationX
  | rotationY
  | rotationZ
  | scaleX
  | scaleY
  | scaleZ
deriving DecidableEq

namespace Component

def ofTransform (tf : Transform) : Component → Float32
  | positionX => tf.position.x
  | positionY => tf.position.y
  | positionZ => tf.position.z
  | rotationX => tf.rotation.x
  | rotationY => tf.rotation.y
  | rotationZ => tf.rotation.z
  | scaleX => tf.scale.x
  | scaleY => tf.scale.y
  | scaleZ => tf.scale.z

-- No frame ever writes these.
def fixed : List Component := [rotationX, rotationZ, scaleX, scaleY, scaleZ]

theorem ofTransform_alike {tf tf' : Transform} (h : tf.Alike tf') (c : Component) :
    Scalar.Alike (c.ofTransform tf) (c.ofTransform tf') := by
  cases c with
  | positionX => exact h.position.x
  | positionY => exact h.position.y
  | positionZ => exact h.position.z
  | rotationX => exact h.rotation.x
  | rotationY => exact h.rotation.y
  | rotationZ => exact h.rotation.z
  | scaleX => exact h.scale.x
  | scaleY => exact h.scale.y
  | scaleZ => exact h.scale.z

end Component

-- What a change that has come as far as `eased` writes to a component, if it writes it.
def PropertyChange.value? (eased orbitRadius : Float32) :
    PropertyChange → Component → Option Float32
  | .orbit degrees, .positionX => some ((radians (degrees * eased)).cos * orbitRadius)
  | .orbit degrees, .positionZ => some ((radians (degrees * eased)).sin * orbitRadius)
  | .rotation degrees, .rotationY => some (radians (degrees * eased))
  | .position target, .positionX => some (target.x * eased)
  | .position target, .positionY => some (target.y * eased)
  | .position target, .positionZ => some (target.z * eased)
  | _, _ => none

-- Where an actor with an orbit of its own is on it. The height is not part of an orbit.
def Orbit.value? (t : Float32) (orbit : Orbit) : Component → Option Float32
  | .positionX => some ((t * orbit.speed).cos * orbit.radius)
  | .positionZ => some ((t * orbit.speed).sin * orbit.radius)
  | _ => none

namespace Definition

variable (d : Definition) (t : Float32) (a : ActorDefinition) (c : Component)

-- The assignments that are active at a time in the order of their declaration, each with how far
-- its event has come.
def activeAssignments : List (Float32 × Assignment) :=
  (d.timeline.filter (·.isActive t)).flatMap fun e => e.properties.map (e.eased t, ·)

-- What the last of the active assignments to an actor that writes a component writes to it.
def lastValue? : Option Float32 :=
  (((d.activeAssignments t).filter (·.2.key.actor == a.id)).filterMap fun assigned =>
    assigned.2.change.value? assigned.1 (a.orbitRadius.getD defaultOrbitRadius) c).getLast?

-- What a frame writes to a component of an actor: the orbit of its own goes over the timeline.
def frameValue? : Option Float32 := (a.orbit.bind (·.value? t c)).or (d.lastValue? t a c)

theorem frameValue?_fixed (hc : c ∈ Component.fixed) : d.frameValue? t a c = none := by
  have horbit : a.orbit.bind (·.value? t c) = none := by
    rw [Option.bind_eq_none_iff]
    intro orbit _
    cases c <;> first | rfl | simp [Component.fixed] at hc
  have hchange : ∀ change eased radius, PropertyChange.value? eased radius change c = none := by
    intro change eased radius
    cases change <;> cases c <;> first | rfl | simp [Component.fixed] at hc
  simp [frameValue?, lastValue?, horbit, hchange]

end Definition

namespace Patch

-- What a patch writes to a component.
def value? (p : Patch) : Component → Option Float32
  | .positionX => p.x
  | .positionY => p.y.map (·.number)
  | .positionZ => p.z
  | .rotationY => p.turn
  | _ => none

theorem ofTransform_apply (p : Patch) (tf : Transform) (c : Component) :
    c.ofTransform (p.apply tf) = (p.value? c).getD (c.ofTransform tf) := by
  cases c <;> rfl

theorem value?_under (p q : Patch) (c : Component) :
    (p.under q).value? c = (q.value? c).or (p.value? c) := by
  cases c with
  | positionY => exact Option.map_or
  | _ => rfl

theorem value?_ofChange (change : PropertyChange) (eased orbitRadius : Float32) (c : Component) :
    (ofChange change eased orbitRadius).value? c = change.value? eased orbitRadius c := by
  cases change <;> cases c <;> rfl

-- Of patches one after the other the last that writes a component counts.
theorem value?_stack {α : Type} (patch : α → Patch) (l : List α) (c : Component) :
    (stack patch l).value? c = (l.filterMap fun a => (patch a).value? c).getLast? := by
  induction l using List.reverseRecOn with
  | nil => cases c <;> rfl
  | append_singleton l a ih =>
      rw [stack_concat, value?_under, ih, List.filterMap_append, List.getLast?_append]
      cases h : (patch a).value? c <;> simp [h]

end Patch

namespace Registry

variable {r : Registry} {index : Nat} {a : Actor}

theorem value?_assignmentPatch (h : r.Indexed) (hat : r.at? index = some a) (eased : Float32)
    (assignment : Assignment) (c : Component) :
    (r.assignmentPatch eased index assignment).value? c =
      if assignment.key.actor == a.id then
        assignment.change.value? eased (a.orbitRadius.getD defaultOrbitRadius) c
      else none := by
  have hindex : r.indexOf a.id = some index := by
    rw [h a.id index, ← at?_map_id, hat]
    rfl
  rw [assignmentPatch]
  by_cases hid : assignment.key.actor = a.id
  · rw [if_pos ((h.indexOf_eq_iff hindex _).mpr hid), if_pos (beq_iff_eq.mpr hid), hat,
      Patch.value?_ofChange]
    rfl
  · rw [if_neg (fun hfound => hid ((h.indexOf_eq_iff hindex _).mp hfound)),
      if_neg (fun heq => hid (beq_iff_eq.mp heq))]
    cases c <;> rfl

theorem value?_orbitPatch (hat : r.at? index = some a) (t : Float32) (c : Component) :
    (r.orbitPatch t index).value? c = a.orbit.bind (·.value? t c) := by
  rw [orbitPatch, hat, Option.bind_some]
  cases a.orbit <;> cases c <;> rfl

-- What a frame does to an actor, said of its definition alone.
theorem value?_framePatch {d : Definition} (h : r.Casts d.actors) (hat : r.at? index = some a)
    (hid : a.definition.id = a.id) (t : Float32) (c : Component) :
    (r.framePatch d.timeline t index).value? c = d.frameValue? t a.definition c := by
  rw [framePatch, Patch.value?_under, value?_orbitPatch hat, Definition.frameValue?]
  congr 1
  have hevent : ∀ e : TimelineEvent, (r.eventPatch t index e).value? c =
      ((e.properties.filter (·.key.actor == a.id)).filterMap fun assignment =>
        assignment.change.value? (e.eased t)
          (a.orbitRadius.getD defaultOrbitRadius) c).getLast? := by
    intro e
    rw [eventPatch, Patch.value?_stack, List.filterMap_filter]
    simp only [value?_assignmentPatch h.indexed hat]
  rw [Patch.value?_stack, Definition.lastValue?, Definition.activeAssignments, hid]
  simp only [hevent, List.filter_flatMap, List.filterMap_flatMap]
  rw [List.getLast?_flatMap, List.getLast?_filterMap]
  simp only [List.filter_map, List.filterMap_map]
  rfl

end Registry

-- Only what differs is committed, so that what is kept may be alike instead of the same.
theorem Actor.settle_apply_alike (a : Actor) (p : Patch) (c : Component) :
    Scalar.Alike (c.ofTransform (a.settle (p.apply a.transform)).transform)
      ((p.value? c).getD (c.ofTransform a.transform)) := by
  rw [← p.ofTransform_apply]
  exact Component.ofTransform_alike (a.settle_alike _).transform c

-- What is not written is exactly as it was, committed or not.
theorem Actor.settle_apply_eq (a : Actor) {p : Patch} {c : Component} (hc : p.value? c = none) :
    c.ofTransform (a.settle (p.apply a.transform)).transform = c.ofTransform a.transform := by
  rcases a.settle_transform (p.apply a.transform) with hsame | hnext
  · rw [hsame]
  · rw [hnext, p.ofTransform_apply, hc, Option.getD_none]

namespace Session

variable {σ : Type} [Stage σ] {d : Definition} {e : Session}

theorem actors_shown (e : Session) (t : Float32) :
    (e.shown t).registry.actors = e.registry.actors.mapIdx fun index a =>
      a.settle ((e.registry.framePatch e.definition.timeline t index).apply a.transform) := by
  apply List.ext_getElem?
  intro index
  have hstaged : (e.staged t)[index]? = _ := Registry.getElem?_staged _ _ _ _ _
  simp only [shown, Registry.getElem?_settleAll, hstaged, Registry.transforms, List.getElem?_map,
    List.getElem?_mapIdx]
  cases e.registry.actors[index]? <;> rfl

-- Each actor of a session is made from the first definition of its id.
theorem Underway.definition_of_at? (h : Underway d e) {index : Nat} {a : Actor}
    (hat : e.registry.at? index = some a) :
    d.actors.find? (·.id == a.id) = some a.definition ∧ a.definition.id = a.id := by
  have hget : e.registry.get? a.id = some a :=
    (h.casts.indexed.get?_iff a.id a).mpr ⟨List.mem_of_getElem? hat, rfl⟩
  have hfirst := h.casts.definition a.id
  rw [hget, Option.map_some] at hfirst
  exact ⟨hfirst.symm, by simpa using List.find?_some hfirst.symm⟩

-- What a frame at a time makes of an actor.
structure Rewrites (d : Definition) (t : Float32) (a a' : Actor) : Prop where
  role : a'.role = a.role
  definition : d.actors.find? (·.id == a.id) = some a.definition
  value : ∀ c : Component, Scalar.Alike (c.ofTransform a'.transform)
    ((d.frameValue? t a.definition c).getD (c.ofTransform a.transform))
  kept : ∀ c : Component, d.frameValue? t a.definition c = none ∨ c ∈ Component.fixed →
    c.ofTransform a'.transform = c.ofTransform a.transform

theorem Rewrites.written {t : Float32} {a a' : Actor} (h : Rewrites d t a a') (c : Component)
    {x : Float32} (hx : d.frameValue? t a.definition c = some x) :
    Scalar.Alike (c.ofTransform a'.transform) x := by
  simpa [hx] using h.value c

-- What is written last counts, component by component. In a frame that does not fail every actor
-- takes over what the timeline and the orbit of its own write, and the rest stays as it was.
theorem evaluate_rewrites (h : Underway d e) (t : Float32) (s : σ)
    (hok : (e.evaluate t s).1 = .ok ()) :
    List.Forall₂ (Rewrites d t) e.registry.actors (e.evaluate t s).2.1.registry.actors := by
  obtain ⟨s', -, heval⟩ | ⟨_, _, _, _, _, _, -, -, heval, -⟩ := e.evaluate_cases t s
  · rw [heval, actors_shown, h.definition_eq]
    refine List.forall₂_iff_get.mpr ⟨List.length_mapIdx.symm, fun index hindex _ => ?_⟩
    have hat : e.registry.at? index = some (e.registry.actors[index]) :=
      List.getElem?_eq_getElem hindex
    obtain ⟨hfirst, hid⟩ := h.definition_of_at? hat
    have hvalue := Registry.value?_framePatch h.casts hat hid t
    simp only [List.get_eq_getElem, List.getElem_mapIdx]
    refine ⟨Actor.settle_role _ _, hfirst, fun c => ?_, fun c hnone => ?_⟩
    · rw [← hvalue]
      exact Actor.settle_apply_alike _ _ c
    · apply Actor.settle_apply_eq
      rw [hvalue]
      exact hnone.elim id (d.frameValue?_fixed t _ c)
  · simp [heval] at hok

-- A ball on which the timeline puts an orbit and then a place, and a moon that it moves off an
-- orbit of its own. The ball comes to the place, and the moon goes only as high as it is told.
theorem ball_placed_moon_raised :
    let ball : ActorDefinition := { id := "ball", kind := .sphere, rotation := ⟨10, 20, 30⟩ }
    let moon : ActorDefinition :=
      { id := "moon"
        kind := .sphere
        metadata :=
          [("orbit_radius", .number (.integer 2)), ("orbit_speed", .number (.integer 3))] }
    let d : Definition :=
      { actors := [ball, moon]
        timeline :=
          [{ duration := 4
             properties :=
              [⟨⟨"ball", "rotation"⟩, .rotation 360⟩, ⟨⟨"ball", "orbit"⟩, .orbit 90⟩] },
            { duration := 2
              properties := [⟨⟨"ball", "position"⟩, .position ⟨2, 4, 6⟩⟩,
                ⟨⟨"moon", "position"⟩, .position ⟨1, 10, 1⟩⟩, ⟨⟨"ball", "color"⟩, .ignored⟩] },
            { time := 3, properties := [⟨⟨"ball", "position"⟩, .position ⟨9, 9, 9⟩⟩] }] }
    let loaded := load d (Screen.ofSize 20 5 1 1)
    ∃ e a b a' b', loaded.result = .ok e ∧ (e.evaluate 1 loaded.stage).1 = .ok () ∧
      e.registry.actors = [a, b] ∧
      (e.evaluate 1 loaded.stage).2.1.registry.actors = [a', b'] ∧
      Scalar.Alike a'.transform.position.x 1 ∧ Scalar.Alike a'.transform.position.y 2 ∧
      Scalar.Alike a'.transform.position.z 3 ∧ Scalar.Alike a'.transform.rotation.y (radians 90) ∧
      a'.transform.rotation.x = radians 10 ∧
      Scalar.Alike b'.transform.position.x ((1 * 3 : Float32).cos * 2) ∧
      Scalar.Alike b'.transform.position.y 5 ∧
      Scalar.Alike b'.transform.position.z ((1 * 3 : Float32).sin * 2) := by
  intro ball moon d loaded
  obtain ⟨e, hload : loaded.result = .ok e⟩ := load_ofSize d 20 5 1 1
  obtain ⟨s, heval⟩ := Screen.evaluate_eq e 1 loaded.stage
  have hok : (e.evaluate 1 loaded.stage).1 = .ok () := congrArg Prod.fst heval
  have hrewrites := evaluate_rewrites (.load hload) 1 loaded.stage hok
  have hstart : loaded.result.toOption.map (·.registry.actors.map fun a =>
      (a.id, a.transform.rotation.x)) = some [("ball", radians 10), ("moon", radians 0)] := by
    decide +kernel
  rw [hload] at hstart
  replace hstart : e.registry.actors.map (fun a => (a.id, a.transform.rotation.x)) =
    [("ball", radians 10), ("moon", radians 0)] := Option.some.inj hstart
  obtain ⟨a, b, hactors⟩ : ∃ a b, e.registry.actors = [a, b] :=
    List.length_eq_two.mp (by simpa using congrArg List.length hstart)
  rw [hactors] at hstart hrewrites
  obtain ⟨⟨ha, hturn⟩, hb, -⟩ : (a.id = "ball" ∧ a.transform.rotation.x = radians 10) ∧
      b.id = "moon" ∧ b.transform.rotation.x = radians 0 := by
    simpa using hstart
  obtain ⟨a', _, hball, hrest, hshown⟩ := List.forall₂_cons_left_iff.mp hrewrites
  obtain ⟨b', _, hmoon, hnone, rfl⟩ := List.forall₂_cons_left_iff.mp hrest
  rw [List.forall₂_nil_left_iff.mp hnone] at hshown
  have hfirst : a.definition = ball := by
    have hfound := hball.definition
    rw [ha] at hfound
    exact (Option.some.inj hfound).symm
  have hsecond : b.definition = moon := by
    have hfound := hmoon.definition
    rw [hb] at hfound
    exact (Option.some.inj hfound).symm
  have horbit : moon.orbit = some ⟨2, 3⟩ := by decide +kernel
  refine ⟨e, a, b, a', b', hload, hok, hactors, hshown, hball.written .positionX ?_,
    hball.written .positionY ?_, hball.written .positionZ ?_, hball.written .rotationY ?_,
    (hball.kept .rotationX (.inr (by decide))).trans hturn, hmoon.written .positionX ?_,
    hmoon.written .positionY ?_, hmoon.written .positionZ ?_⟩
  · rw [hfirst]
    decide +kernel
  · rw [hfirst]
    decide +kernel
  · rw [hfirst]
    decide +kernel
  · rw [hfirst]
    decide +kernel
  · rw [hsecond, Definition.frameValue?, horbit]
    rfl
  · rw [hsecond]
    decide +kernel
  · rw [hsecond, Definition.frameValue?, horbit]
    rfl

end Session

end Diorama
