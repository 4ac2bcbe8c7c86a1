import Mathlib.Data.List.Induction
import Diorama.Session.Staging
import Diorama.Proofs.Registry.Consistency

namespace Diorama

-- What a moment makes of a transform: some components take a value that does not depend on the
-- transform, and the others stay. No other components are ever written.
structure Patch where
  x : Option Float32 := none
  y : Option Height := none
  z : Option Float32 := none
  turn : Option Float32 := none

namespace Patch

-- A height that is taken comes with its number.
theorem number_getD (y : Option Height) (tf : Transform) :
    (y.getD tf.height).number = (y.map (·.number)).getD tf.position.y := by
  cases y with
  | none => exact tf.height_eq
  | some height => rfl

def apply (p : Patch) (tf : Transform) : Transform where
  position := ⟨p.x.getD tf.position.x, (p.y.map (·.number)).getD tf.position.y,
    p.z.getD tf.position.z⟩
  rotation := { tf.rotation with y := p.turn.getD tf.rotation.y }
  scale := tf.scale
  height := p.y.getD tf.height
  height_eq := number_getD p.y tf

-- One patch and then another that covers it.
def under (p q : Patch) : Patch := ⟨q.x.or p.x, q.y.or p.y, q.z.or p.z, q.turn.or p.turn⟩

@[simp] theorem apply_blank : ({} : Patch).apply = id := rfl

theorem apply_under (p q : Patch) (tf : Transform) :
    (p.under q).apply tf = q.apply (p.apply tf) := by
  simp only [apply, under, Transform.mk.injEq, Vec3.mk.injEq, true_and, and_true]
  refine ⟨⟨?_, ?_, ?_⟩, ?_, ?_⟩
  · cases q.x <;> rfl
  · cases q.y <;> rfl
  · cases q.z <;> rfl
  · cases q.turn <;> rfl
  · cases q.y <;> rfl

-- Nothing that a patch writes is read by it.
theorem apply_apply (p : Patch) (tf : Transform) : p.apply (p.apply tf) = p.apply tf := by
  simp only [apply, Transform.mk.injEq, Vec3.mk.injEq, true_and, and_true]
  refine ⟨⟨?_, ?_, ?_⟩, ?_, ?_⟩
  · cases p.x <;> rfl
  · cases p.y <;> rfl
  · cases p.z <;> rfl
  · cases p.turn <;> rfl
  · cases p.y <;> rfl

def circle (angle radius : Float32) : Patch where
  x := some (angle.cos * radius)
  z := some (angle.sin * radius)

def ofChange (change : PropertyChange) (eased orbitRadius : Float32) : Patch :=
  match change with
  | .orbit degrees => circle (radians (degrees * eased)) orbitRadius
  | .rotation degrees => { turn := some (radians (degrees * eased)) }
  | .position target =>
    ⟨(target.scale eased).x, some (.product target.y eased), (target.scale eased).z, none⟩
  | .ignored => {}

theorem apply_ofChange (change : PropertyChange) (eased orbitRadius : Float32) (tf : Transform) :
    (ofChange change eased orbitRadius).apply tf = change.apply eased orbitRadius tf := by
  cases change <;> rfl

-- Patches one after the other.
def stack {α : Type} (patch : α → Patch) (l : List α) : Patch :=
  l.foldl (fun p a => p.under (patch a)) {}

theorem getElem?_foldl {α : Type} {step : List Transform → α → List Transform} {patch : α → Patch}
    {index : Nat} (hstep : ∀ staged a, (step staged a)[index]? = staged[index]?.map (patch a).apply)
    (l : List α) (staged : List Transform) :
    (l.foldl step staged)[index]? = staged[index]?.map (stack patch l).apply := by
  induction l using List.reverseRecOn with
  | nil => simp [stack]
  | append_singleton l a ih =>
      simp only [List.foldl_append, List.foldl_cons, List.foldl_nil, hstep, ih, stack,
        Option.map_map]
      congr 1
      funext tf
      exact (apply_under _ _ tf).symm

end Patch

namespace Registry

-- What an assignment makes of the actor at a position.
def assignmentPatch (r : Registry) (eased : Float32) (index : Nat) (a : Assignment) : Patch :=
  if r.indexOf a.key.actor = some index then
    .ofChange a.change eased (((r.at? index).bind (·.orbitRadius)).getD defaultOrbitRadius)
  else {}

def eventPatch (r : Registry) (t : Float32) (index : Nat) (e : TimelineEvent) : Patch :=
  .stack (r.assignmentPatch (e.eased t) index) e.properties

def orbitPatch (r : Registry) (t : Float32) (index : Nat) : Patch :=
  match (r.at? index).bind (·.orbit) with
  | some orbit => .circle (t * orbit.speed) orbit.radius
  | none => {}

-- All that a moment makes of the actor at a position.
def framePatch (r : Registry) (events : List TimelineEvent) (t : Float32) (index : Nat) : Patch :=
  (Patch.stack (r.eventPatch t index) (events.filter (·.isActive t))).under (r.orbitPatch t index)

theorem getElem?_stageAssignment (r : Registry) (eased : Float32) (index : Nat)
    (staged : List Transform) (a : Assignment) :
    (r.stageAssignment eased staged a)[index]? =
      staged[index]?.map (r.assignmentPatch eased index a).apply := by
  simp only [stageAssignment, assignmentPatch]
  cases h : r.indexOf a.key.actor with
  | none => simp
  | some other =>
      by_cases ho : other = index
      · subst ho
        simp only [List.getElem?_modify, ↓reduceIte]
        congr 1
        funext tf
        exact (Patch.apply_ofChange _ _ _ tf).symm
      · simp [ho]

theorem getElem?_stageEvent (r : Registry) (t : Float32) (index : Nat) (staged : List Transform)
    (e : TimelineEvent) :
    (r.stageEvent t staged e)[index]? = staged[index]?.map (r.eventPatch t index e).apply :=
  Patch.getElem?_foldl (fun staged a => r.getElem?_stageAssignment (e.eased t) index staged a) _ _

theorem getElem?_stageOrbits (actors : List Actor) (t : Float32) (staged : List Transform)
    (index : Nat) :
    (stageOrbits actors t staged)[index]? =
      staged[index]?.map fun tf => (actors[index]?.map (stageOrbit t · tf)).getD tf := by
  induction actors generalizing staged index with
  | nil => simp [stageOrbits]
  | cons a actors ih =>
      cases staged with
      | nil => simp [stageOrbits]
      | cons tf staged =>
          cases index with
          | zero => rfl
          | succ index => simpa [stageOrbits] using ih staged index

theorem getElem?_stageMotion (r : Registry) (t : Float32) (staged : List Transform) (index : Nat) :
    (r.stageMotion t staged)[index]? = staged[index]?.map (r.orbitPatch t index).apply := by
  rw [stageMotion, getElem?_stageOrbits]
  congr 1
  funext tf
  simp only [orbitPatch, at?]
  cases r.actors[index]? with
  | none => rfl
  | some a =>
      simp only [Option.map_some, Option.getD_some, Option.bind_some, stageOrbit]
      cases a.orbit with
      | none => rfl
      | some orbit => rfl

-- Staging changes each transform by a patch of its own.
theorem getElem?_staged (r : Registry) (events : List TimelineEvent) (t : Float32) (index : Nat)
    (staged : List Transform) :
    (r.stageMotion t (r.stageTimeline events t staged))[index]? =
      staged[index]?.map (r.framePatch events t index).apply := by
  rw [getElem?_stageMotion, stageTimeline,
    Patch.getElem?_foldl (fun staged e => r.getElem?_stageEvent t index staged e), Option.map_map]
  congr 1
  funext tf
  exact (Patch.apply_under _ _ tf).symm

-- The patch depends on nothing but which ids lead to the actor and what its definition is.
theorem framePatch_eq_of_definition {r r' : Registry} {index index' : Nat}
    (hindexOf : ∀ id, r.indexOf id = some index ↔ r'.indexOf id = some index')
    (hdefinition : (r.at? index).map (·.definition) = (r'.at? index').map (·.definition))
    (events : List TimelineEvent) (t : Float32) :
    r.framePatch events t index = r'.framePatch events t index' := by
  have hradius : (r.at? index).bind (·.orbitRadius) = (r'.at? index').bind (·.orbitRadius) := by
    simpa [Option.bind_map, Function.comp_def, Actor.orbitRadius] using
      congrArg (·.bind (·.orbitRadius)) hdefinition
  have horbit : (r.at? index).bind (·.orbit) = (r'.at? index').bind (·.orbit) := by
    simpa [Option.bind_map, Function.comp_def, Actor.orbit] using
      congrArg (·.bind (·.orbit)) hdefinition
  have hassignment : ∀ eased, r.assignmentPatch eased index = r'.assignmentPatch eased index' := by
    intro eased
    funext a
    simp only [assignmentPatch, hindexOf, hradius]
  have hevent : r.eventPatch t index = r'.eventPatch t index' := by
    funext e
    simp only [eventPatch, hassignment]
  simp only [framePatch, orbitPatch, hevent, horbit]

-- It does not depend on where the actors stand.
theorem framePatch_congr {r r' : Registry} (hpositions : r'.positions = r.positions)
    (hcast : r'.cast = r.cast) (events : List TimelineEvent) (t : Float32) (index : Nat) :
    r'.framePatch events t index = r.framePatch events t index := by
  apply framePatch_eq_of_definition
  · intro id
    simp [indexOf, hpositions]
  · have hat : (r'.at? index).map Actor.role = (r.at? index).map Actor.role := by
      simpa [at?, cast] using congrArg (·[index]?) hcast
    simpa [Actor.role, Function.comp_def] using congrArg (Option.map (·.definition)) hat

end Registry

end Diorama
