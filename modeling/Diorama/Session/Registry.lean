import Diorama.Animation.Definition
import Diorama.Stage.Basic

-- The actors of a session, each with the primitive that shows it and the transform that was last
-- committed for it.

namespace Diorama

structure Actor where
  id : String
  kind : ActorKind
  -- nothing for a placeholder, whose kind is not known
  handle : Option Handle
  transform : Transform
  definition : ActorDefinition
deriving Inhabited

namespace Actor

def isPlaceholder (a : Actor) : Bool := a.handle.isNone

def orbitRadius (a : Actor) : Option Float32 := a.definition.orbitRadius

def orbit (a : Actor) : Option Orbit := a.definition.orbit

end Actor

-- What came of an undertaking on a stage. The stage goes on also when it failed.
structure Outcome (σ α : Type) where
  notices : List Notice
  result : Except StageFault α
  stage : σ

-- Actors in the order of their creation, and the position of each id among them.
structure Registry where
  actors : List Actor := []
  positions : List (String × Nat) := []
deriving Inhabited

namespace Registry

variable {σ : Type} [Stage σ]

def empty : Registry := {}

def size (r : Registry) : Nat := r.actors.length

def indexOf (id : String) (r : Registry) : Option Nat := r.positions.lookup id

def at? (index : Nat) (r : Registry) : Option Actor := r.actors[index]?

def get? (id : String) (r : Registry) : Option Actor := (r.indexOf id).bind (r.at? ·)

def transforms (r : Registry) : List Transform := r.actors.map (·.transform)

def add (d : ActorDefinition) (handle : Option Handle) (r : Registry) : Registry where
  actors := r.actors ++ [⟨d.id, d.kind, handle, d.initialTransform, d⟩]
  positions := (d.id, r.size) :: r.positions

-- Makes a primitive and puts it in its place. If it cannot be placed it is taken away again.
def place (d : ActorDefinition) (p : Primitive) (s : σ) : Outcome σ Handle :=
  match Stage.create p s with
  | (.error fault, s) => ⟨[], .error fault, s⟩
  | (.ok handle, s) =>
    match Stage.perform (.setTransform handle d.initialTransform) s with
    | (.ok (), s) => ⟨[], .ok handle, s⟩
    | (.error fault, s) =>
      match Stage.perform (.destroyPrimitive handle) s with
      | (.ok (), s) => ⟨[], .error fault, s⟩
      | (.error second, s) => ⟨[.leftBehind d.id second], .error fault, s⟩

-- Creates one actor, at the position that is returned. An id that is taken stays with the first
-- definition. A kind that is not known makes a placeholder.
def createActor (d : ActorDefinition) (r : Registry) (s : σ) :
    Outcome σ (Option Nat) × Registry :=
  if (r.indexOf d.id).isSome then (⟨[.duplicateActor d.id], .ok none, s⟩, r)
  else
    match d.primitive? with
    | none => (⟨[.unknownKind d.kind.name d.id], .ok (some r.size), s⟩, r.add d none)
    | some p =>
      let placed := place d p s
      match placed.result with
      | .ok handle => (⟨placed.notices, .ok (some r.size), placed.stage⟩, r.add d (some handle))
      | .error fault => (⟨placed.notices, .error fault, placed.stage⟩, r)

-- Takes the primitives away one after the other, up to the first that the stage does not let go.
def release : List Actor → σ → Except StageFault Unit × σ
  | [], s => (.ok (), s)
  | a :: rest, s =>
    match a.handle with
    | none => release rest s
    | some handle =>
      match Stage.perform (.destroyPrimitive handle) s with
      | (.ok (), s) => release rest s
      | (.error fault, s) => (.error fault, s)

-- Empties the registry. The positions are kept when the stage fails.
def teardown (r : Registry) (s : σ) : Except StageFault Unit × Registry × σ :=
  match release r.actors s with
  | (.ok (), s) => (.ok (), empty, s)
  | (.error fault, s) => (.error fault, { r with actors := [] }, s)

def discard (r : Registry) (s : σ) : List Notice × σ :=
  match release r.actors s with
  | (.ok (), s) => ([], s)
  | (.error fault, s) => ([.notReleased fault], s)

def buildFrom (r : Registry) : List ActorDefinition → σ → Outcome σ Registry
  | [], s => ⟨[], .ok r, s⟩
  | d :: rest, s =>
    let (created, r) := r.createActor d s
    match created.result with
    | .ok _ =>
      let built := buildFrom r rest created.stage
      ⟨created.notices ++ built.notices, built.result, built.stage⟩
    | .error fault =>
      let (notices, s) := r.discard created.stage
      ⟨created.notices ++ notices, .error fault, s⟩

-- One actor for each definition with an id of its own. On failure nothing is left on the stage.
def build (definitions : List ActorDefinition) (s : σ) : Outcome σ Registry :=
  empty.buildFrom definitions s

-- Writes staged transforms back. Only those that differ from what was committed are sent.
def commitActors : List Actor → List Transform → σ → Except StageFault Unit × List Actor × σ
  | a :: actors, next :: staged, s =>
    if a.transform == next then
      let (result, actors, s) := commitActors actors staged s
      (result, a :: actors, s)
    else
      let moved := { a with transform := next }
      match a.handle with
      | none =>
        let (result, actors, s) := commitActors actors staged s
        (result, moved :: actors, s)
      | some handle =>
        match Stage.perform (.setTransform handle next) s with
        | (.error fault, s) => (.error fault, moved :: actors, s)
        | (.ok (), s) =>
          let (result, actors, s) := commitActors actors staged s
          (result, moved :: actors, s)
  | actors, _, s => (.ok (), actors, s)

def commit (r : Registry) (staged : List Transform) (s : σ) :
    Except StageFault Unit × Registry × σ :=
  let (result, actors, s) := commitActors r.actors staged s
  (result, { r with actors }, s)

end Registry

end Diorama
