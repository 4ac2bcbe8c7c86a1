import Diorama.Stage.Fault
import Diorama.Animation.Annotation

-- Stages: whatever shows an animation. A stage makes primitives, moves them and draws frames when
-- it is told to. Everything that it may be told apart from making a primitive is an order.

namespace Diorama

inductive Order where
  | setTransform (handle : Handle) (transform : Transform)
  | renderFrame
  | destroyPrimitive (handle : Handle)
  | setCamera (camera : CameraState)
  -- overlays are numbered as in the definition, and start hidden
  | createOverlay (index : Nat) (a : Annotation)
  | updateOverlay (index : Nat) (view : AnnotationView)

def Order.request : Order → Request
  | .setTransform _ _ => .setTransform
  | .renderFrame => .renderFrame
  | .destroyPrimitive _ => .destroyPrimitive
  | .setCamera _ => .setCamera
  | .createOverlay _ _ => .createOverlay
  | .updateOverlay _ _ => .updateOverlay

-- A stage goes on from where it is also when it fails.
class Stage (σ : Type) where
  create : Primitive → σ → Except StageFault Handle × σ
  perform : Order → σ → Except StageFault Unit × σ

-- A stage that gives out handles in turn and keeps nothing but the requests that it cannot do
-- without; the other orders are done by doing nothing.
structure BareStage where
  nextHandle : Nat := 0
  requests : Array Request := #[]

instance : Stage BareStage where
  create _ s :=
    (.ok ⟨s.nextHandle⟩, ⟨s.nextHandle + 1, s.requests.push .createPrimitive⟩)
  perform order s :=
    match order with
    | .setTransform _ _ | .renderFrame =>
      (.ok (), { s with requests := s.requests.push order.request })
    | _ => (.ok (), s)

-- A stage that refuses some requests before they reach it: the plan names them by their position
-- among all requests of the same kind.
structure RefusingStage (σ : Type) where
  inner : σ
  plan : Request → Nat → Bool := fun _ _ => false
  asked : List (Request × Nat) := []

namespace RefusingStage

variable {σ : Type}

def timesAsked (s : RefusingStage σ) (request : Request) : Nat :=
  (s.asked.lookup request).getD 0

def refuses (s : RefusingStage σ) (request : Request) : Bool :=
  s.plan request (s.timesAsked request)

def count (s : RefusingStage σ) (request : Request) : RefusingStage σ :=
  let others := s.asked.filter fun entry => entry.1 != request
  { s with asked := (request, s.timesAsked request + 1) :: others }

instance [Stage σ] : Stage (RefusingStage σ) where
  create primitive s :=
    let counted := s.count .createPrimitive
    if s.refuses .createPrimitive then (.error (.refused .createPrimitive), counted)
    else
      let (result, inner) := Stage.create primitive s.inner
      (result, { counted with inner })
  perform order s :=
    let counted := s.count order.request
    if s.refuses order.request then (.error (.refused order.request), counted)
    else
      let (result, inner) := Stage.perform order s.inner
      (result, { counted with inner })

end RefusingStage

end Diorama
