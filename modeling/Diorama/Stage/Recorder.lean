import Diorama.Stage.Basic
import Diorama.Table

-- A stage in memory that writes down every order it carries out.

namespace Diorama

-- An order that was carried out, with the handle that came of it.
inductive Entry where
  | createPrimitive (handle : Handle) (primitive : Primitive)
  | setTransform (handle : Handle) (transform : Transform)
  | destroyPrimitive (handle : Handle)
  | setCamera (camera : CameraState)
  | createOverlay (index : Nat) (text : String)
  | updateOverlay (index : Nat) (view : AnnotationView)
  | renderFrame
deriving DecidableEq, Inhabited

structure RecordedPrimitive where
  primitive : Primitive
  transform : Transform
deriving DecidableEq

-- What stands on the stage.
structure Scenery where
  primitives : Table RecordedPrimitive := {}
  annotations : Table AnnotationView := {}
  camera : Option CameraState := none
  framesRendered : Nat := 0
deriving DecidableEq

def Scenery.apply (s : Scenery) : Entry → Scenery
  | .createPrimitive handle primitive =>
    { s with primitives := s.primitives.set handle.number ⟨primitive, .rest⟩ }
  | .setTransform handle transform =>
    { s with primitives := s.primitives.modify handle.number ({ · with transform }) }
  | .destroyPrimitive handle => { s with primitives := s.primitives.erase handle.number }
  | .setCamera camera => { s with camera := some camera }
  | .createOverlay index _ => { s with annotations := s.annotations.set index .hidden }
  | .updateOverlay index view => { s with annotations := s.annotations.set index view }
  | .renderFrame => { s with framesRendered := s.framesRendered + 1 }

structure Recorder where
  log : Array Entry := #[]
  primitives : Table RecordedPrimitive := {}
  annotations : Table AnnotationView := {}
  camera : Option CameraState := none
  framesRendered : Nat := 0
  nextHandle : Nat := 0
  -- how many primitives can still be made, if there is a limit
  createsLeft : Option Nat := none
  overlays : Bool := true
  -- no primitive has a handle that was not given out yet
  unused : ∀ key, nextHandle ≤ key → primitives.get? key = none := by exact fun _ _ => rfl

namespace Recorder

-- A stage on which nothing was done yet.
def fresh : Recorder := {}

-- A stage that could not be set up: no primitive can be made.
def failing : Recorder := { createsLeft := some 0 }

-- A stage that makes so many primitives and then fails.
def failingAfter (n : Nat) : Recorder := { createsLeft := some n }

def withoutOverlays : Recorder := { overlays := false }

def write (r : Recorder) (entry : Entry) : Recorder := { r with log := r.log.push entry }

def create (primitive : Primitive) (r : Recorder) : Except StageFault Handle × Recorder :=
  if r.createsLeft = some 0 then (.error .noRenderTarget, r)
  else
    let handle : Handle := ⟨r.nextHandle⟩
    let made := { r with
      createsLeft := r.createsLeft.map (· - 1)
      nextHandle := r.nextHandle + 1
      primitives := r.primitives.set handle.number ⟨primitive, .rest⟩
      unused := fun key hkey => by
        simp [handle, show key ≠ r.nextHandle by omega, r.unused key (by omega)] }
    (.ok handle, made.write (.createPrimitive handle primitive))

def perform (order : Order) (r : Recorder) : Except StageFault Unit × Recorder :=
  match order with
  | .setTransform handle transform =>
    if r.primitives.contains handle.number then
      let moved := { r with
        primitives := r.primitives.modify handle.number ({ · with transform })
        unused := fun key hkey => by simp [r.unused key hkey] }
      (.ok (), moved.write (.setTransform handle transform))
    else (.error (.unknownPrimitive handle), r)
  | .renderFrame =>
    (.ok (), { r with framesRendered := r.framesRendered + 1 }.write .renderFrame)
  | .destroyPrimitive handle =>
    if r.primitives.contains handle.number then
      let left := { r with
        primitives := r.primitives.erase handle.number
        unused := fun key hkey => by simp [r.unused key hkey] }
      (.ok (), left.write (.destroyPrimitive handle))
    else (.error (.unknownPrimitive handle), r)
  | .setCamera camera => (.ok (), { r with camera := some camera }.write (.setCamera camera))
  | .createOverlay index a =>
    if r.overlays then
      let shown := { r with annotations := r.annotations.set index .hidden }
      (.ok (), shown.write (.createOverlay index a.text))
    else (.error .noOverlays, r)
  | .updateOverlay index view =>
    let shown := { r with annotations := r.annotations.set index view }
    (.ok (), shown.write (.updateOverlay index view))

instance : Stage Recorder where
  create := create
  perform := perform

def primitive? (r : Recorder) (handle : Handle) : Option RecordedPrimitive :=
  r.primitives.get? handle.number

def scenery (r : Recorder) : Scenery :=
  ⟨r.primitives, r.annotations, r.camera, r.framesRendered⟩

-- What the record says about the stage: its entries one after the other, from an empty stage on.
def replay (log : List Entry) : Scenery := log.foldl Scenery.apply {}

end Recorder

end Diorama
