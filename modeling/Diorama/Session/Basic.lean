import Diorama.Session.Staging

-- A session: an animation that has been set up on a stage and can be shown at any time. It keeps
-- what it last committed, and sends only what changes.

namespace Diorama

structure Session where
  definition : Definition
  registry : Registry
  camera : CameraState
  -- the position of the actor that the camera looks at
  follow : Option Nat
  views : List AnnotationView
  -- the time of the last frame
  time : Float32
deriving Inhabited

inductive LoadFault where
  | document (fault : DocumentFault)
  | stage (fault : StageFault)

def LoadFault.message : LoadFault → String
  | .document fault => "Failed to parse animation definition: " ++ fault.message
  | .stage fault => fault.message

structure Snapshot where
  time : Float32
  actors : List (String × Transform)
  camera : CameraState
  annotations : List AnnotationView
deriving DecidableEq

namespace Session

variable {σ : Type} [Stage σ]

def cameraState (d : Definition) : CameraState :=
  let camera := d.camera.getD {}
  ⟨camera.position, camera.target, camera.fov⟩

-- The actor that the camera is to follow, if it exists.
def followed (d : Definition) (r : Registry) : List Notice × Option Nat :=
  match (d.camera.getD {}).followActor with
  | none => ([], none)
  | some id =>
    match r.indexOf id with
    | some index => ([], some index)
    | none => ([.unknownFollow id], none)

-- Announces the annotations from a number on.
def announce : Nat → List Annotation → σ → Except StageFault Unit × σ
  | _, [], s => (.ok (), s)
  | index, a :: rest, s =>
    match Stage.perform (.createOverlay index a) s with
    | (.ok (), s) => announce (index + 1) rest s
    | (.error fault, s) => (.error fault, s)

def openView (d : Definition) (s : σ) : Except StageFault Unit × σ :=
  match Stage.perform (.setCamera (cameraState d)) s with
  | (.ok (), s) => announce 0 d.annotations s
  | (.error fault, s) => (.error fault, s)

def loadedNotice (d : Definition) (r : Registry) : Notice :=
  .loaded r.size d.timeline.length d.annotations.length d.duration d.looping

-- Sets an animation up. On failure nothing of it is left on the stage.
def load (d : Definition) (s : σ) : Outcome σ Session :=
  let built := Registry.build d.actors s
  match built.result with
  | .error fault => ⟨built.notices, .error fault, built.stage⟩
  | .ok r =>
    let (remarks, follow) := followed d r
    match openView d built.stage with
    | (.error fault, s) =>
      let (released, s) := r.discard s
      ⟨built.notices ++ remarks ++ released, .error fault, s⟩
    | (.ok (), s) =>
      let views := List.replicate d.annotations.length .hidden
      ⟨built.notices ++ remarks ++ [loadedNotice d r],
        .ok ⟨d, r, cameraState d, follow, views, 0⟩, s⟩

def ofText (text : String) (s : σ) : List Notice × Except LoadFault Session × σ :=
  let reading := Definition.ofText text
  match reading.result with
  | .error fault => (reading.notices, .error (.document fault), s)
  | .ok d =>
    let loaded := load d s
    (reading.notices ++ loaded.notices, loaded.result.mapError .stage, loaded.stage)

def staged (e : Session) (t : Float32) : List Transform :=
  e.registry.stageMotion t (e.registry.stageTimeline e.definition.timeline t e.registry.transforms)

def aim (e : Session) (s : σ) : Except StageFault Unit × CameraState × σ :=
  match e.follow.bind (e.registry.at? ·) with
  | none => (.ok (), e.camera, s)
  | some a =>
    if a.transform.position == e.camera.target then (.ok (), e.camera, s)
    else
      let camera := { e.camera with target := a.transform.position }
      let (result, s) := Stage.perform (.setCamera camera) s
      (result, camera, s)

-- Sends the views that differ from the last ones, from a number on.
def showViews (t : Float32) : Nat → List Annotation → List AnnotationView → σ →
    Except StageFault Unit × List AnnotationView × σ
  | index, a :: rest, view :: views, s =>
    let next := a.viewAt t
    if view == next then
      let (result, views, s) := showViews t (index + 1) rest views s
      (result, view :: views, s)
    else
      match Stage.perform (.updateOverlay index next) s with
      | (.error fault, s) => (.error fault, next :: views, s)
      | (.ok (), s) =>
        let (result, views, s) := showViews t (index + 1) rest views s
        (result, next :: views, s)
  | _, _, views, s => (.ok (), views, s)

-- Shows the scene at a time: actors, camera, annotations, and then the frame. What was written
-- down before a failure stays written down.
def evaluate (e : Session) (t : Float32) (s : σ) : Except StageFault Unit × Session × σ :=
  let (result, registry, s) := e.registry.commit (e.staged t) s
  let e := { e with registry }
  match result with
  | .error fault => (.error fault, e, s)
  | .ok () =>
    let (result, camera, s) := e.aim s
    let e := { e with camera }
    match result with
    | .error fault => (.error fault, e, s)
    | .ok () =>
      let (result, views, s) := showViews t 0 e.definition.annotations e.views s
      let e := { e with views }
      match result with
      | .error fault => (.error fault, e, s)
      | .ok () =>
        let e := { e with time := t }
        let (result, s) := Stage.perform .renderFrame s
        (result, e, s)

def remarks (e : Session) (t : Float32) : List Notice :=
  (e.registry.danglingKeys e.definition.timeline t).map .danglingKey

def snapshot (e : Session) : Snapshot where
  time := e.time
  actors := e.registry.actors.map fun a => (a.id, a.transform)
  camera := e.camera
  annotations := e.views

-- Takes all primitives away. The session cannot be shown any more.
def teardown (e : Session) (s : σ) : Except StageFault Unit × σ :=
  Registry.release e.registry.actors s

def duration (e : Session) : Float32 := e.definition.duration

def looping (e : Session) : Bool := e.definition.looping

end Session

end Diorama
