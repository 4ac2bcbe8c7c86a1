import Diorama.Proofs.Session.Permanence
import Diorama.Proofs.Session.Pruning

namespace Diorama

open Stage (performAll)

theorem Order.entry_eq_renderFrame {order : Order} (h : order.entry = .renderFrame) :
    order = .renderFrame := by
  cases order with
  | renderFrame => rfl
  | _ => cases h

namespace Recorder

-- Orders that were all carried out are all written down, in their order.
theorem performAll_log {orders : List Order} {s s' : Recorder}
    (h : performAll orders s = (.ok (), s')) :
    s'.log.toList = s.log.toList ++ orders.map Order.entry := by
  induction orders generalizing s with
  | nil =>
      obtain rfl : s = s' := congrArg Prod.snd h
      simp
  | cons order rest ih =>
      obtain ⟨middle, hfirst, hrest⟩ := Stage.performAll_cons_inv h
      obtain ⟨-, hlog, -⟩ := perform_ok hfirst
      rw [ih hrest, hlog]
      simp

end Recorder

namespace Session

-- What is written down about the actors when they are to stand at new places: the transform of each
-- that differs from its old one, if there is a primitive to move.
def movedEntries (actors : List Actor) (staged : List Transform) : List Entry :=
  (actors.zip staged).filterMap fun (a, next) =>
    if a.transform == next then none else a.handle.map (.setTransform · next)

-- The actor that the camera of a definition is to follow, if it takes part.
def followedActor (d : Definition) (r : Registry) : Option Actor :=
  (d.camera.getD {}).followActor.bind (r.get? ·)

-- What is written down about the camera: that it looks at the actor, if it did not already.
def turnedEntries (camera : CameraState) : Option Actor → List Entry
  | none => []
  | some a =>
    if a.transform.position == camera.target then []
    else [.setCamera { camera with target := a.transform.position }]

-- What is written down about the annotations: each view that differs from the old one.
def revealedEntries (t : Float32) (annotations : List Annotation) (views : List AnnotationView) :
    List Entry :=
  (annotations.zip views).zipIdx.filterMap fun ((a, view), index) =>
    if view == a.viewAt t then none else some (.updateOverlay index (a.viewAt t))

theorem map_entry_moves (actors : List Actor) (staged : List Transform) :
    (Registry.moves actors staged).map Order.entry = movedEntries actors staged := by
  induction actors generalizing staged with
  | nil => simp [Registry.moves, movedEntries]
  | cons a actors ih =>
      cases staged with
      | nil => simp [Registry.moves, movedEntries]
      | cons next staged =>
          have hrest : (Registry.moves actors staged).map Order.entry =
              (actors.zip staged).filterMap _ := ih staged
          rw [Registry.moves, List.map_append, hrest, movedEntries, List.zip_cons_cons,
            List.filterMap_cons]
          by_cases h : a.transform == next
          · simp [Actor.move?, h]
          · cases hh : a.handle <;> simp [Actor.move?, h, hh, Order.entry]

theorem settleAll_eq_zipWith {actors : List Actor} {staged : List Transform}
    (h : staged.length = actors.length) :
    Registry.settleAll actors staged = List.zipWith Actor.settle actors staged := by
  induction actors generalizing staged with
  | nil => simp [Registry.settleAll]
  | cons a actors ih =>
      cases staged with
      | nil => cases h
      | cons next staged => simp [Registry.settleAll, ih (Nat.succ.inj h)]

theorem map_entry_turn (camera : CameraState) (followed : Option Actor) :
    (camera.turn? (followed.map (·.transform.position))).toList.map Order.entry =
      turnedEntries camera followed := by
  cases followed with
  | none => rfl
  | some a =>
      by_cases h : a.transform.position == camera.target <;>
        simp [CameraState.turn?, turnedEntries, h, Order.entry]

-- The views before a number were dealt with.
theorem map_entry_reveals (t : Float32) (index : Nat) (annotations : List Annotation)
    (views : List AnnotationView) :
    (reveals t index annotations views).map Order.entry =
      ((annotations.zip views).zipIdx index).filterMap fun ((a, view), index) =>
        if view == a.viewAt t then none else some (.updateOverlay index (a.viewAt t)) := by
  induction annotations generalizing index views with
  | nil => simp [reveals]
  | cons a rest ih =>
      cases views with
      | nil => simp [reveals]
      | cons view views =>
          rw [reveals, List.map_append, ih, List.zip_cons_cons, List.zipIdx_cons,
            List.filterMap_cons]
          by_cases h : view == a.viewAt t <;> simp [h, Order.entry]

-- A frame leaves the ids where they are, and so the camera follows the actor that it was set on.
theorem Underway.follow_eq {d : Definition} {e : Session} (h : Underway d e) :
    e.follow = (d.camera.getD {}).followActor.bind e.registry.indexOf := by
  induction h with
  | load h =>
      obtain ⟨r, -, rfl⟩ := load_ok_inv h
      simp only [followed]
      cases (d.camera.getD {}).followActor with
      | none => rfl
      | some id => cases hindex : r.indexOf id <;> simp [hindex]
  | @evaluate _ _ e _ t s ih =>
      have hfollow : (e.evaluate t s).2.1.follow = e.follow :=
        evaluate_keeps (f := Session.follow) (fun _ _ => rfl) e t s
      have hpositions : (e.evaluate t s).2.1.registry.positions = e.registry.positions :=
        evaluate_keeps (f := fun e => e.registry.positions) (fun _ _ => rfl) e t s
      have hindex : (e.evaluate t s).2.1.registry.indexOf = e.registry.indexOf := by
        funext id
        simp only [Registry.indexOf, hpositions]
      rw [hfollow, ih, hindex]

theorem Underway.length_views {d : Definition} {e : Session} (h : Underway d e) :
    e.views.length = d.annotations.length := by
  induction h with
  | load h =>
      obtain ⟨r, -, rfl⟩ := load_ok_inv h
      simp
  | @evaluate _ _ e _ t s ih =>
      rw [← ih]
      exact evaluate_keeps (f := fun e => e.views.length)
        (fun e t => length_settleViews t e.definition.annotations e.views) e t s

-- What the camera looks at in a frame is where the actor that it follows stands once it has moved.
theorem Underway.focus_eq {d : Definition} {e : Session} (h : Underway d e) (t : Float32) :
    e.focus t = (followedActor d (e.shown t).registry).map (·.transform.position) := by
  rw [focus, gaze, h.follow_eq, followedActor]
  cases (d.camera.getD {}).followActor with
  | none => rfl
  | some id => rfl

-- The orders of a frame as they are written down. Only the last of them draws it.
theorem Underway.map_entry_orders {d : Definition} {e : Session} (h : Underway d e) (t : Float32) :
    ∃ changes, (e.orders t).map Order.entry = changes ++ [.renderFrame] ∧
      .renderFrame ∉ changes ∧
      changes = movedEntries e.registry.actors (e.staged t) ++
        (turnedEntries e.camera (followedActor d (e.shown t).registry) ++
          revealedEntries t d.annotations e.views) := by
  obtain ⟨before, horders, hbefore⟩ := e.orders_eq t
  have hentries : (e.orders t).map Order.entry = before.map Order.entry ++ [.renderFrame] := by
    rw [horders, List.map_append]
    rfl
  refine ⟨before.map Order.entry, hentries, ?_, ?_⟩
  · intro hmem
    obtain ⟨order, horder, hentry⟩ := List.mem_map.mp hmem
    exact hbefore (Order.entry_eq_renderFrame hentry ▸ horder)
  · refine (List.append_left_inj [Entry.renderFrame]).mp ?_
    rw [← hentries, orders, List.map_append, List.map_append, List.map_append, map_entry_moves,
      h.focus_eq, map_entry_turn, map_entry_reveals, h.definition_eq, List.append_assoc,
      List.append_assoc]
    rfl

-- What a frame adds to the record of a stage, if it succeeds: what differs from the last frame,
-- actors first, then the camera, then the annotations, and then that it was drawn. An actor without
-- a primitive is moved too, but nothing is written down about it.
theorem evaluate_sends {d : Definition} {e e' : Session} {t : Float32} {s s' : Recorder}
    (h : Underway d e) (hframe : e.evaluate t s = (.ok (), e', s')) :
    (e.staged t).length = e.registry.actors.length ∧ e.views.length = d.annotations.length ∧
      e'.registry.actors = List.zipWith Actor.settle e.registry.actors (e.staged t) ∧
      ∃ changes, s'.log.toList = s.log.toList ++ (changes ++ [.renderFrame]) ∧
        .renderFrame ∉ changes ∧
        changes = movedEntries e.registry.actors (e.staged t) ++
          (turnedEntries e.camera (followedActor d e'.registry) ++
            revealedEntries t d.annotations e.views) := by
  rcases e.evaluate_cases t s with ⟨_, hall, heval⟩ | ⟨_, _, _, _, _, _, -, -, heval, -⟩
  · obtain ⟨rfl, rfl⟩ : e.shown t = e' ∧ _ = s' := by simpa [hframe] using heval.symm
    obtain ⟨changes, hentries, hchanges⟩ := h.map_entry_orders t
    exact ⟨e.length_staged t, h.length_views, settleAll_eq_zipWith (e.length_staged t), changes,
      by rw [Recorder.performAll_log hall, hentries], hchanges⟩
  · simp [hframe] at heval

-- Of two frames the second, half a second after the first: the ball has moved on and the camera
-- with it, and so has the ghost, which nobody sees; the stone lies still. The first annotation is
-- gone, the second is not there yet.
theorem ball_followed_sends :
    let push (id : String) : Assignment := ⟨⟨id, "position"⟩, .position ⟨4, 0, 0⟩⟩
    let d : Definition :=
      { actors := [{ id := "ghost", kind := .unknown "mist" }, { id := "stone", kind := .cube },
          { id := "ball", kind := .sphere }]
        camera := some { followActor := some "ball" }
        timeline := [{ properties := [push "ghost", push "ball"] }]
        annotations := [{ text := "a", duration := 0.5 }, { text := "b", time := 5 }] }
    ∃ first, (load d Recorder.fresh).result = .ok first ∧
      let before := first.evaluate 0.5 (load d Recorder.fresh).stage
      let after := before.2.1.evaluate 1 before.2.2
      after.1 = .ok () ∧
        after.2.2.log.toList = before.2.2.log.toList ++
          [.setTransform ⟨1⟩ { position := ⟨4, 0, 0⟩, rotation := .zero, scale := .one },
            .setCamera ⟨⟨0, 0, 10⟩, ⟨4, 0, 0⟩, 75⟩, .updateOverlay 0 .hidden, .renderFrame] ∧
        (after.2.1.registry.get? "ghost").map (·.transform.position) = some ⟨4, 0, 0⟩ := by
  intro push d
  refine ⟨_, rfl, ?_⟩
  intro before after
  have hload : (load d Recorder.fresh).result = .ok _ := rfl
  have hunderway : Underway d before.2.1 := (Underway.load hload).evaluate 0.5 _
  have hok : after.1 = .ok () := by decide +kernel
  have hframe : before.2.1.evaluate 1 before.2.2 = (.ok (), after.2.1, after.2.2) :=
    Prod.ext hok rfl
  obtain ⟨-, -, -, changes, hlog, -, hchanges⟩ := evaluate_sends hunderway hframe
  refine ⟨hok, ?_, by decide +kernel⟩
  rw [hlog, hchanges]
  decide +kernel

end Session

end Diorama
