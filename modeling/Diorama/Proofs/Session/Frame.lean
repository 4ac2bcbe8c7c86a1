import Diorama.Session.Basic
import Diorama.Proofs.Registry.Commit
import Diorama.Proofs.Session.Patch

namespace Diorama

open Stage (performAll BreaksAt)

variable {σ : Type} [Stage σ]

namespace CameraState

-- The camera once it looks at a point, if there is one to look at.
def settle (camera : CameraState) (target : Option Vec3) : CameraState :=
  match target with
  | none => camera
  | some p => if p == camera.target then camera else { camera with target := p }

-- The order that goes with it.
def turn? (camera : CameraState) (target : Option Vec3) : Option Order :=
  match target with
  | none => none
  | some p => if p == camera.target then none else some (.setCamera { camera with target := p })

theorem settle_settle (camera : CameraState) (target : Option Vec3) :
    (camera.settle target).settle target = camera.settle target := by
  cases target with
  | none => rfl
  | some p => by_cases h : p == camera.target <;> simp [settle, h]

theorem turn?_settle (camera : CameraState) (target : Option Vec3) :
    ((camera.settle target).turn? target).toList =
      (camera.turn? target).toList.filter Order.recurs := by
  cases target with
  | none => rfl
  | some p =>
      by_cases h : p == camera.target
      · simp [settle, turn?, h]
      · by_cases hp : p == p <;> simp [settle, turn?, h, hp, Order.recurs]

end CameraState

namespace Session

def settleViews (t : Float32) : List Annotation → List AnnotationView → List AnnotationView
  | a :: rest, view :: views =>
    (if view == a.viewAt t then view else a.viewAt t) :: settleViews t rest views
  | _, views => views

-- The orders for the views that differ, from a number on.
def reveals (t : Float32) : Nat → List Annotation → List AnnotationView → List Order
  | index, a :: rest, view :: views =>
    (if view == a.viewAt t then [] else [.updateOverlay index (a.viewAt t)]) ++
      reveals t (index + 1) rest views
  | _, _, _ => []

theorem settleViews_settleViews (t : Float32) (annotations : List Annotation)
    (views : List AnnotationView) :
    settleViews t annotations (settleViews t annotations views) = settleViews t annotations views := by
  induction annotations generalizing views with
  | nil => simp [settleViews]
  | cons a rest ih =>
      cases views with
      | nil => simp [settleViews]
      | cons view views => by_cases h : view == a.viewAt t <;> simp [settleViews, h, ih]

theorem reveals_settleViews (t : Float32) (index : Nat) (annotations : List Annotation)
    (views : List AnnotationView) :
    reveals t index annotations (settleViews t annotations views) =
      (reveals t index annotations views).filter Order.recurs := by
  induction annotations generalizing index views with
  | nil => simp [reveals]
  | cons a rest ih =>
      cases views with
      | nil => simp [settleViews, reveals]
      | cons view views =>
          by_cases h : view == a.viewAt t
          · simp [settleViews, reveals, h, ih]
          · by_cases hself : a.viewAt t == a.viewAt t <;>
              simp [settleViews, reveals, h, hself, ih, Order.recurs]

theorem showViews_ok {t : Float32} {index : Nat} {annotations : List Annotation}
    {views : List AnnotationView} {s s' : σ}
    (h : performAll (reveals t index annotations views) s = (.ok (), s')) :
    showViews t index annotations views s = (.ok (), settleViews t annotations views, s') := by
  induction annotations generalizing index views s with
  | nil =>
      obtain rfl : s = s' := congrArg Prod.snd h
      simp [showViews, settleViews]
  | cons a rest ih =>
      cases views with
      | nil =>
          obtain rfl : s = s' := congrArg Prod.snd h
          simp [showViews, settleViews]
      | cons view views =>
          rw [reveals] at h
          by_cases heq : view == a.viewAt t
          · rw [if_pos heq] at h
            simp [showViews, settleViews, heq, ih h]
          · rw [if_neg heq, List.singleton_append] at h
            obtain ⟨middle, hp, hrest⟩ := Stage.performAll_cons_inv h
            simp [showViews, settleViews, heq, hp, ih hrest]

-- As with the actors: what failed counts as shown.
theorem showViews_error {t : Float32} {index : Nat} {annotations : List Annotation}
    {views : List AnnotationView} {s s' : σ} {fault : StageFault}
    (h : performAll (reveals t index annotations views) s = (.error fault, s')) :
    ∃ before order after reached,
      reveals t index annotations views = before ++ order :: after ∧ BreaksAt order before s fault s' ∧
      showViews t index annotations views s = (.error fault, reached, s') ∧
      settleViews t annotations reached = settleViews t annotations views ∧
      reveals t index annotations reached = (before ++ [order]).filter Order.recurs ++ after := by
  induction annotations generalizing index views s with
  | nil => simp [reveals] at h
  | cons a rest ih =>
      cases views with
      | nil => simp [reveals] at h
      | cons view views =>
          rw [reveals] at h
          by_cases heq : view == a.viewAt t
          · rw [if_pos heq, List.nil_append] at h
            obtain ⟨before, order, after, reached, hreveals, hbreaks, hshow, hsettle, hrest⟩ := ih h
            refine ⟨before, order, after, view :: reached, by simp [reveals, heq, hreveals], hbreaks,
              by simp [showViews, heq, hshow], by simp [settleViews, heq, hsettle],
              by simp [reveals, heq, hrest]⟩
          · rw [if_neg heq, List.singleton_append] at h
            have hagain : (if a.viewAt t == a.viewAt t then []
                else [Order.updateOverlay index (a.viewAt t)]) =
                [Order.updateOverlay index (a.viewAt t)].filter Order.recurs := by
              by_cases hself : a.viewAt t == a.viewAt t <;> simp [hself, Order.recurs]
            rcases hp : Stage.perform (.updateOverlay index (a.viewAt t)) s with ⟨_ | _, middle⟩
            · rw [Stage.performAll_cons_error hp] at h
              cases h
              refine ⟨[], .updateOverlay index (a.viewAt t), reveals t (index + 1) rest views,
                a.viewAt t :: views, by simp [reveals, heq], ⟨s, rfl, hp⟩, ?_, ?_, ?_⟩
              · simp [showViews, heq, hp]
              · simp [settleViews, heq]
              · rw [reveals, hagain, List.nil_append]
            · rw [Stage.performAll_cons_ok hp] at h
              obtain ⟨before, order, after, reached, hreveals, hbreaks, hshow, hsettle, hrest⟩ := ih h
              refine ⟨.updateOverlay index (a.viewAt t) :: before, order, after,
                a.viewAt t :: reached, by simp [reveals, heq, hreveals], hbreaks.cons hp, ?_, ?_, ?_⟩
              · simp [showViews, heq, hp, hshow]
              · simp [settleViews, heq, hsettle]
              · rw [reveals, hagain, hrest, ← List.append_assoc, ← List.filter_append,
                  List.singleton_append, List.cons_append]

-- The point that the camera is to look at, if it follows an actor.
def gaze (follow : Option Nat) (actors : List Actor) : Option Vec3 :=
  (follow.bind (actors[·]?)).map (·.transform.position)

theorem aim_eq (e : Session) (s : σ) :
    e.aim s =
      let sent := performAll (e.camera.turn? (gaze e.follow e.registry.actors)).toList s
      (sent.1, e.camera.settle (gaze e.follow e.registry.actors), sent.2) := by
  simp only [aim, gaze, Registry.at?]
  cases e.follow.bind (e.registry.actors[·]?) with
  | none => rfl
  | some a =>
      by_cases h : a.transform.position == e.camera.target
      · simp [CameraState.turn?, CameraState.settle, h]
      · simp [CameraState.turn?, CameraState.settle, h]

-- The same in the frame at a time, once the actors have moved.
def focus (e : Session) (t : Float32) : Option Vec3 :=
  gaze e.follow (Registry.settleAll e.registry.actors (e.staged t))

-- The orders of the frame at a time, if none of them fails.
def orders (e : Session) (t : Float32) : List Order :=
  Registry.moves e.registry.actors (e.staged t) ++ ((e.camera.turn? (e.focus t)).toList ++
    (reveals t 0 e.definition.annotations e.views ++ [.renderFrame]))

-- The session once they have been carried out.
def shown (e : Session) (t : Float32) : Session :=
  { e with
    registry := { e.registry with actors := Registry.settleAll e.registry.actors (e.staged t) }
    camera := e.camera.settle (e.focus t)
    views := settleViews t e.definition.annotations e.views
    time := t }

-- The session in the middle of a frame.
def halt (e : Session) (actors : List Actor) (camera : CameraState) (views : List AnnotationView) :
    Session :=
  { e with registry := { e.registry with actors }, camera, views }

-- A frame that is begun again is staged as it was, since no patch reads what it writes.
theorem staged_halt {e : Session} {t : Float32} {actors : List Actor}
    (h : Registry.Resumes e.registry.actors (e.staged t) actors) (camera : CameraState)
    (views : List AnnotationView) :
    (e.halt actors camera views).staged t = e.staged t := by
  apply List.ext_getElem?
  intro index
  have hpatch : (e.halt actors camera views).registry.framePatch e.definition.timeline t index =
      e.registry.framePatch e.definition.timeline t index := by
    apply Registry.framePatch_congr
    · rfl
    · exact h.cast
  have hold : (e.staged t)[index]? = _ := Registry.getElem?_staged _ _ _ _ _
  have hnew : ((e.halt actors camera views).staged t)[index]? = _ :=
    Registry.getElem?_staged _ _ _ _ _
  simp only [halt] at hpatch hnew ⊢
  rw [hnew, hpatch, hold]
  rcases h.transform index with htf | htf
  · exact congrArg _ htf
  · rw [show (Registry.transforms { e.registry with actors })[index]? = _ from htf, hold,
      Option.map_map]
    congr 1
    funext tf
    exact Patch.apply_apply _ tf

theorem focus_halt {e : Session} {t : Float32} {actors : List Actor}
    (h : Registry.Resumes e.registry.actors (e.staged t) actors) (camera : CameraState)
    (views : List AnnotationView) :
    (e.halt actors camera views).focus t = e.focus t := by
  simp only [focus, staged_halt h]
  simp only [halt, h.settleAll_eq]

theorem orders_halt {e : Session} {t : Float32} {actors : List Actor}
    (h : Registry.Resumes e.registry.actors (e.staged t) actors) (camera : CameraState)
    (views : List AnnotationView) :
    (e.halt actors camera views).orders t =
      Registry.moves actors (e.staged t) ++ ((camera.turn? (e.focus t)).toList ++
        (reveals t 0 e.definition.annotations views ++ [.renderFrame])) := by
  simp only [orders, staged_halt h, focus_halt h]
  rfl

theorem shown_halt {e : Session} {t : Float32} {actors : List Actor} {camera : CameraState}
    {views : List AnnotationView} (h : Registry.Resumes e.registry.actors (e.staged t) actors)
    (hcamera : camera.settle (e.focus t) = e.camera.settle (e.focus t))
    (hviews : settleViews t e.definition.annotations views =
      settleViews t e.definition.annotations e.views) :
    (e.halt actors camera views).shown t = e.shown t := by
  simp only [shown, staged_halt h, focus_halt h]
  simp only [halt, h.settleAll_eq, hcamera, hviews]

-- A frame that was shown once is shown again by drawing it.
theorem orders_shown (e : Session) (t : Float32) :
    (e.shown t).orders t = (e.orders t).filter Order.recurs := by
  have hall := Registry.resumes_settleAll e.registry.actors (e.staged t)
  calc (e.shown t).orders t
      = (e.halt (Registry.settleAll e.registry.actors (e.staged t)) (e.camera.settle (e.focus t))
          (settleViews t e.definition.annotations e.views)).orders t := rfl
    _ = (e.orders t).filter Order.recurs := by
        rw [orders_halt hall, Registry.moves_settleAll, CameraState.turn?_settle,
          reveals_settleViews, orders]
        simp only [List.filter_append]
        rfl

theorem shown_shown (e : Session) (t : Float32) : (e.shown t).shown t = e.shown t :=
  shown_halt (Registry.resumes_settleAll e.registry.actors (e.staged t))
    (CameraState.settle_settle _ _) (settleViews_settleViews _ _ _)

theorem evaluate_ok {e : Session} {t : Float32} {s s' : σ}
    (h : performAll (e.orders t) s = (.ok (), s')) :
    e.evaluate t s = (.ok (), e.shown t, s') := by
  obtain ⟨s₁, hmoves, h⟩ := Stage.performAll_append_inv h
  obtain ⟨s₂, hturn, h⟩ := Stage.performAll_append_inv h
  obtain ⟨s₃, hreveals, hframe⟩ := Stage.performAll_append_inv h
  rw [Stage.performAll_singleton] at hframe
  rw [focus] at hturn
  simp [evaluate, Registry.commit, Registry.commitActors_ok hmoves, aim_eq, hturn,
    showViews_ok hreveals, hframe, shown, focus]

-- A frame that breaks off at an order can be begun again: it asks for what was not reached, and
-- for the rest only if that recurs. The order that failed counts as sent.
theorem evaluate_error {e : Session} {t : Float32} {s s' : σ} {fault : StageFault}
    (h : performAll (e.orders t) s = (.error fault, s')) :
    ∃ before order after reached,
      e.orders t = before ++ order :: after ∧ BreaksAt order before s fault s' ∧
      e.evaluate t s = (.error fault, reached, s') ∧ reached.shown t = e.shown t ∧
      reached.orders t = (before ++ [order]).filter Order.recurs ++ after := by
  have hall := Registry.resumes_settleAll e.registry.actors (e.staged t)
  rcases hmoves : performAll (Registry.moves e.registry.actors (e.staged t)) s with ⟨_ | _, s₁⟩
  · -- an actor could not be moved
    rw [orders, Stage.performAll_append_error hmoves] at h
    cases h
    obtain ⟨before, order, after, reached, hsplit, hbreaks, hcommit, hres, hrest⟩ :=
      Registry.commitActors_error hmoves
    refine ⟨before, order, after ++ ((e.camera.turn? (e.focus t)).toList ++
      (reveals t 0 e.definition.annotations e.views ++ [.renderFrame])),
      e.halt reached e.camera e.views, ?_, hbreaks, ?_, shown_halt hres rfl rfl, ?_⟩
    · rw [orders, hsplit, List.append_assoc, List.cons_append]
    · simp [evaluate, Registry.commit, hcommit, halt]
    · rw [orders_halt hres, hrest, List.append_assoc]
  rw [orders, Stage.performAll_append_ok hmoves] at h
  have hcommit := Registry.commitActors_ok hmoves
  rcases hturn : performAll (e.camera.turn? (e.focus t)).toList s₁ with ⟨_ | _, s₂⟩
  · -- the camera could not be turned
    rw [Stage.performAll_append_error hturn] at h
    cases h
    obtain ⟨order, horder⟩ : ∃ order, e.camera.turn? (e.focus t) = some order := by
      cases ht : e.camera.turn? (e.focus t) with
      | none => simp [ht] at hturn
      | some order => exact ⟨order, rfl⟩
    have hbreaks : BreaksAt order [] s₁ fault s' := ⟨s₁, rfl, by simpa [horder] using hturn⟩
    refine ⟨_, order, reveals t 0 e.definition.annotations e.views ++ [.renderFrame],
      e.halt (Registry.settleAll e.registry.actors (e.staged t)) (e.camera.settle (e.focus t))
        e.views, ?_, hbreaks.append hmoves, ?_,
      shown_halt hall (CameraState.settle_settle _ _) rfl, ?_⟩
    · rw [orders, horder, List.append_nil, Option.toList_some, List.singleton_append]
    · rw [focus] at hturn
      simp [evaluate, Registry.commit, hcommit, aim_eq, hturn, halt, focus]
    · rw [orders_halt hall, Registry.moves_settleAll, CameraState.turn?_settle, horder]
      simp only [List.append_assoc, List.filter_append, List.append_nil, Option.toList_some]
  rw [Stage.performAll_append_ok hturn] at h
  rcases hreveals : performAll (reveals t 0 e.definition.annotations e.views) s₂ with ⟨_ | _, s₃⟩
  · -- a view could not be updated
    rw [Stage.performAll_append_error hreveals] at h
    cases h
    obtain ⟨before, order, after, reached, hsplit, hbreaks, hshow, hsettle, hrest⟩ :=
      showViews_error hreveals
    refine ⟨_, order, after ++ [.renderFrame],
      e.halt (Registry.settleAll e.registry.actors (e.staged t)) (e.camera.settle (e.focus t))
        reached, ?_, (hbreaks.append hturn).append hmoves, ?_,
      shown_halt hall (CameraState.settle_settle _ _) hsettle, ?_⟩
    · rw [orders, hsplit]
      simp only [List.append_assoc, List.cons_append]
    · rw [focus] at hturn
      simp [evaluate, Registry.commit, hcommit, aim_eq, hturn, hshow, halt, focus]
    · rw [orders_halt hall, Registry.moves_settleAll, CameraState.turn?_settle, hrest]
      simp only [List.append_assoc, List.filter_append]
  · -- the frame itself was not drawn
    rw [Stage.performAll_append_ok hreveals, Stage.performAll_singleton] at h
    have hbreaks : BreaksAt .renderFrame [] s₃ fault s' := ⟨s₃, rfl, h⟩
    have hsplit : e.orders t = (Registry.moves e.registry.actors (e.staged t) ++
        ((e.camera.turn? (e.focus t)).toList ++
          (reveals t 0 e.definition.annotations e.views ++ []))) ++ [.renderFrame] := by
      simp only [orders, List.append_assoc, List.append_nil]
    refine ⟨_, .renderFrame, [], e.shown t, hsplit,
      ((hbreaks.append hreveals).append hturn).append hmoves, ?_, shown_shown e t, ?_⟩
    · rw [focus] at hturn
      simp [evaluate, Registry.commit, hcommit, aim_eq, hturn, showViews_ok hreveals, h, shown,
        focus]
    · rw [orders_shown, ← hsplit, List.append_nil]

-- Whether a frame is finished or breaks off, the session can still be shown as it was to be.
theorem evaluate_shown (e : Session) (t : Float32) (s : σ) :
    (e.evaluate t s).2.1.shown t = e.shown t := by
  rcases h : performAll (e.orders t) s with ⟨fault | _, s'⟩
  · obtain ⟨_, _, _, reached, -, -, heval, hshown, -⟩ := evaluate_error h
    rw [heval]
    exact hshown
  · rw [evaluate_ok h]
    exact shown_shown e t

-- Its orders are all that a frame asks of a stage.
theorem evaluate_stage (e : Session) (t : Float32) (s : σ) :
    (e.evaluate t s).2.2 = (performAll (e.orders t) s).2 := by
  rcases h : performAll (e.orders t) s with ⟨fault | _, s'⟩
  · obtain ⟨_, _, _, reached, -, -, heval, -, -⟩ := evaluate_error h
    rw [heval]
  · rw [evaluate_ok h]

end Session

end Diorama
