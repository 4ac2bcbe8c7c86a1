import Diorama.Command.Check
import Diorama.Proofs.Session.Calls
import Diorama.Proofs.Session.Selection

namespace Diorama

namespace Check

variable {definitions : List ActorDefinition} {r r' : Registry}

-- The verdict depends on who takes part, and so it holds for every setup of the same actors.
theorem verdict_eq (h : r.Casts definitions) (h' : r'.Casts definitions) (a : Assignment) :
    verdict r a = verdict r' a := by
  have hsome : (r.get? a.key.actor).isSome = (r'.get? a.key.actor).isSome := by
    rw [h.isSome_get?, h'.isSome_get?]
  simp only [verdict, ← Option.not_isSome, hsome]

theorem verdict_eq_live_iff (h : r.Indexed) (a : Assignment) :
    verdict r a = .live ↔ (∃ index, r.indexOf a.key.actor = some index) ∧ a.change ≠ .ignored := by
  have hsome : (r.get? a.key.actor).isSome = (r.indexOf a.key.actor).isSome :=
    Bool.eq_iff_iff.mpr (h.consistent.get?_isSome_iff _)
  rw [← Option.isSome_iff_exists, ← hsome, verdict]
  cases r.get? a.key.actor <;> cases a.change <;> simp [PropertyChange.isIgnored]

-- An assignment that is not live does nothing to anybody.
theorem assignmentPatch_eq_blank (h : r.Indexed) {a : Assignment} (hdead : verdict r a ≠ .live)
    (eased : Float32) (index : Nat) : r.assignmentPatch eased index a = {} := by
  rw [Registry.assignmentPatch]
  split_ifs with hindex
  · have hignored : a.change = .ignored := by
      by_contra hne
      exact hdead ((verdict_eq_live_iff h a).mpr ⟨⟨index, hindex⟩, hne⟩)
    rw [hignored]
    rfl
  · rfl

end Check

namespace Session

variable {σ : Type} [Stage σ]

def withTimeline (e : Session) (events : List TimelineEvent) : Session :=
  { e with definition := { e.definition with timeline := events } }

-- A timeline counts for nothing but what it stages.
theorem evaluate_withTimeline {e : Session} {events : List TimelineEvent} {t : Float32}
    (h : (e.withTimeline events).staged t = e.staged t) (s : σ) :
    (e.withTimeline events).evaluate t s =
      ((e.evaluate t s).1, (e.evaluate t s).2.1.withTimeline events, (e.evaluate t s).2.2) := by
  have haim : ∀ registry s, Session.aim { e.withTimeline events with registry } (s : σ) =
      Session.aim { e with registry } s := fun _ _ => rfl
  simp only [evaluate, h, haim]
  rcases hcommit : e.registry.commit (e.staged t) s with ⟨_ | _, registry, s₁⟩
  · simp [withTimeline, hcommit]
  rcases haimed : Session.aim { e with registry } s₁ with ⟨_ | _, camera, s₂⟩
  · simp [withTimeline, hcommit, haimed]
  rcases hviews : showViews t 0 e.definition.annotations e.views s₂ with ⟨_ | _, views, s₃⟩
  · simp [withTimeline, hcommit, haimed, hviews]
  · simp [withTimeline, hcommit, haimed, hviews]

theorem evaluate_registry (e : Session) (t : Float32) (s : σ) :
    (e.evaluate t s).2.1.registry = (e.registry.commit (e.staged t) s).2.1 := by
  rw [evaluate]
  rcases hcommit : e.registry.commit (e.staged t) s with ⟨_ | _, registry, s₁⟩
  · rfl
  rcases haimed : Session.aim { e with registry } s₁ with ⟨_ | _, camera, s₂⟩
  · simp [haimed]
  rcases hviews : showViews t 0 e.definition.annotations e.views s₂ with ⟨_ | _, views, s₃⟩
  · simp [haimed, hviews]
  · simp [haimed, hviews]

theorem load_withTimeline (d : Definition) (events : List TimelineEvent) (s : σ) :
    (load { d with timeline := events } s).result =
        (load d s).result.map (·.withTimeline events) ∧
      (load { d with timeline := events } s).stage = (load d s).stage := by
  have hopen : ∀ s : σ, openView { d with timeline := events } s = openView d s := fun _ => rfl
  simp only [load, hopen]
  cases hbuilt : (Registry.build d.actors s).result with
  | error fault => exact ⟨rfl, rfl⟩
  | ok r =>
      simp only
      rcases openView d (Registry.build d.actors s).stage with ⟨_ | _, s'⟩
      · exact ⟨rfl, rfl⟩
      · exact ⟨rfl, rfl⟩

-- The sessions of an animation, set up and shown at any times on stages that may fail.
inductive Underway (d : Definition) : Session → Prop where
  | load {σ : Type} [Stage σ] {s : σ} {e : Session} (h : (load d s).result = .ok e) : Underway d e
  | evaluate {σ : Type} [Stage σ] {e : Session} (h : Underway d e) (t : Float32) (s : σ) :
      Underway d (e.evaluate t s).2.1

namespace Underway

variable {d : Definition} {e : Session}

theorem definition_eq (h : Underway d e) : e.definition = d := by
  induction h with
  | load h => exact load_definition h
  | evaluate _ t s ih => rw [evaluate_definition, ih]

theorem casts (h : Underway d e) : e.registry.Casts d.actors := by
  induction h with
  | load h => exact load_casts h
  | evaluate _ t s ih =>
      rw [evaluate_registry]
      exact ih.commit _ s

end Underway

-- A timeline without the assignments that are not live.
def pruned (r : Registry) (events : List TimelineEvent) : List TimelineEvent :=
  onlyAssignments (fun a => Check.verdict r a == .live) events

variable {d : Definition} {r : Registry} {e : Session}

theorem Underway.staged_pruned (h : Underway d e) (hr : r.Casts d.actors) (t : Float32) :
    (e.withTimeline (pruned r d.timeline)).staged t = e.staged t := by
  have hdead : ∀ eased index a, (Check.verdict r a == .live) = false →
      e.registry.assignmentPatch eased index a = {} := by
    intro eased index a hverdict
    apply Check.assignmentPatch_eq_blank h.casts.indexed
    rw [Check.verdict_eq h.casts hr]
    simpa using hverdict
  apply List.ext_getElem?
  intro index
  have hpatch := Registry.framePatch_onlyAssignments (fun eased => hdead eased index) d.timeline t
  rw [staged, staged, Registry.getElem?_staged, Registry.getElem?_staged, h.definition_eq, ← hpatch]
  rfl

-- What is seen of a session that is shown at one time after the other, whatever fails.
def showEach : List Float32 → Session → σ → List (Except StageFault Unit × Snapshot × σ)
  | [], _, _ => []
  | t :: times, e, s =>
    let (result, e, s) := e.evaluate t s
    (result, e.snapshot, s) :: showEach times e s

-- The same from the start on.
def performance (d : Definition) (times : List Float32) (s : σ) :
    Except StageFault (Snapshot × List (Except StageFault Unit × Snapshot × σ)) × σ :=
  let loaded := load d s
  (loaded.result.map fun e => (e.snapshot, showEach times e loaded.stage), loaded.stage)

theorem Underway.showEach_pruned (h : Underway d e) (hr : r.Casts d.actors) (times : List Float32)
    (s : σ) :
    showEach times (e.withTimeline (pruned r d.timeline)) s = showEach times e s := by
  induction times generalizing e s with
  | nil => rfl
  | cons t times ih =>
      simp only [showEach, evaluate_withTimeline (h.staged_pruned hr t)]
      congr 1
      exact ih (h.evaluate t s) _

theorem performance_pruned (hr : r.Casts d.actors) (times : List Float32) (s : σ) :
    performance { d with timeline := pruned r d.timeline } times s = performance d times s := by
  obtain ⟨hresult, hstage⟩ := load_withTimeline d (pruned r d.timeline) s
  simp only [performance, hresult, hstage]
  cases hload : (load d s).result with
  | error fault => rfl
  | ok e =>
      have hunderway : Underway d e := .load hload
      simp only [Except.map, hunderway.showEach_pruned hr]
      rfl

end Session

-- An assignment at its place on a timeline.
structure Occurrence (events : List TimelineEvent) where
  before : List TimelineEvent
  event : TimelineEvent
  after : List TimelineEvent
  front : List Assignment
  assignment : Assignment
  back : List Assignment
  events_eq : events = before ++ event :: after
  properties_eq : event.properties = front ++ assignment :: back

namespace Occurrence

variable {events : List TimelineEvent} (o : Occurrence events) (r : Registry) (t : Float32)

-- What the timeline has staged when it comes to the assignment.
def reached : List Transform :=
  o.front.foldl (r.stageAssignment (o.event.eased t)) (r.stageTimeline o.before t r.transforms)

-- The rest of a frame after the assignment.
def resumed (staged : List Transform) : List Transform :=
  r.stageMotion t
    (r.stageTimeline o.after t (o.back.foldl (r.stageAssignment (o.event.eased t)) staged))

variable {r t}

theorem staged_eq (hactive : o.event.isActive t = true) :
    r.stageMotion t (r.stageTimeline events t r.transforms) =
      o.resumed r t (r.stageAssignment (o.event.eased t) (o.reached r t) o.assignment) := by
  obtain ⟨before, event, after, front, assignment, back, rfl, hproperties⟩ := o
  simp only [resumed, reached, Registry.stageTimeline] at hactive ⊢
  rw [List.filter_append, List.filter_cons, if_pos hactive, List.foldl_append, List.foldl_cons,
    Registry.stageEvent, hproperties, List.foldl_append, List.foldl_cons]

theorem exists_reached {index : Nat} {actor : Actor} (hat : r.at? index = some actor) :
    ∃ tf, (o.reached r t)[index]? = some tf := by
  have hstart : r.transforms[index]? = some actor.transform := by
    simpa [Registry.transforms, Registry.at?] using congrArg (Option.map (·.transform)) hat
  rw [reached, Patch.getElem?_foldl (r.getElem?_stageAssignment (o.event.eased t) index),
    Registry.stageTimeline, Patch.getElem?_foldl (r.getElem?_stageEvent t index), hstart]
  exact ⟨_, rfl⟩

-- In every frame at which its event is active the assignment is carried out: it finds its actor,
-- what was staged for that actor is replaced by what the change makes of it, and whatever the stage
-- is, the frame commits what is staged in the end.
def Executed (e : Session) : Prop :=
  ∃ index actor, e.registry.indexOf o.assignment.key.actor = some index ∧
    e.registry.at? index = some actor ∧ actor.id = o.assignment.key.actor ∧
    ∀ t, o.event.isActive t = true →
      (∃ tf, (o.reached e.registry t)[index]? = some tf ∧
        e.staged t = o.resumed e.registry t ((o.reached e.registry t).set index
          (o.assignment.change.apply (o.event.eased t) (actor.orbitRadius.getD defaultOrbitRadius)
            tf))) ∧
      ∀ (σ : Type) [Stage σ] (s : σ),
        (e.evaluate t s).2.1.registry = (e.registry.commit (e.staged t) s).2.1

theorem executed {e : Session} (htimeline : e.definition.timeline = events)
    (h : e.registry.Indexed) {index : Nat}
    (hindex : e.registry.indexOf o.assignment.key.actor = some index) : o.Executed e := by
  obtain ⟨actor, hat, hid⟩ :
      ∃ actor, e.registry.at? index = some actor ∧ actor.id = o.assignment.key.actor :=
    Option.map_eq_some_iff.mp ((h.consistent.indexOf_iff _ _).mp hindex).2
  refine ⟨index, actor, hindex, hat, hid, fun t hactive =>
    ⟨?_, fun _ _ s => e.evaluate_registry t s⟩⟩
  obtain ⟨tf, htf⟩ := o.exists_reached (t := t) hat
  refine ⟨tf, htf, ?_⟩
  rw [Session.staged, htimeline, o.staged_eq hactive, Registry.stageAssignment, hindex]
  simp only [hat, List.modify_eq_set_getElem?, htf]
  rfl

end Occurrence

namespace Session

end Session

end Diorama
