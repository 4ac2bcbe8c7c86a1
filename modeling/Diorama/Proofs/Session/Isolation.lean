import Diorama.Proofs.Session.Calls
import Diorama.Proofs.Session.Course
import Diorama.Proofs.Session.Selection

namespace Diorama

namespace Registry

theorem get?_transform (r : Registry) (id : String) :
    (r.get? id).map (·.transform) = (r.indexOf id).bind (r.transforms[·]?) := by
  rw [get?, Option.map_bind]
  congr 1
  funext index
  simp [at?, transforms]

theorem Indexed.indexOf_eq_iff {r : Registry} (h : r.Indexed) {id : String} {index : Nat}
    (hindex : r.indexOf id = some index) (other : String) :
    r.indexOf other = some index ↔ other = id := by
  rw [h other, (h id index).mp hindex, Option.some.injEq, eq_comm]

-- What a frame does to an actor depends on its definition, whatever others there are.
theorem framePatch_eq {definitions definitions' : List ActorDefinition} {r r' : Registry}
    (h : r.Casts definitions) (h' : r'.Casts definitions') {id : String}
    (hfirst : definitions.find? (·.id == id) = definitions'.find? (·.id == id)) {index index' : Nat}
    (hindex : r.indexOf id = some index) (hindex' : r'.indexOf id = some index')
    (events : List TimelineEvent) (t : Float32) :
    r.framePatch events t index = r'.framePatch events t index' := by
  have hdefinition : (r.at? index).map (·.definition) = (r'.at? index').map (·.definition) := by
    have hget := (h.definition id).trans (hfirst.trans (h'.definition id).symm)
    simpa [get?, hindex, hindex'] using hget
  apply framePatch_eq_of_definition
  · intro other
    rw [h.indexed.indexOf_eq_iff hindex, h'.indexed.indexOf_eq_iff hindex']
  · exact hdefinition

end Registry

namespace Session

-- Two actors, each of a session of its own, that stand in the same place and move in the same way.
structure Alongside (e e' : Session) (index index' : Nat) : Prop where
  transform : e.registry.transforms[index]? = e'.registry.transforms[index']?
  patch : ∀ t, e.registry.framePatch e.definition.timeline t index =
    e'.registry.framePatch e'.definition.timeline t index'

theorem framePatch_shown (e : Session) (t : Float32) (events : List TimelineEvent) (next : Float32)
    (index : Nat) :
    (e.shown t).registry.framePatch events next index =
      e.registry.framePatch events next index := by
  apply Registry.framePatch_congr
  · rfl
  · exact (Registry.resumes_settleAll e.registry.actors (e.staged t)).cast

theorem Alongside.shown {e e' : Session} {index index' : Nat} (h : Alongside e e' index index')
    (t : Float32) : Alongside (e.shown t) (e'.shown t) index index' where
  transform := by rw [transforms_shown, transforms_shown, h.transform, h.patch]
  patch next := by
    rw [framePatch_shown, framePatch_shown]
    exact h.patch next

theorem Alongside.shownAll {e e' : Session} {index index' : Nat} (h : Alongside e e' index index')
    (times : List Float32) : Alongside (e.shownAll times) (e'.shownAll times) index index' := by
  induction times generalizing e e' with
  | nil => exact h
  | cons t times ih => exact ih (h.shown t)

variable {σ : Type} [Stage σ]

theorem calls_prefix_play (times : List Float32) (e : Session) (w : Watched σ) :
    w.calls <+: (play times e w).2.2.calls := by
  induction times generalizing e w with
  | nil => exact List.prefix_refl _
  | cons t times ih =>
      have hfirst := e.evaluate_prefix t w
      rcases heval : e.evaluate t w with ⟨_ | _, e', w'⟩ <;> rw [heval] at hfirst
      · simpa [play, heval] using hfirst
      · simpa [play, heval] using hfirst.trans (ih e' w')

theorem play_of_smooth (times : List Float32) {e : Session} {w : Watched σ}
    (h : (play times e w).2.2.Smooth) :
    ∃ w', play times e w = (.ok (), e.shownAll times, w') := by
  induction times generalizing e w with
  | nil => exact ⟨w, rfl⟩
  | cons t times ih =>
      have hfirst : (e.evaluate t w).2.2.Smooth := by
        rcases heval : e.evaluate t w with ⟨_ | _, e', w'⟩
        · simpa [play, heval] using h
        · simp only [play, heval] at h
          exact h.of_prefix (calls_prefix_play times e' w')
      obtain ⟨w', -, heval⟩ := evaluate_of_smooth hfirst
      simp only [play, heval] at h ⊢
      exact ih h

-- An animation that is set up and then shown at one time after the other.
def showing (d : Definition) (times : List Float32) (s : σ) : Except StageFault Session × σ :=
  let loaded := load d s
  match loaded.result with
  | .error fault => (.error fault, loaded.stage)
  | .ok e =>
    let (result, e, s) := play times e loaded.stage
    (result.map fun _ => e, s)

theorem showing_of_smooth {d : Definition} {times : List Float32} {w : Watched σ}
    (h : (showing d times w).2.Smooth) :
    ∃ e, (load d w).result = .ok e ∧ (showing d times w).1 = .ok (e.shownAll times) := by
  rw [showing] at h ⊢
  cases hload : (load d w).result with
  | error fault =>
      simp only [hload] at h
      obtain ⟨e, hok⟩ := load_of_smooth h
      simp [hload] at hok
  | ok e =>
      simp only [hload] at h ⊢
      obtain ⟨w', hplay⟩ := play_of_smooth times h
      exact ⟨e, rfl, by simp [hplay, Except.map]⟩

theorem positions_shownAll (times : List Float32) (e : Session) :
    (e.shownAll times).registry.positions = e.registry.positions :=
  congrArg Fixtures.positions (fixtures_shownAll times e)

theorem indexOf_shownAll (times : List Float32) (e : Session) (id : String) :
    (e.shownAll times).registry.indexOf id = e.registry.indexOf id := by
  rw [Registry.indexOf, positions_shownAll, Registry.indexOf]

theorem casts_shownAll {e : Session} {definitions : List ActorDefinition}
    (h : e.registry.Casts definitions) (times : List Float32) :
    (e.shownAll times).registry.Casts definitions :=
  h.of_cast (positions_shownAll times e) (congrArg Fixtures.cast (fixtures_shownAll times e))

-- Where an actor is found that was just set up, it stands where its definition puts it.
theorem transform_of_load {d : Definition} {s : σ} {e : Session} (h : (load d s).result = .ok e)
    {id : String} {index : Nat} (hindex : e.registry.indexOf id = some index) :
    e.registry.transforms[index]? =
      (d.actors.find? (·.id == id)).map (·.initialTransform) := by
  have hunmoved : e.registry.Unmoved := .buildFrom .empty d.actors (load_registry h)
  have hfound := e.registry.get?_transform id
  rw [hindex, Option.bind_some] at hfound
  rw [← hfound, ← (load_casts h).definition id, Option.map_map]
  apply Option.map_congr
  intro a ha
  exact hunmoved a (((load_casts h).indexed.get?_iff id a).mp ha).1

theorem framePatch_assigned {d : Definition} {s : σ} {e : Session} (h : (load d s).result = .ok e)
    {id : String} {index : Nat} (hindex : e.registry.indexOf id = some index) (t : Float32) :
    e.registry.framePatch (onlyAssignments (·.key.actor == id) d.timeline) t index =
      e.registry.framePatch d.timeline t index := by
  apply Registry.framePatch_onlyAssignments
  intro eased a hother
  have hne : a.key.actor ≠ id := by simpa using hother
  rw [Registry.assignmentPatch, if_neg]
  rwa [(load_casts h).indexed.indexOf_eq_iff hindex]

variable {σ' : Type} [Stage σ'] {s : σ} {s' : σ'} {d d' : Definition} {id : String}

theorem alongside_of_load {e e' : Session} (h : (load d s).result = .ok e)
    (h' : (load d' s').result = .ok e')
    (hfirst : d.actors.find? (·.id == id) = d'.actors.find? (·.id == id))
    (htimeline : onlyAssignments (·.key.actor == id) d.timeline =
      onlyAssignments (·.key.actor == id) d'.timeline)
    {index index' : Nat} (hindex : e.registry.indexOf id = some index)
    (hindex' : e'.registry.indexOf id = some index') : Alongside e e' index index' where
  transform := by rw [transform_of_load h hindex, transform_of_load h' hindex', hfirst]
  patch t := by
    rw [load_definition h, load_definition h', ← framePatch_assigned h hindex,
      ← framePatch_assigned h' hindex', htimeline]
    exact Registry.framePatch_eq (load_casts h) (load_casts h') hfirst hindex hindex' _ t

-- Two animations that say the same about one actor: its first definition is the same, and so is
-- what the timeline assigns to it and when. Whatever else there is in them, once both are set up
-- and after any frames at the same times, each on a stage that does what it is told, the actor
-- stands in the same place.
theorem actor_undisturbed
    (hfirst : d.actors.find? (·.id == id) = d'.actors.find? (·.id == id))
    (htimeline : onlyAssignments (·.key.actor == id) d.timeline =
      onlyAssignments (·.key.actor == id) d'.timeline)
    (times : List Float32) (hsmooth : (showing d times ({ stage := s } : Watched σ)).2.Smooth)
    (hsmooth' : (showing d' times ({ stage := s' } : Watched σ')).2.Smooth) :
    ∃ e e', (showing d times ({ stage := s } : Watched σ)).1 = .ok e ∧
      (showing d' times ({ stage := s' } : Watched σ')).1 = .ok e' ∧
      (e.registry.get? id).map (·.definition) = d.actors.find? (·.id == id) ∧
      (e.registry.get? id).map (·.transform) = (e'.registry.get? id).map (·.transform) := by
  obtain ⟨e, hload, hshowing⟩ := showing_of_smooth hsmooth
  obtain ⟨e', hload', hshowing'⟩ := showing_of_smooth hsmooth'
  have hcasts := load_casts hload
  refine ⟨_, _, hshowing, hshowing', (casts_shownAll hcasts times).definition id, ?_⟩
  rw [Registry.get?_transform, Registry.get?_transform, indexOf_shownAll, indexOf_shownAll]
  have hboth : (e.registry.indexOf id).isSome = (e'.registry.indexOf id).isSome := by
    rw [hcasts.isSome_indexOf, (load_casts hload').isSome_indexOf, hfirst]
  cases hindex : e.registry.indexOf id with
  | none =>
      have hnone : e'.registry.indexOf id = none := by simpa [hindex] using hboth
      rw [hnone]
      rfl
  | some index =>
      rw [hindex] at hboth
      obtain ⟨index', hindex'⟩ := Option.isSome_iff_exists.mp hboth.symm
      rw [hindex']
      have halong := alongside_of_load hload hload' hfirst htimeline hindex hindex'
      exact (halong.shownAll times).transform

-- A ball that turns and then leaps, alone on a stage and second to a box that the timeline pushes
-- in between and the camera follows.
theorem ball_undisturbed_by_box :
    let ball : ActorDefinition := { id := "ball", kind := .sphere, scale := ⟨2, 2, 2⟩ }
    let box : ActorDefinition := { id := "box", kind := .cube }
    let turn : Assignment := ⟨⟨"ball", "rotation"⟩, .rotation 90⟩
    let leap : Assignment := ⟨⟨"ball", "position"⟩, .position ⟨1, 2, 3⟩⟩
    let push : Assignment := ⟨⟨"box", "position"⟩, .position ⟨4, 5, 6⟩⟩
    let d : Definition :=
      { actors := [ball]
        timeline := [{ properties := [turn] }, { time := 1, properties := [leap] }] }
    let d' : Definition :=
      { actors := [box, ball, { ball with kind := .plane }]
        camera := some { followActor := some "box" }
        timeline := [{ properties := [push] }, { properties := [push, turn] },
          { time := 1, properties := [leap, push] }] }
    let run := showing d [0.5, 1.5] ({ stage := .fresh } : Watched Recorder)
    let run' := showing d' [0.5, 1.5] ({ stage := {} } : Watched BareStage)
    d.actors.find? (·.id == "ball") = d'.actors.find? (·.id == "ball") ∧
      onlyAssignments (·.key.actor == "ball") d.timeline =
        onlyAssignments (·.key.actor == "ball") d'.timeline ∧
      run.2.Smooth ∧ run'.2.Smooth ∧
      ∃ e e', run.1 = .ok e ∧ run'.1 = .ok e' ∧
        e.registry.indexOf "ball" = some 0 ∧ e'.registry.indexOf "ball" = some 1 ∧
        (e.registry.get? "ball").map (·.transform) =
          (e'.registry.get? "ball").map (·.transform) := by
  intro ball box turn leap push d d' run run'
  have hsmooth : run.2.Smooth := by
    change ∀ call ∈ run.2.calls, call.failed = false
    decide +kernel
  have hsmooth' : run'.2.Smooth := by
    change ∀ call ∈ run'.2.calls, call.failed = false
    decide +kernel
  have hfirst : d.actors.find? (·.id == "ball") = d'.actors.find? (·.id == "ball") := rfl
  have htimeline : onlyAssignments (·.key.actor == "ball") d.timeline =
      onlyAssignments (·.key.actor == "ball") d'.timeline := rfl
  obtain ⟨e, e', hrun, hrun', -, htransform⟩ :=
    actor_undisturbed hfirst htimeline [0.5, 1.5] hsmooth hsmooth'
  have hindex : run.1.toOption.map (·.registry.indexOf "ball") = some (some 0) := by
    decide +kernel
  have hindex' : run'.1.toOption.map (·.registry.indexOf "ball") = some (some 1) := by
    decide +kernel
  rw [hrun] at hindex
  rw [hrun'] at hindex'
  exact ⟨hfirst, htimeline, hsmooth, hsmooth', e, e', hrun, hrun', Option.some.inj hindex,
    Option.some.inj hindex', htransform⟩

end Session

end Diorama
