import Diorama.Session.Basic
import Diorama.Proofs.Registry.Building

namespace Diorama

open Front (recorder sound)

-- Nothing is left of what was done to a stage: it holds the primitives that it held at first, and
-- each that was made in the meantime was taken away once.
structure Undone (first s : Recorder) : Prop where
  primitives : s.primitives = first.primitives
  record : ∃ since, s.log.toList = first.log.toList ++ since ∧ (made since).Nodup ∧
    (gone since).Perm (made since)

theorem Owes.undone {first s : Recorder} (h : Owes first s []) : Undone first s where
  primitives := Table.ext_get? fun key => h.kept ⟨key⟩ List.not_mem_nil
  record := by
    obtain ⟨since, hsince, hnodup, hperm, -⟩ := h.record
    exact ⟨since, hsince, hnodup, by simpa using hperm.symm⟩

namespace Session

-- The stage shows what the session holds to be shown: its primitives in their places, and nothing
-- else but what stood there at first, the camera, and the views.
structure Stands (first : Recorder) (e : Session) (s : Recorder) : Prop where
  owes : Owes first s (Registry.placements e.registry.actors)
  camera : s.camera = some e.camera
  views : ∀ (index : Nat) view, e.views[index]? = some view → s.annotations.get? index = some view
  views_length : e.views.length = e.definition.annotations.length

variable {σ : Type} [Stage σ] [Front σ] {first : Recorder} {owed : List (Handle × Transform)}

theorem perform_owes (order : Order) {s : σ} (hs : sound s) (h : Owes first (recorder s) owed)
    (hsubject : ∀ handle, order.subject ≠ .primitive handle) :
    sound (Stage.perform order s).2 ∧ Owes first (recorder (Stage.perform order s).2) owed := by
  rcases hp : Stage.perform order s with ⟨_ | _, s'⟩
  · obtain ⟨hsame, hs'⟩ := Front.perform_error hs hp
    exact ⟨hs', hsame ▸ h⟩
  · obtain ⟨hperform, hs'⟩ := Front.perform_ok hs hp
    exact ⟨hs', h.perform_other hperform hsubject⟩

theorem announce_owes {index : Nat} {annotations : List Annotation} {s : σ} (hs : sound s)
    (h : Owes first (recorder s) owed) :
    sound (announce index annotations s).2 ∧
      Owes first (recorder (announce index annotations s).2) owed := by
  induction annotations generalizing index s with
  | nil => exact ⟨hs, h⟩
  | cons a rest ih =>
      obtain ⟨hs', h'⟩ := perform_owes (.createOverlay index a) hs h (by simp [Order.subject])
      rw [announce]
      rcases hp : Stage.perform (.createOverlay index a) s with ⟨_ | _, s'⟩
      all_goals rw [hp] at hs' h'
      · exact ⟨hs', h'⟩
      · exact ih hs' h'

theorem announce_ok {index : Nat} {annotations : List Annotation} {s s' : σ} (hs : sound s)
    (hok : announce index annotations s = (.ok (), s')) :
    (recorder s').camera = (recorder s).camera ∧
      ∀ i, (recorder s').annotations.get? i =
        if index ≤ i ∧ i < index + annotations.length then some .hidden
        else (recorder s).annotations.get? i := by
  induction annotations generalizing index s with
  | nil =>
      cases hok
      refine ⟨rfl, fun i => (if_neg ?_).symm⟩
      simp
  | cons a rest ih =>
      rw [announce] at hok
      rcases hp : Stage.perform (.createOverlay index a) s with ⟨_ | _, s₁⟩
      · simp [hp] at hok
      · simp only [hp] at hok
        obtain ⟨hperform, hs₁⟩ := Front.perform_ok hs hp
        obtain ⟨hcamera, hviews⟩ := ih hs₁ hok
        have hscenery := (Recorder.perform_ok hperform).1
        have hcamera₁ : (recorder s₁).camera = (recorder s).camera :=
          congrArg Scenery.camera hscenery
        have hviews₁ : (recorder s₁).annotations = (recorder s).annotations.set index .hidden :=
          congrArg Scenery.annotations hscenery
        refine ⟨hcamera.trans hcamera₁, fun i => ?_⟩
        rw [hviews, hviews₁, Table.get?_set, List.length_cons]
        by_cases hi : i = index
        · simp [hi]
        · have hiff : index + 1 ≤ i ∧ i < index + 1 + rest.length ↔
              index ≤ i ∧ i < index + (rest.length + 1) := by omega
          simp only [hiff, hi, if_false]

theorem openView_owes {d : Definition} {s : σ} (hs : sound s) (h : Owes first (recorder s) owed) :
    sound (openView d s).2 ∧ Owes first (recorder (openView d s).2) owed := by
  obtain ⟨hs', h'⟩ := perform_owes (.setCamera (cameraState d)) hs h
    (by simp [Order.subject])
  rw [openView]
  rcases hp : Stage.perform (.setCamera (cameraState d)) s with ⟨_ | _, s'⟩
  all_goals rw [hp] at hs' h'
  · exact ⟨hs', h'⟩
  · exact announce_owes hs' h'

theorem openView_ok {d : Definition} {s s' : σ} (hs : sound s)
    (hok : openView d s = (.ok (), s')) :
    (recorder s').camera = some (cameraState d) ∧
      ∀ i < d.annotations.length, (recorder s').annotations.get? i = some .hidden := by
  rw [openView] at hok
  rcases hp : Stage.perform (.setCamera (cameraState d)) s with ⟨_ | _, s₁⟩
  · simp [hp] at hok
  · simp only [hp] at hok
    obtain ⟨hperform, hs₁⟩ := Front.perform_ok hs hp
    obtain ⟨hcamera, hviews⟩ := announce_ok hs₁ hok
    have hcamera₁ : (recorder s₁).camera = some (cameraState d) :=
      congrArg Scenery.camera (Recorder.perform_ok hperform).1
    refine ⟨hcamera.trans hcamera₁, fun i hi => ?_⟩
    rw [hviews, if_pos (by omega)]

-- A session that was set up stands on the stage; one that could not be set up owes nothing.
theorem load_stands (d : Definition) {s : σ} (hs : sound s) :
    match (load d s).result with
    | .ok e => e.definition = d ∧ Stands (recorder s) e (recorder (load d s).stage)
    | .error _ => Owes (recorder s) (recorder (load d s).stage) [] := by
  obtain ⟨hs₁, hbuilt⟩ := Registry.buildFrom_owes (r := .empty) d.actors hs
    (Owes.refl (recorder s))
  simp only [load, Registry.build]
  cases hresult : (Registry.buildFrom .empty d.actors s).result with
  | error fault => simpa [hresult] using hbuilt
  | ok r =>
      simp only [hresult] at hbuilt
      obtain ⟨hs₂, howes⟩ := openView_owes (d := d) hs₁ hbuilt
      rcases hview : openView d (Registry.buildFrom .empty d.actors s).stage with ⟨_ | _, s₂⟩
      · rw [hview] at hs₂ howes
        exact (Registry.discard_owes hs₂ howes).2
      · rw [hview] at howes
        obtain ⟨hcamera, hviews⟩ := openView_ok hs₁ hview
        refine ⟨rfl, howes, hcamera, fun index view hview => ?_, List.length_replicate⟩
        obtain ⟨hlt, rfl⟩ := List.getElem?_eq_some_iff.mp hview
        rw [List.getElem_replicate]
        exact hviews index (by simpa using hlt)

end Session

-- Whatever a stage refuses, and whenever it does: as long as it lets primitives go, a session that
-- cannot be set up, a registry that cannot be built and an actor that cannot be created leave
-- nothing behind.
theorem failed_setup_undone (s : RefusingStage Recorder)
    (hs : ∀ n, s.plan .destroyPrimitive n = false) :
    (∀ d fault, (Session.load d s).result = .error fault →
      Undone s.inner (Session.load d s).stage.inner) ∧
    (∀ definitions fault, (Registry.build definitions s).result = .error fault →
      Undone s.inner (Registry.build definitions s).stage.inner) ∧
    ∀ d (r : Registry) fault, (r.createActor d s).1.result = .error fault →
      (r.createActor d s).2 = r ∧ Undone s.inner (r.createActor d s).1.stage.inner := by
  have hsound : sound s := hs
  have hnone : Owes s.inner (recorder s) [] := Owes.refl s.inner
  refine ⟨fun d fault herror => ?_, fun definitions fault herror => ?_, fun d r fault herror => ?_⟩
  · have hload := Session.load_stands d hsound
    rw [herror] at hload
    exact hload.undone
  · obtain ⟨-, hbuild⟩ := Registry.buildFrom_owes (r := .empty) definitions hsound hnone
    rw [show (Registry.buildFrom .empty definitions s).result = .error fault from herror] at hbuild
    exact hbuild.undone
  · obtain ⟨hsame, -, howes⟩ := Registry.createActor_error hsound hnone herror
    exact ⟨hsame, howes.undone⟩

-- A stage on which something stands already, and on which nothing more can be placed.
theorem unplaced_setup_undone :
    let s : RefusingStage Recorder :=
      { inner := (Recorder.fresh.create ⟨.sphere 1, ⟨.white, 1, none⟩⟩).2
        plan := fun request _ => request == .setTransform }
    let ghost : ActorDefinition := { id := "ghost" }
    let ball : ActorDefinition := { id := "ball", kind := .sphere }
    (∀ n, s.plan .destroyPrimitive n = false) ∧
      (Session.load { actors := [ghost, ball] } s).result = .error (.refused .setTransform) ∧
      Undone s.inner (Session.load { actors := [ghost, ball] } s).stage.inner ∧
      Undone s.inner (Registry.build [ghost, ball] s).stage.inner ∧
      Undone s.inner (Registry.empty.createActor ball s).1.stage.inner := by
  intro s ghost ball
  have hs : ∀ n, s.plan .destroyPrimitive n = false := fun n => rfl
  obtain ⟨hload, hbuild, hcreate⟩ := failed_setup_undone s hs
  have herror : (Session.load { actors := [ghost, ball] } s).result =
      .error (.refused .setTransform) := rfl
  exact ⟨hs, herror, hload _ _ herror, hbuild [ghost, ball] (.refused .setTransform) rfl,
    (hcreate ball .empty (.refused .setTransform) rfl).2⟩

end Diorama
