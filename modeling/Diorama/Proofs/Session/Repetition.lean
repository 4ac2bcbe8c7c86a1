import Diorama.Proofs.Session.Calls
import Diorama.Proofs.Session.Likeness

namespace Diorama

-- What compares equal to itself: all but what is no number.
theorem Scalar.beq_self {x : Float32} (h : x.isNaN = false) : (x == x) = true := by
  rcases alike_equivalence.refl x with heq | ⟨hnan, -⟩
  · exact heq
  · rw [h] at hnan
    cases hnan

def Vec3.hasNaN (v : Vec3) : Bool := v.x.isNaN || v.y.isNaN || v.z.isNaN

def Transform.hasNaN (tf : Transform) : Bool :=
  tf.position.hasNaN || tf.rotation.hasNaN || tf.scale.hasNaN

theorem Vec3.beq_self {v : Vec3} (h : v.hasNaN = false) : (v == v) = true := by
  simp only [hasNaN, Bool.or_eq_false_iff] at h
  obtain ⟨⟨hx, hy⟩, hz⟩ := h
  change ((v.x == v.x) && ((v.y == v.y) && (v.z == v.z))) = true
  rw [Scalar.beq_self hx, Scalar.beq_self hy, Scalar.beq_self hz]
  rfl

theorem Transform.beq_self {tf : Transform} (h : tf.hasNaN = false) : (tf == tf) = true := by
  simp only [hasNaN, Bool.or_eq_false_iff] at h
  obtain ⟨⟨hposition, hrotation⟩, hscale⟩ := h
  change ((tf.position == tf.position) &&
    ((tf.rotation == tf.rotation) && (tf.scale == tf.scale))) = true
  rw [Vec3.beq_self hposition, Vec3.beq_self hrotation, Vec3.beq_self hscale]
  rfl

-- An actor that a commit leaves as it is has nothing sent for it.
theorem Registry.moves_of_settled {actors : List Actor} {staged : List Transform}
    (h : settleAll actors staged = actors) (hnumbers : ∀ a ∈ actors, a.transform.hasNaN = false) :
    moves actors staged = [] := by
  induction actors generalizing staged with
  | nil => simp [moves]
  | cons a actors ih =>
      cases staged with
      | nil => simp [moves]
      | cons next staged =>
          obtain ⟨hsettle, hrest⟩ := List.cons.inj h
          have hmove : a.move? next = none := by
            by_cases heq : a.transform == next
            · simp [Actor.move?, heq]
            · rw [Actor.settle, if_neg heq] at hsettle
              have hsame : next = a.transform := congrArg Actor.transform hsettle
              rw [hsame] at heq
              exact absurd (Transform.beq_self (hnumbers a List.mem_cons_self)) heq
          rw [moves, hmove, ih hrest fun b hb => hnumbers b (List.mem_cons_of_mem _ hb)]
          rfl

theorem CameraState.turn?_of_settled {camera : CameraState} {target : Option Vec3}
    (h : camera.settle target = camera) (hnumber : camera.target.hasNaN = false) :
    camera.turn? target = none := by
  cases target with
  | none => rfl
  | some p =>
      by_cases heq : p == camera.target
      · simp [turn?, heq]
      · rw [settle, if_neg heq] at h
        have hsame : p = camera.target := congrArg CameraState.target h
        rw [hsame] at heq
        exact absurd (Vec3.beq_self hnumber) heq

namespace Session

theorem reveals_of_settled {t : Float32} {annotations : List Annotation}
    {views : List AnnotationView} (h : settleViews t annotations views = views) (index : Nat) :
    reveals t index annotations views = [] := by
  induction annotations generalizing index views with
  | nil => simp [reveals]
  | cons a rest ih =>
      cases views with
      | nil => simp [reveals]
      | cons view views =>
          obtain ⟨hview, hrest⟩ := List.cons.inj h
          have hshown : view == a.viewAt t := by
            by_contra hne
            rw [if_neg hne] at hview
            exact hne (hview ▸ viewAt_beq_self a t)
          rw [reveals, if_pos hshown, ih hrest]
          rfl

-- Where the actors stand and where the camera looks is given in numbers.
def isNumeric (e : Session) : Bool :=
  e.registry.actors.all (!·.transform.hasNaN) && !e.camera.target.hasNaN

-- A session that is as a time leaves it has only its picture drawn at that time.
theorem orders_of_shown {e : Session} {t : Float32} (h : e.shown t = e)
    (hnumeric : e.isNumeric = true) : e.orders t = [.renderFrame] := by
  simp only [isNumeric, Bool.and_eq_true, List.all_eq_true, Bool.not_eq_true'] at hnumeric
  have hactors : Registry.settleAll e.registry.actors (e.staged t) = e.registry.actors :=
    congrArg (·.registry.actors) h
  have hcamera : e.camera.settle (e.focus t) = e.camera := congrArg Session.camera h
  have hviews : settleViews t e.definition.annotations e.views = e.views :=
    congrArg Session.views h
  rw [orders, Registry.moves_of_settled hactors hnumeric.1,
    CameraState.turn?_of_settled hcamera hnumeric.2, reveals_of_settled hviews]
  rfl

variable {σ : Type} [Stage σ]

-- A session, however it came about, that is shown twice at one time on a stage that does what it is
-- told: the second time leaves it, and so its snapshot, exactly as it is, and if it is given in
-- numbers the stage is asked for nothing but the frame.
theorem evaluate_again {e e₁ e₂ : Session} {t : Float32} {s : σ} {w₁ w₂ : Watched σ}
    {result₁ result₂ : Except StageFault Unit}
    (hfirst : e.evaluate t ({ stage := s } : Watched σ) = (result₁, e₁, w₁))
    (hsecond : e₁.evaluate t w₁ = (result₂, e₂, w₂)) (hsmooth : w₂.Smooth) :
    result₁ = .ok () ∧ result₂ = .ok () ∧ e₂ = e₁ ∧
      (e₁.isNumeric = true → w₂.calls = w₁.calls ++ [.perform .renderFrame (.ok ())]) := by
  have hprefix := e₁.evaluate_prefix t w₁
  rw [hsecond] at hprefix
  have hsmooth₁ : (e.evaluate t ({ stage := s } : Watched σ)).2.2.Smooth := by
    rw [hfirst]
    exact hsmooth.of_prefix hprefix
  obtain ⟨w, -, heval₁⟩ := evaluate_of_smooth hsmooth₁
  obtain ⟨rfl, rfl, rfl⟩ : result₁ = .ok () ∧ e₁ = e.shown t ∧ w₁ = w := by
    simpa [hfirst] using heval₁
  have hsmooth₂ : ((e.shown t).evaluate t w₁).2.2.Smooth := by rwa [hsecond]
  obtain ⟨w, hall, heval₂⟩ := evaluate_of_smooth hsmooth₂
  obtain ⟨rfl, rfl, rfl⟩ : result₂ = .ok () ∧ e₂ = (e.shown t).shown t ∧ w₂ = w := by
    simpa [hsecond] using heval₂
  have hstill := shown_shown e t
  refine ⟨rfl, rfl, hstill, fun hnumeric => ?_⟩
  rw [orders_of_shown hstill hnumeric] at hall
  exact Watched.performAll_ok hall

-- A ball on its way, a camera that follows it and a text. The first frame takes four requests, the
-- same frame once more a single one.
theorem same_frame_only_drawn :
    let ball : ActorDefinition := { id := "ball", kind := .sphere }
    let d : Definition :=
      { actors := [ball]
        camera := some { followActor := some "ball" }
        timeline := [{ properties := [⟨⟨"ball", "position"⟩, .position ⟨1, 2, 3⟩⟩] }]
        annotations := [{ text := "a" }] }
    let e : Session := ⟨d, Registry.empty.add ball (some ⟨0⟩), cameraState d, some 0, [.hidden], 0⟩
    let s : Recorder := (load d Recorder.fresh).stage
    let first := e.evaluate 0.5 ({ stage := s } : Watched Recorder)
    let second := first.2.1.evaluate 0.5 first.2.2
    (load d Recorder.fresh).result = .ok e ∧ second.2.2.Smooth ∧ first.2.1.isNumeric = true ∧
      first.2.2.calls.length = 4 ∧ second.2.1.snapshot = first.2.1.snapshot ∧
      second.2.2.calls = first.2.2.calls ++ [.perform .renderFrame (.ok ())] := by
  intro ball d e s first second
  have hsmooth : second.2.2.Smooth := by
    change ∀ call ∈ second.2.2.calls, call.failed = false
    decide +kernel
  have hnumeric : first.2.1.isNumeric = true := by decide +kernel
  have hfirst : first = (first.1, first.2.1, first.2.2) := Prod.ext rfl (Prod.ext rfl rfl)
  have hsecond : second = (second.1, second.2.1, second.2.2) := Prod.ext rfl (Prod.ext rfl rfl)
  obtain ⟨-, -, hsame, hcalls⟩ := evaluate_again hfirst hsecond hsmooth
  exact ⟨rfl, hsmooth, hnumeric, by decide +kernel, congrArg snapshot hsame, hcalls hnumeric⟩

end Session

end Diorama
