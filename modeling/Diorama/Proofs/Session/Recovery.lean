import Diorama.Proofs.Session.Agreement
import Diorama.Proofs.Stage.Updates

namespace Diorama

open Stage (performAll BreaksAt)
open Registry (mem_placements placements_handles)

-- A stage that lets some requests pass, refuses the next one before it reaches the stage behind,
-- and lets all others pass again.
structure Faltering (σ : Type) where
  inner : σ
  passes : Option Nat

namespace Faltering

variable {σ : Type} [Stage σ]

instance : Stage (Faltering σ) where
  create p s :=
    if s.passes = some 0 then (.error (.refused .createPrimitive), { s with passes := none })
    else
      let (result, inner) := Stage.create p s.inner
      (result, { inner, passes := s.passes.map (· - 1) })
  perform order s :=
    if s.passes = some 0 then (.error (.refused order.request), { s with passes := none })
    else
      let (result, inner) := Stage.perform order s.inner
      (result, { inner, passes := s.passes.map (· - 1) })

theorem performAll_passing {orders : List Order} {s s' : σ} (passes : Option Nat)
    (hpasses : ∀ n ∈ passes, orders.length ≤ n) (h : performAll orders s = (.ok (), s')) :
    performAll orders (⟨s, passes⟩ : Faltering σ) =
      (.ok (), ⟨s', passes.map (· - orders.length)⟩) := by
  induction orders generalizing s passes with
  | nil =>
      obtain rfl : s = s' := congrArg Prod.snd h
      simp
  | cons order rest ih =>
      obtain ⟨s₁, hp, hrest⟩ := Stage.performAll_cons_inv h
      have hsome : passes ≠ some 0 := fun he => by simpa using hpasses 0 he
      have hpassed : Stage.perform order (⟨s, passes⟩ : Faltering σ) =
          (.ok (), ⟨s₁, passes.map (· - 1)⟩) := by
        simp [Stage.perform, hp, hsome]
      have hleft : ∀ n ∈ passes.map (· - 1), rest.length ≤ n := by
        intro n hn
        obtain ⟨m, hm, rfl⟩ := Option.map_eq_some_iff.mp hn
        have hlength := hpasses m hm
        rw [List.length_cons] at hlength
        omega
      rw [Stage.performAll_cons_ok hpassed, ih _ hleft hrest, Option.map_map]
      simp only [Function.comp_def, Nat.sub_sub, List.length_cons, Nat.add_comm 1]

-- The request after those that pass is the one that is refused.
theorem breaksAt {before : List Order} {s s' : σ} (order : Order)
    (h : performAll before s = (.ok (), s')) :
    BreaksAt order before (⟨s, some before.length⟩ : Faltering σ) (.refused order.request)
      ⟨s', none⟩ :=
  ⟨⟨s', some 0⟩, by simpa using performAll_passing (some before.length) (by simp) h,
    by simp [Stage.perform]⟩

end Faltering

variable {first : Recorder}

theorem Registry.mem_moves {actors : List Actor} {staged : List Transform} {order : Order}
    (h : order ∈ Registry.moves actors staged) :
    ∃ a ∈ actors, ∃ handle next, a.handle = some handle ∧ ¬(a.transform == next) = true ∧
      order = .setTransform handle next := by
  induction actors generalizing staged with
  | nil => simp [moves] at h
  | cons a actors ih =>
      cases staged with
      | nil => simp [moves] at h
      | cons next staged =>
          rw [moves, List.mem_append] at h
          rcases h with h | h
          · by_cases heq : a.transform == next
            · simp [Actor.move?, heq] at h
            · obtain ⟨handle, hh, rfl⟩ : ∃ handle, a.handle = some handle ∧
                  .setTransform handle next = order := by simpa [Actor.move?, heq] using h
              exact ⟨a, List.mem_cons_self, handle, next, hh, heq, rfl⟩
          · obtain ⟨b, hb, hrest⟩ := ih h
            exact ⟨b, List.mem_cons_of_mem _ hb, hrest⟩

theorem Registry.moves_subjects (actors : List Actor) (staged : List Transform) :
    ((moves actors staged).map Order.subject).Sublist
      ((actors.filterMap (·.handle)).map Subject.primitive) := by
  induction actors generalizing staged with
  | nil => simp [moves]
  | cons a actors ih =>
      cases staged with
      | nil => simp [moves]
      | cons next staged =>
          have hrest := ih staged
          cases hh : a.handle with
          | none => simpa [moves, Actor.move?, hh] using hrest
          | some handle =>
              by_cases heq : a.transform == next
              · simpa [moves, Actor.move?, hh, heq] using hrest.cons _
              · simpa [moves, Actor.move?, hh, heq, Order.subject] using hrest

theorem CameraState.eq_of_turn? {camera : CameraState} {target : Option Vec3} {order : Order}
    (h : camera.turn? target = some order) :
    ∃ p, ¬(p == camera.target) = true ∧ order = .setCamera { camera with target := p } := by
  cases target with
  | none => simp [turn?] at h
  | some p =>
      by_cases heq : p == camera.target
      · simp [turn?, heq] at h
      · refine ⟨p, heq, ?_⟩
        rw [turn?, if_neg heq] at h
        exact (Option.some.inj h).symm

namespace Session

theorem mem_reveals {t : Float32} {index : Nat} {annotations : List Annotation}
    {views : List AnnotationView} {order : Order} (h : order ∈ reveals t index annotations views) :
    ∃ i view next, views[i]? = some view ∧ ¬(view == next) = true ∧
      order = .updateOverlay (index + i) next := by
  induction annotations generalizing index views with
  | nil => simp [reveals] at h
  | cons a rest ih =>
      cases views with
      | nil => simp [reveals] at h
      | cons view views =>
          rw [reveals, List.mem_append] at h
          rcases h with h | h
          · by_cases heq : view == a.viewAt t
            · simp [heq] at h
            · rw [if_neg heq, List.mem_singleton] at h
              exact ⟨0, view, a.viewAt t, rfl, heq, h⟩
          · obtain ⟨i, shown, next, hi, hne, rfl⟩ := ih h
            exact ⟨i + 1, shown, next, hi, hne, by rw [Nat.add_assoc, Nat.add_comm 1 i]⟩

theorem reveals_subjects (t : Float32) (index : Nat) (annotations : List Annotation)
    (views : List AnnotationView) :
    ((reveals t index annotations views).map Order.subject).Sublist
      ((List.range' index annotations.length).map Subject.overlay) := by
  induction annotations generalizing index views with
  | nil => simp [reveals]
  | cons a rest ih =>
      cases views with
      | nil => simp [reveals]
      | cons view views =>
          have hrest := ih (index + 1) views
          rw [List.length_cons, List.range'_succ, List.map_cons]
          by_cases heq : view == a.viewAt t
          · simpa [reveals, heq] using hrest.cons _
          · simpa [reveals, heq, Order.subject] using hrest

-- No two orders of a frame are about the same thing.
theorem orders_subjects_nodup {e : Session} {s : Recorder} (h : e.Stands first s) (t : Float32) :
    ((e.orders t).map Order.subject).Nodup := by
  have hturn : ((e.camera.turn? (e.focus t)).toList.map Order.subject).Sublist [.camera] := by
    cases hc : e.camera.turn? (e.focus t) with
    | none => simp
    | some order =>
        obtain ⟨p, -, rfl⟩ := CameraState.eq_of_turn? hc
        simp [Order.subject]
  have hhandles : (e.registry.actors.filterMap (·.handle)).Nodup :=
    placements_handles e.registry.actors ▸ h.owes.nodup
  have hall : ((e.registry.actors.filterMap Actor.handle).map Subject.primitive ++
      ([Subject.camera] ++ ((List.range' 0 e.definition.annotations.length).map Subject.overlay ++
        [Subject.frame]))).Nodup := by
    have hprimitives := hhandles.map (f := Subject.primitive) fun _ _ he => Subject.primitive.inj he
    have hoverlays := (List.nodup_range' (s := 0) (n := e.definition.annotations.length)).map
      (f := Subject.overlay) fun _ _ he => Subject.overlay.inj he
    rw [List.nodup_append]
    refine ⟨hprimitives, by simp [List.nodup_append, hoverlays], ?_⟩
    rintro _ hprimitive _ hother rfl
    obtain ⟨handle, -, rfl⟩ := List.mem_map.mp hprimitive
    simp at hother
  refine List.Nodup.sublist ?_ hall
  simp only [orders, List.map_append]
  exact (Registry.moves_subjects _ _).append
    (hturn.append ((reveals_subjects _ _ _ _).append (List.Sublist.refl _)))

theorem orders_accepted {e : Session} {s : Recorder} (h : e.Stands first s) {t : Float32}
    {order : Order} (hmem : order ∈ e.orders t) : s.scenery.Accepts order := by
  simp only [orders, List.mem_append, List.mem_singleton] at hmem
  rcases hmem with hmem | hmem | hmem | rfl
  · obtain ⟨a, ha, handle, next, hh, -, rfl⟩ := Registry.mem_moves hmem
    exact h.owes.ne_none (mem_placements.mpr ⟨a, ha, hh, rfl⟩)
  · obtain ⟨p, -, rfl⟩ := CameraState.eq_of_turn? (Option.mem_toList.mp hmem)
    trivial
  · obtain ⟨i, view, next, -, -, rfl⟩ := mem_reveals hmem
    trivial
  · trivial

-- The frame is drawn at the very end.
theorem renderFrame_notMem {e : Session} {s : Recorder} (h : e.Stands first s) {t : Float32}
    {before after : List Order} {order : Order} (hsplit : e.orders t = before ++ order :: after) :
    .renderFrame ∉ before := by
  intro hmem
  have hlast : (e.orders t).getLast? = some .renderFrame := by simp [orders]
  rw [hsplit, List.getLast?_append_of_ne_nil _ (List.cons_ne_nil _ _)] at hlast
  have hnodup := orders_subjects_nodup h t
  rw [hsplit, List.map_append, List.nodup_append] at hnodup
  exact hnodup.2.2 _ (List.mem_map_of_mem hmem) _
    (List.mem_map_of_mem (List.mem_of_getLast? hlast)) rfl

-- What is asked for is not there yet, unless it is asked for every time.
theorem not_holds_of_mem_orders {e : Session} {s : Recorder} (h : e.Stands first s) {t : Float32}
    {order : Order} (hmem : order ∈ e.orders t) (honce : order.recurs = false) :
    ¬s.scenery.Holds order := by
  intro hholds
  simp only [orders, List.mem_append, List.mem_singleton] at hmem
  rcases hmem with hmem | hmem | hmem | rfl
  · obtain ⟨a, ha, handle, next, hh, hne, rfl⟩ := Registry.mem_moves hmem
    have hplaced := h.owes.placed _ (mem_placements.mpr ⟨a, ha, hh, rfl⟩)
    have hsame : a.transform = next := Option.some.inj (hplaced.symm.trans hholds)
    simp only [Order.recurs, Bool.not_eq_false'] at honce
    exact hne (hsame ▸ honce)
  · obtain ⟨p, hne, rfl⟩ := CameraState.eq_of_turn? (Option.mem_toList.mp hmem)
    have hsame : e.camera = { e.camera with target := p } :=
      Option.some.inj (h.camera.symm.trans hholds)
    have htarget : e.camera.target = p := congrArg CameraState.target hsame
    simp only [Order.recurs, Bool.not_eq_false'] at honce
    exact hne (htarget ▸ honce)
  · obtain ⟨i, view, next, hi, hne, rfl⟩ := mem_reveals hmem
    rw [Nat.zero_add] at hholds
    have hsame : view = next := Option.some.inj ((h.views i view hi).symm.trans hholds)
    simp only [Order.recurs, Bool.not_eq_false'] at honce
    exact hne (hsame ▸ honce)
  · cases honce

-- The sessions that come of setting up an animation and showing it, all without a failure.
inductive Reached : Session → Recorder → Prop where
  | load {d : Definition} {s : Recorder} {e : Session} (hload : (Session.load d s).result = .ok e) :
      Reached e (Session.load d s).stage
  | evaluate {e e' : Session} {s s' : Recorder} (h : Reached e s) {t : Float32}
      (hevaluate : e.evaluate t s = (.ok (), e', s')) : Reached e' s'

theorem Reached.stands {e : Session} {s : Recorder} (h : e.Reached s) :
    ∃ first, e.Stands first s := by
  induction h with
  | @load d s e hload =>
      have hstands := load_stands (σ := Recorder) d (s := s) trivial
      rw [hload] at hstands
      exact ⟨s, hstands.2⟩
  | @evaluate e e' s s' h t hevaluate ih =>
      obtain ⟨first, hstands⟩ := ih
      obtain ⟨shown, hshown, hstands'⟩ := evaluate_stands hstands t
      rw [hevaluate] at hshown
      cases hshown
      exact ⟨first, hstands'⟩

-- When a frame breaks off at an order and is begun again, everything is as if nothing had happened,
-- but for what the order itself was to change: that is lost, unless the order recurs.
theorem retry_recovers_iff {e : Session} {s : Recorder} (h : e.Reached s) (t : Float32) (k : Nat)
    (hk : k < (e.orders t).length) :
    ∃ halted s₁ s₂ s₃,
      e.evaluate t (⟨s, some k⟩ : Faltering Recorder) =
        (.error (.refused (e.orders t)[k].request), halted, ⟨s₁, none⟩) ∧
      halted.evaluate t (⟨s₁, none⟩ : Faltering Recorder) = (.ok (), e.shown t, ⟨s₂, none⟩) ∧
      e.evaluate t s = (.ok (), e.shown t, s₃) ∧
      s₃.log.toList = s.log.toList ++ (e.orders t).map Order.entry ∧
      (s₂.primitives = s₃.primitives ∧ s₂.camera = s₃.camera ∧ s₂.annotations = s₃.annotations ↔
        (e.orders t)[k].recurs = true) := by
  obtain ⟨first, hstands⟩ := h.stands
  have hnodup := orders_subjects_nodup hstands t
  have haccepted : ∀ order ∈ e.orders t, s.scenery.Accepts order :=
    fun order hmem => orders_accepted hstands hmem
  obtain ⟨s₃, hclean, hscenery₃, hlog, -⟩ := Recorder.performAll_of_accepts haccepted
  have hlength : ((e.orders t).take k).length = k := List.length_take_of_le (Nat.le_of_lt hk)
  have hsplit : e.orders t = (e.orders t).take k ++ (e.orders t)[k] :: (e.orders t).drop (k + 1) := by
    rw [List.getElem_cons_drop, List.take_append_drop]
  have honce := not_holds_of_mem_orders hstands (List.getElem_mem hk)
  have hframe := renderFrame_notMem hstands hsplit
  generalize (e.orders t)[k] = order at hsplit honce ⊢
  generalize (e.orders t).take k = before at hlength hsplit hframe
  generalize (e.orders t).drop (k + 1) = after at hsplit
  subst hlength
  rw [hsplit] at hnodup
  have hbefore : ∀ order ∈ before, s.scenery.Accepts order := fun other hmem =>
    haccepted other (hsplit ▸ List.mem_append_left _ hmem)
  -- the first attempt
  obtain ⟨s₁, hpassed, hscenery₁, -, hkeeps⟩ := Recorder.performAll_of_accepts hbefore
  have hbreaks := Faltering.breaksAt order hpassed
  obtain ⟨before', order', after', halted, hsplit', hbreaks', hhalted, hshown, horders⟩ :=
    evaluate_error (show performAll (e.orders t) _ = _ from hsplit ▸ hbreaks.performAll_eq after)
  obtain ⟨rfl, rfl, rfl⟩ := hbreaks.unique hbreaks' (hsplit.symm.trans hsplit')
  -- the second attempt
  have hretried : ∀ other ∈ halted.orders t, s₁.scenery.Accepts other := by
    intro other hmem
    rw [horders, List.mem_append, List.mem_filter] at hmem
    apply hkeeps
    apply haccepted
    rw [hsplit]
    simp only [List.mem_append, List.mem_cons, List.not_mem_nil, or_false] at hmem ⊢
    tauto
  obtain ⟨s₂, hretry, hscenery₂, -, -⟩ := Recorder.performAll_of_accepts hretried
  have hagain := evaluate_ok (Faltering.performAll_passing none (by simp) hretry)
  rw [hshown] at hagain
  refine ⟨halted, s₁, s₂, s₃, hhalted, hagain, evaluate_ok hclean, hlog, ?_⟩
  rw [horders, hscenery₁] at hscenery₂
  rw [hsplit] at hscenery₃
  exact Scenery.update_retry_iff (hsplit ▸ haccepted) hnodup hframe honce hscenery₂ hscenery₃

-- A view that was shown and a frame that was not drawn: the second time only the frame is drawn.
theorem retry_draws_frame :
    let d : Definition := { annotations := [{ text := "a" }] }
    let e : Session := ⟨d, {}, cameraState d, none, [.hidden], 0⟩
    let s : Recorder := (load d Recorder.fresh).stage
    e.Reached s ∧ 1 < (e.orders 1).length ∧
      ∃ halted s₁ s₂ s₃,
        e.evaluate 1 (⟨s, some 1⟩ : Faltering Recorder) =
          (.error (.refused .renderFrame), halted, ⟨s₁, none⟩) ∧
        halted.evaluate 1 (⟨s₁, none⟩ : Faltering Recorder) = (.ok (), e.shown 1, ⟨s₂, none⟩) ∧
        e.evaluate 1 s = (.ok (), e.shown 1, s₃) ∧
        s₂.primitives = s₃.primitives ∧ s₂.camera = s₃.camera ∧
          s₂.annotations = s₃.annotations := by
  intro d e s
  have hreached : e.Reached s := .load rfl
  have hk : 1 < (e.orders 1).length := by decide
  obtain ⟨halted, s₁, s₂, s₃, hhalted, hagain, hclean, -, hiff⟩ :=
    retry_recovers_iff hreached 1 1 hk
  exact ⟨hreached, hk, halted, s₁, s₂, s₃, hhalted, hagain, hclean, hiff.mpr rfl⟩

-- An annotation whose view was refused once is counted as shown and stays hidden.
theorem refused_view_lost :
    let loaded := load { annotations := [{ text := "a" }] } Recorder.fresh
    ∃ e halted s₁ s₂ s₃, loaded.result = .ok e ∧
      e.evaluate 1 (⟨loaded.stage, some 0⟩ : Faltering Recorder) =
        (.error (.refused .updateOverlay), halted, ⟨s₁, none⟩) ∧
      halted.evaluate 1 (⟨s₁, none⟩ : Faltering Recorder) = (.ok (), e.shown 1, ⟨s₂, none⟩) ∧
      e.evaluate 1 loaded.stage = (.ok (), e.shown 1, s₃) ∧
      s₃.annotations.get? 0 = some ⟨true, 1⟩ ∧ s₂.annotations.get? 0 = some .hidden :=
  ⟨_, _, _, _, _, rfl, rfl, rfl, rfl, by decide, by decide⟩

end Session

end Diorama
