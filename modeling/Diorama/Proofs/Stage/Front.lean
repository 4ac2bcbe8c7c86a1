import Diorama.Proofs.Stage.Recording

namespace Diorama

-- A stage in front of a recorder. It may refuse what it is told, and then the recorder does not
-- hear of it; whatever it does is done by the recorder. While it is sound it lets every primitive
-- go.
class Front (σ : Type) [Stage σ] where
  recorder : σ → Recorder
  sound : σ → Prop
  create_ok : ∀ {p : Primitive} {s s' : σ} {handle : Handle}, sound s →
    Stage.create p s = (.ok handle, s') →
      (recorder s).create p = (.ok handle, recorder s') ∧ sound s'
  create_error : ∀ {p : Primitive} {s s' : σ} {fault : StageFault}, sound s →
    Stage.create p s = (.error fault, s') → recorder s' = recorder s ∧ sound s'
  perform_ok : ∀ {order : Order} {s s' : σ}, sound s → Stage.perform order s = (.ok (), s') →
    (recorder s).perform order = (.ok (), recorder s') ∧ sound s'
  perform_error : ∀ {order : Order} {s s' : σ} {fault : StageFault}, sound s →
    Stage.perform order s = (.error fault, s') → recorder s' = recorder s ∧ sound s'
  destroyPrimitive_ok : ∀ {handle : Handle} {s : σ}, sound s →
    (recorder s).primitive? handle ≠ none →
      ∃ s', Stage.perform (.destroyPrimitive handle) s = (.ok (), s')

instance : Front Recorder where
  recorder := id
  sound _ := True
  create_ok _ h := ⟨h, trivial⟩
  create_error _ h := ⟨Recorder.create_error h, trivial⟩
  perform_ok _ h := ⟨h, trivial⟩
  perform_error _ h := ⟨Recorder.perform_error h, trivial⟩
  destroyPrimitive_ok _ h := Recorder.destroyPrimitive_ok h

namespace RefusingStage

-- A plan by which no primitive is kept.
def LetsGo (s : RefusingStage Recorder) : Prop := ∀ n, s.plan .destroyPrimitive n = false

theorem create_cases (p : Primitive) (s : RefusingStage Recorder) :
    Stage.create p s = (.error (.refused .createPrimitive), s.count .createPrimitive) ∨
      Stage.create p s = ((s.inner.create p).1,
        { s.count .createPrimitive with inner := (s.inner.create p).2 }) := by
  by_cases h : s.refuses .createPrimitive = true
  · exact .inl (by simp [Stage.create, h])
  · exact .inr (by simp [Stage.create, h])

theorem perform_cases (order : Order) (s : RefusingStage Recorder) :
    s.refuses order.request = true ∧
        Stage.perform order s = (.error (.refused order.request), s.count order.request) ∨
      Stage.perform order s = ((s.inner.perform order).1,
        { s.count order.request with inner := (s.inner.perform order).2 }) := by
  by_cases h : s.refuses order.request = true
  · exact .inl ⟨h, by simp [Stage.perform, h]⟩
  · exact .inr (by simp [Stage.perform, h])

instance : Front (RefusingStage Recorder) where
  recorder s := s.inner
  sound := LetsGo
  create_ok {p s s' handle} hs h := by
    rcases create_cases p s with hrefused | hpassed
    · rw [hrefused] at h
      cases h
    · rw [hpassed] at h
      obtain ⟨hresult, rfl⟩ := Prod.mk.inj h
      exact ⟨Prod.ext hresult rfl, hs⟩
  create_error {p s s' fault} hs h := by
    rcases create_cases p s with hrefused | hpassed
    · rw [hrefused] at h
      cases h
      exact ⟨rfl, hs⟩
    · rw [hpassed] at h
      obtain ⟨hresult, rfl⟩ := Prod.mk.inj h
      exact ⟨Recorder.create_error (Prod.ext hresult rfl), hs⟩
  perform_ok {order s s'} hs h := by
    rcases perform_cases order s with ⟨-, hrefused⟩ | hpassed
    · rw [hrefused] at h
      cases h
    · rw [hpassed] at h
      obtain ⟨hresult, rfl⟩ := Prod.mk.inj h
      exact ⟨Prod.ext hresult rfl, hs⟩
  perform_error {order s s' fault} hs h := by
    rcases perform_cases order s with ⟨-, hrefused⟩ | hpassed
    · rw [hrefused] at h
      cases h
      exact ⟨rfl, hs⟩
    · rw [hpassed] at h
      obtain ⟨hresult, rfl⟩ := Prod.mk.inj h
      exact ⟨Recorder.perform_error (Prod.ext hresult rfl), hs⟩
  destroyPrimitive_ok {handle s} hs h := by
    rcases perform_cases (.destroyPrimitive handle) s with ⟨hrefuses, -⟩ | hpassed
    · have hplan := hs (s.timesAsked .destroyPrimitive)
      rw [refuses, Order.request, hplan] at hrefuses
      cases hrefuses
    · obtain ⟨inner, hinner⟩ := Recorder.destroyPrimitive_ok h
      exact ⟨_, by rw [hpassed, hinner]⟩

end RefusingStage

end Diorama
