import Diorama.Stage.Basic

namespace Diorama

-- What passes a test on results is one.
theorem exists_of_any {ε α : Type} {result : Except ε α} {test : α → Bool}
    (h : result.toOption.any test = true) : ∃ a, result = .ok a ∧ test a = true := by
  cases result with
  | error fault => cases h
  | ok a => exact ⟨a, rfl, h⟩

-- Whether an order that was carried out is given again for the same time. What it says then has to
-- differ from itself, as numbers do that are none; only a frame is asked for every time.
def Order.recurs : Order → Bool
  | .setTransform _ tf => !(tf == tf)
  | .setCamera camera => !(camera.target == camera.target)
  | .updateOverlay _ view => !(view == view)
  | _ => true

namespace Stage

variable {σ : Type} [Stage σ]

-- Orders one after the other, up to the first that is not carried out.
def performAll : List Order → σ → Except StageFault Unit × σ
  | [], s => (.ok (), s)
  | order :: rest, s =>
    match Stage.perform order s with
    | (.ok (), s) => performAll rest s
    | (.error fault, s) => (.error fault, s)

@[simp] theorem performAll_nil (s : σ) : performAll [] s = (.ok (), s) := rfl

theorem performAll_cons_ok {order : Order} {s s' : σ} (h : Stage.perform order s = (.ok (), s'))
    (rest : List Order) : performAll (order :: rest) s = performAll rest s' := by
  simp [performAll, h]

theorem performAll_cons_error {order : Order} {s s' : σ} {fault : StageFault}
    (h : Stage.perform order s = (.error fault, s')) (rest : List Order) :
    performAll (order :: rest) s = (.error fault, s') := by
  simp [performAll, h]

theorem performAll_cons_inv {order : Order} {rest : List Order} {s s' : σ}
    (h : performAll (order :: rest) s = (.ok (), s')) :
    ∃ middle, Stage.perform order s = (.ok (), middle) ∧ performAll rest middle = (.ok (), s') := by
  rcases hp : Stage.perform order s with ⟨_ | _, middle⟩
  · simp [performAll_cons_error hp] at h
  · exact ⟨middle, rfl, performAll_cons_ok hp rest ▸ h⟩

@[simp] theorem performAll_singleton (order : Order) (s : σ) :
    performAll [order] s = Stage.perform order s := by
  rcases h : Stage.perform order s with ⟨_ | _, s'⟩
  · exact performAll_cons_error h []
  · exact performAll_cons_ok h []

theorem performAll_append_ok {first : List Order} {s s' : σ}
    (h : performAll first s = (.ok (), s')) (second : List Order) :
    performAll (first ++ second) s = performAll second s' := by
  induction first generalizing s with
  | nil =>
      obtain rfl : s = s' := congrArg Prod.snd h
      rfl
  | cons order rest ih =>
      obtain ⟨middle, hp, hrest⟩ := performAll_cons_inv h
      rw [List.cons_append, performAll_cons_ok hp, ih hrest]

theorem performAll_append_error {first : List Order} {s s' : σ} {fault : StageFault}
    (h : performAll first s = (.error fault, s')) (second : List Order) :
    performAll (first ++ second) s = (.error fault, s') := by
  induction first generalizing s with
  | nil => cases h
  | cons order rest ih =>
      rcases hp : Stage.perform order s with ⟨_ | _, s''⟩
      · rw [performAll_cons_error hp] at h
        rw [List.cons_append, performAll_cons_error hp, h]
      · rw [performAll_cons_ok hp] at h
        rw [List.cons_append, performAll_cons_ok hp, ih h]

theorem performAll_append_inv {first second : List Order} {s s' : σ}
    (h : performAll (first ++ second) s = (.ok (), s')) :
    ∃ middle, performAll first s = (.ok (), middle) ∧ performAll second middle = (.ok (), s') := by
  rcases hfirst : performAll first s with ⟨_ | _, middle⟩
  · simp [performAll_append_error hfirst] at h
  · exact ⟨middle, rfl, performAll_append_ok hfirst second ▸ h⟩

-- Orders are carried out up to one that is not.
def BreaksAt (order : Order) (before : List Order) (s : σ) (fault : StageFault) (s' : σ) : Prop :=
  ∃ middle, performAll before s = (.ok (), middle) ∧ Stage.perform order middle = (.error fault, s')

theorem BreaksAt.append {order : Order} {before : List Order} {s s' s'' : σ} {fault : StageFault}
    (h : BreaksAt order before s' fault s'') {first : List Order}
    (hfirst : performAll first s = (.ok (), s')) :
    BreaksAt order (first ++ before) s fault s'' := by
  obtain ⟨middle, hbefore, horder⟩ := h
  exact ⟨middle, by rw [performAll_append_ok hfirst, hbefore], horder⟩

theorem BreaksAt.cons {order next : Order} {before : List Order} {s s' s'' : σ} {fault : StageFault}
    (h : BreaksAt order before s' fault s'') (hnext : Stage.perform next s = (.ok (), s')) :
    BreaksAt order (next :: before) s fault s'' := by
  have hfirst : performAll [next] s = (.ok (), s') := by simpa using hnext
  exact h.append hfirst

theorem BreaksAt.performAll_eq {order : Order} {before : List Order} {s s' : σ} {fault : StageFault}
    (h : BreaksAt order before s fault s') (after : List Order) :
    performAll (before ++ order :: after) s = (.error fault, s') := by
  obtain ⟨middle, hbefore, horder⟩ := h
  rw [performAll_append_ok hbefore, performAll_cons_error horder]

-- Orders break off at one place.
theorem BreaksAt.unique {order other : Order} {before after before' after' : List Order} {s s' s'' : σ}
    {fault fault' : StageFault} (h : BreaksAt order before s fault s')
    (h' : BreaksAt other before' s fault' s'')
    (heq : before ++ order :: after = before' ++ other :: after') :
    before = before' ∧ order = other ∧ after = after' := by
  induction before generalizing before' s with
  | nil =>
      cases before' with
      | nil => simpa using heq
      | cons first rest =>
          obtain ⟨middle, hnone, horder⟩ := h
          obtain rfl : s = middle := congrArg Prod.snd hnone
          obtain ⟨middle', hbefore, -⟩ := h'
          obtain ⟨rfl, -⟩ := List.cons.inj heq
          simp [performAll_cons_error horder] at hbefore
  | cons next before ih =>
      obtain ⟨middle, hbefore, horder⟩ := h
      obtain ⟨middle', hbefore', horder'⟩ := h'
      cases before' with
      | nil =>
          obtain rfl : s = middle' := congrArg Prod.snd hbefore'
          obtain ⟨rfl, -⟩ := List.cons.inj heq
          simp [performAll_cons_error horder'] at hbefore
      | cons first rest =>
          obtain ⟨rfl, htail⟩ := List.cons.inj heq
          obtain ⟨s₁, hp, hbefore⟩ := performAll_cons_inv hbefore
          rw [performAll_cons_ok hp] at hbefore'
          obtain ⟨rfl, rfl, rfl⟩ := ih ⟨middle, hbefore, horder⟩ ⟨middle', hbefore', horder'⟩ htail
          exact ⟨rfl, rfl, rfl⟩

end Stage

end Diorama
