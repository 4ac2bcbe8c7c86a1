import Diorama.Proofs.Stage.Sending

namespace Diorama

-- The primitive that an order takes away.
def Order.destroyed? : Order → Option Handle
  | .destroyPrimitive handle => some handle
  | _ => none

-- What a stage was told, with what it answered.
inductive Call where
  | create (p : Primitive) (answer : Except StageFault Handle)
  | perform (order : Order) (answer : Except StageFault Unit)

namespace Call

def failed : Call → Bool
  | .create _ answer => !answer.isOk
  | .perform _ answer => !answer.isOk

def made? : Call → Option Handle
  | .create _ answer => answer.toOption
  | .perform _ _ => none

def asked? : Call → Option Handle
  | .create _ _ => none
  | .perform order _ => order.destroyed?

def gone? (call : Call) : Option Handle := if call.failed then none else call.asked?

def refused? (call : Call) : Option Handle := if call.failed then call.asked? else none

-- The primitives that were made, that the stage was asked to let go of, and that it then did and
-- did not let go of.
def made (calls : List Call) : List Handle := calls.filterMap made?

def asked (calls : List Call) : List Handle := calls.filterMap asked?

def gone (calls : List Call) : List Handle := calls.filterMap gone?

def refused (calls : List Call) : List Handle := calls.filterMap refused?

@[simp] theorem made_append (calls since : List Call) :
    made (calls ++ since) = made calls ++ made since := List.filterMap_append

@[simp] theorem gone_append (calls since : List Call) :
    gone (calls ++ since) = gone calls ++ gone since := List.filterMap_append

@[simp] theorem refused_append (calls since : List Call) :
    refused (calls ++ since) = refused calls ++ refused since := List.filterMap_append

end Call

-- A stage together with the calls that were made to it, the oldest first.
structure Watched (σ : Type) where
  stage : σ
  calls : List Call := []

namespace Watched

variable {σ : Type} [Stage σ]

instance : Stage (Watched σ) where
  create p w :=
    let (answer, stage) := Stage.create p w.stage
    (answer, { stage, calls := w.calls ++ [.create p answer] })
  perform order w :=
    let (answer, stage) := Stage.perform order w.stage
    (answer, { stage, calls := w.calls ++ [.perform order answer] })

theorem create_inv {p : Primitive} {w w' : Watched σ} {answer : Except StageFault Handle}
    (h : Stage.create p w = (answer, w')) :
    Stage.create p w.stage = (answer, w'.stage) ∧ w'.calls = w.calls ++ [.create p answer] := by
  obtain ⟨rfl, rfl⟩ := Prod.mk.inj h
  exact ⟨rfl, rfl⟩

theorem perform_inv {order : Order} {w w' : Watched σ} {answer : Except StageFault Unit}
    (h : Stage.perform order w = (answer, w')) :
    Stage.perform order w.stage = (answer, w'.stage) ∧
      w'.calls = w.calls ++ [.perform order answer] := by
  obtain ⟨rfl, rfl⟩ := Prod.mk.inj h
  exact ⟨rfl, rfl⟩

theorem performAll_ok {orders : List Order} {w w' : Watched σ}
    (h : Stage.performAll orders w = (.ok (), w')) :
    w'.calls = w.calls ++ orders.map (.perform · (.ok ())) := by
  induction orders generalizing w with
  | nil =>
      obtain rfl : w = w' := congrArg Prod.snd h
      simp
  | cons order rest ih =>
      obtain ⟨middle, hp, hrest⟩ := Stage.performAll_cons_inv h
      rw [ih hrest, (perform_inv hp).2]
      simp

theorem breaksAt {order : Order} {before : List Order} {w w' : Watched σ} {fault : StageFault}
    (h : Stage.BreaksAt order before w fault w') :
    w'.calls = w.calls ++
      (before.map (.perform · (.ok ())) ++ [.perform order (.error fault)]) := by
  obtain ⟨middle, hbefore, horder⟩ := h
  rw [(perform_inv horder).2, performAll_ok hbefore, List.append_assoc]

-- Nothing that the stage was told has failed.
def Smooth (w : Watched σ) : Prop := ∀ call ∈ w.calls, call.failed = false

omit [Stage σ] in
theorem Smooth.of_prefix {w w' : Watched σ} (h : w'.Smooth) (hcalls : w.calls <+: w'.calls) :
    w.Smooth := fun call hmem => h call (hcalls.subset hmem)

theorem Smooth.created {p : Primitive} {w w' : Watched σ} {answer : Except StageFault Handle}
    (h : w'.Smooth) (hp : Stage.create p w = (answer, w')) : ∃ handle, answer = .ok handle := by
  have hdone := h (.create p answer) (by simp [(create_inv hp).2])
  cases answer with
  | ok handle => exact ⟨handle, rfl⟩
  | error fault => cases hdone

theorem Smooth.performed {order : Order} {w w' : Watched σ} {answer : Except StageFault Unit}
    (h : w'.Smooth) (hp : Stage.perform order w = (answer, w')) : answer = .ok () := by
  have hdone := h (.perform order answer) (by simp [(perform_inv hp).2])
  cases answer with
  | ok done => rfl
  | error fault => cases hdone

theorem perform_prefix (order : Order) (w : Watched σ) :
    w.calls <+: (Stage.perform order w).2.calls :=
  ⟨_, (perform_inv rfl).2.symm⟩

theorem performAll_prefix (orders : List Order) (w : Watched σ) :
    w.calls <+: (Stage.performAll orders w).2.calls := by
  induction orders generalizing w with
  | nil => exact List.prefix_refl _
  | cons order rest ih =>
      have hfirst := perform_prefix order w
      rcases hp : Stage.perform order w with ⟨_ | _, w'⟩ <;> rw [hp] at hfirst
      · rw [Stage.performAll_cons_error hp]
        exact hfirst
      · rw [Stage.performAll_cons_ok hp]
        exact hfirst.trans (ih w')

end Watched

end Diorama
