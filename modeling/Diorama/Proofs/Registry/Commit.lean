import Diorama.Proofs.Registry.Consistency
import Diorama.Proofs.Stage.Sending

namespace Diorama

open Stage (performAll BreaksAt)

namespace Actor

-- The actor once a staged transform is committed. What compares equal is left as it is.
def settle (a : Actor) (next : Transform) : Actor :=
  if a.transform == next then a else { a with transform := next }

-- The order that goes with it, if there is a primitive to move.
def move? (a : Actor) (next : Transform) : Option Order :=
  if a.transform == next then none else a.handle.map (.setTransform · next)

theorem settle_settle (a : Actor) (next : Transform) :
    (a.settle next).settle next = a.settle next := by
  by_cases h : a.transform == next
  · simp [settle, h]
  · simp [settle, h]

theorem move?_settle (a : Actor) (next : Transform) :
    ((a.settle next).move? next).toList = (a.move? next).toList.filter Order.recurs := by
  by_cases h : a.transform == next
  · simp [settle, move?, h]
  · cases hh : a.handle with
    | none => simp [settle, move?, h, hh]
    | some handle => by_cases hn : next == next <;> simp [settle, move?, h, hh, hn, Order.recurs]

theorem settle_role (a : Actor) (next : Transform) : (a.settle next).role = a.role := by
  by_cases h : a.transform == next
  · simp [settle, h]
  · simp [settle, h, role]

theorem settle_transform (a : Actor) (next : Transform) :
    (a.settle next).transform = a.transform ∨ (a.settle next).transform = next := by
  by_cases h : a.transform == next
  · exact .inl (by simp [settle, h])
  · exact .inr (by simp [settle, h])

end Actor

namespace Registry

variable {σ : Type} [Stage σ]

def settleAll : List Actor → List Transform → List Actor
  | a :: actors, next :: staged => a.settle next :: settleAll actors staged
  | actors, _ => actors

theorem getElem?_settleAll (actors : List Actor) (staged : List Transform) (index : Nat) :
    (settleAll actors staged)[index]? =
      actors[index]?.map fun a => (staged[index]?.map a.settle).getD a := by
  induction actors generalizing staged index with
  | nil => simp [settleAll]
  | cons a actors ih =>
      cases staged with
      | nil => simp [settleAll]
      | cons next staged =>
          cases index with
          | zero => rfl
          | succ index => simpa [settleAll] using ih staged index

-- The orders of a commit.
def moves : List Actor → List Transform → List Order
  | a :: actors, next :: staged => (a.move? next).toList ++ moves actors staged
  | _, _ => []

theorem commitActors_ok {actors : List Actor} {staged : List Transform} {s s' : σ}
    (h : performAll (moves actors staged) s = (.ok (), s')) :
    commitActors actors staged s = (.ok (), settleAll actors staged, s') := by
  induction actors generalizing staged s with
  | nil =>
      obtain rfl : s = s' := congrArg Prod.snd h
      simp [commitActors, settleAll]
  | cons a actors ih =>
      cases staged with
      | nil =>
          obtain rfl : s = s' := congrArg Prod.snd h
          simp [commitActors, settleAll]
      | cons next staged =>
          rw [moves] at h
          by_cases heq : a.transform == next
          · rw [show a.move? next = none by simp [Actor.move?, heq]] at h
            simp [commitActors, settleAll, Actor.settle, heq, ih h]
          · cases hh : a.handle with
            | none =>
                rw [show a.move? next = none by simp [Actor.move?, hh]] at h
                simp [commitActors, settleAll, Actor.settle, heq, hh, ih h]
            | some handle =>
                rw [show a.move? next = some (.setTransform handle next) by
                  simp [Actor.move?, heq, hh]] at h
                simp only [Option.toList_some, List.cons_append, List.nil_append] at h
                obtain ⟨middle, hp, hrest⟩ := Stage.performAll_cons_inv h
                simp [commitActors, settleAll, Actor.settle, heq, hh, hp, ih hrest]

-- Actors some of which have been settled already. What they stand on is either old or new, and
-- settling the others leads to the same end.
structure Resumes (actors : List Actor) (staged : List Transform) (reached : List Actor) : Prop where
  settleAll_eq : settleAll reached staged = settleAll actors staged
  cast : reached.map Actor.role = actors.map Actor.role
  transform : ∀ index : Nat, (reached.map (·.transform))[index]? = (actors.map (·.transform))[index]? ∨
    (reached.map (·.transform))[index]? = staged[index]?

theorem Resumes.refl (actors : List Actor) (staged : List Transform) :
    Resumes actors staged actors := ⟨rfl, rfl, fun _ => .inl rfl⟩

theorem Resumes.cons {actors reached : List Actor} {staged : List Transform}
    (h : Resumes actors staged reached) (a : Actor) (next : Transform) :
    Resumes (a :: actors) (next :: staged) (a.settle next :: reached) where
  settleAll_eq := by simp [settleAll, Actor.settle_settle, h.settleAll_eq]
  cast := by simp [Actor.settle_role, h.cast]
  transform index := by
    cases index with
    | zero => exact (a.settle_transform next).imp (congrArg some) (congrArg some)
    | succ index => exact h.transform index

theorem resumes_settleAll (actors : List Actor) (staged : List Transform) :
    Resumes actors staged (settleAll actors staged) := by
  induction actors generalizing staged with
  | nil => exact Resumes.refl _ _
  | cons a actors ih =>
      cases staged with
      | nil => exact Resumes.refl _ _
      | cons next staged => exact (ih staged).cons a next

theorem moves_settleAll (actors : List Actor) (staged : List Transform) :
    moves (settleAll actors staged) staged = (moves actors staged).filter Order.recurs := by
  induction actors generalizing staged with
  | nil => simp [settleAll, moves]
  | cons a actors ih =>
      cases staged with
      | nil => simp [settleAll, moves]
      | cons next staged => simp [settleAll, moves, Actor.move?_settle, ih]

-- A commit that fails has settled everything up to the order that failed, and that one too. Only
-- what comes after it is still to be sent.
theorem commitActors_error {actors : List Actor} {staged : List Transform} {s s' : σ}
    {fault : StageFault} (h : performAll (moves actors staged) s = (.error fault, s')) :
    ∃ before order after reached,
      moves actors staged = before ++ order :: after ∧ BreaksAt order before s fault s' ∧
      commitActors actors staged s = (.error fault, reached, s') ∧
      Resumes actors staged reached ∧
      moves reached staged = (before ++ [order]).filter Order.recurs ++ after := by
  induction actors generalizing staged s with
  | nil => simp [moves] at h
  | cons a actors ih =>
      cases staged with
      | nil => simp [moves] at h
      | cons next staged =>
          have hagain := a.move?_settle next
          rw [moves] at h
          cases hm : a.move? next with
          | none =>
              simp only [hm, Option.toList_none, List.filter_nil, Option.toList_eq_nil_iff] at hagain
              rw [hm] at h
              obtain ⟨before, order, after, reached, hmoves, hbreaks, hcommit, hres, hrest⟩ := ih h
              refine ⟨before, order, after, a.settle next :: reached, by simpa [moves, hm],
                hbreaks, ?_, hres.cons a next, by simpa [moves, hagain] using hrest⟩
              by_cases heq : a.transform == next
              · simp [commitActors, Actor.settle, heq, hcommit]
              · have hh : a.handle = none := by simpa [Actor.move?, heq] using hm
                simp [commitActors, Actor.settle, heq, hh, hcommit]
          | some order =>
              have heq : ¬(a.transform == next) = true := fun he => by simp [Actor.move?, he] at hm
              obtain ⟨handle, hh, rfl⟩ : ∃ handle, a.handle = some handle ∧
                  .setTransform handle next = order := by simpa [Actor.move?, heq] using hm
              simp only [hm, Option.toList_some] at hagain
              simp only [hm, Option.toList_some, List.cons_append, List.nil_append] at h
              rcases hp : Stage.perform (.setTransform handle next) s with ⟨_ | _, middle⟩
              · rw [Stage.performAll_cons_error hp] at h
                cases h
                refine ⟨[], .setTransform handle next, moves actors staged,
                  a.settle next :: actors, by simp [moves, hm], ⟨s, rfl, hp⟩, ?_,
                  (Resumes.refl actors staged).cons a next, by simp [moves, hagain]⟩
                simp [commitActors, Actor.settle, heq, hh, hp]
              · rw [Stage.performAll_cons_ok hp] at h
                obtain ⟨before, order, after, reached, hmoves, hbreaks, hcommit, hres, hrest⟩ := ih h
                refine ⟨.setTransform handle next :: before, order, after, a.settle next :: reached,
                  by simp [moves, hm, hmoves], hbreaks.cons hp, ?_, hres.cons a next, ?_⟩
                · simp [commitActors, Actor.settle, heq, hh, hp, hcommit]
                · rw [moves, hagain, hrest, List.cons_append, List.filter_cons]
                  split <;> simp_all

end Registry

end Diorama
