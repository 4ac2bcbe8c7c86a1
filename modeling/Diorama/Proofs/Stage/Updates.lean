import Diorama.Proofs.Stage.Recording
import Diorama.Proofs.Stage.Sending

namespace Diorama

open Stage (performAll)

namespace Scenery

-- An update of what is there: a stage that does what it is told cannot fail to carry it out.
def Accepts (s : Scenery) : Order → Prop
  | .setTransform handle _ => s.primitive? handle ≠ none
  | .setCamera _ | .updateOverlay _ _ | .renderFrame => True
  | .destroyPrimitive _ | .createOverlay _ _ => False

-- Whether the scenery is as an update leaves it. A frame leaves no trace in it.
def Holds (s : Scenery) : Order → Prop
  | .setTransform handle tf => (s.primitive? handle).map (·.transform) = some tf
  | .setCamera camera => s.camera = some camera
  | .updateOverlay index view => s.annotations.get? index = some view
  | _ => False

-- The scenery after updates.
def update (s : Scenery) (orders : List Order) : Scenery :=
  (orders.map Order.entry).foldl apply s

@[simp] theorem update_nil (s : Scenery) : s.update [] = s := rfl

@[simp] theorem update_cons (s : Scenery) (order : Order) (rest : List Order) :
    s.update (order :: rest) = (s.apply order.entry).update rest := rfl

theorem update_append (s : Scenery) (first second : List Order) :
    s.update (first ++ second) = (s.update first).update second := by
  simp [update]

theorem accepts_apply {s : Scenery} {order other : Order} (h : s.Accepts order)
    (hother : s.Accepts other) : (s.apply order.entry).Accepts other := by
  cases other with
  | setTransform handle tf =>
      cases order with
      | setTransform moved next =>
          simp only [Accepts, Order.entry, primitive?_setTransform]
          split
          · simpa [Accepts] using hother
          · exact hother
      | destroyPrimitive gone => exact h.elim
      | createOverlay index a => exact h.elim
      | _ => exact hother
  | _ => exact hother

theorem holds_apply {s : Scenery} {order : Order} (h : s.Accepts order)
    (hframe : order ≠ .renderFrame) : (s.apply order.entry).Holds order := by
  cases order with
  | setTransform handle tf =>
      obtain ⟨found, hfound⟩ := Option.ne_none_iff_exists'.mp h
      simp [Holds, Order.entry, hfound]
  | setCamera camera => rfl
  | updateOverlay index view => simp [Holds, Order.entry, apply]
  | renderFrame => exact absurd rfl hframe
  | destroyPrimitive handle => exact h.elim
  | createOverlay index a => exact h.elim

theorem Holds.congr {s s' : Scenery} {order : Order} (h : s.Holds order)
    (hprimitives : s.primitives = s'.primitives) (hcamera : s.camera = s'.camera)
    (hannotations : s.annotations = s'.annotations) : s'.Holds order := by
  cases order with
  | setTransform handle tf => simpa only [Holds, primitive?, hprimitives] using h
  | setCamera camera => simpa only [Holds, hcamera] using h
  | updateOverlay index view => simpa only [Holds, hannotations] using h
  | _ => exact h.elim

-- Orders about other things leave it at that.
theorem holds_apply_of_ne {order other : Order} (s : Scenery)
    (hne : order.subject ≠ other.subject) :
    (s.apply other.entry).Holds order ↔ s.Holds order := by
  cases order with
  | setTransform handle tf =>
      cases other with
      | setTransform moved next =>
          have hhandle : handle ≠ moved := fun he => hne (congrArg Subject.primitive he)
          simp [Holds, Order.entry, hhandle]
      | destroyPrimitive gone =>
          have hhandle : handle ≠ gone := fun he => hne (congrArg Subject.primitive he)
          simp [Holds, Order.entry, hhandle]
      | _ => rfl
  | setCamera camera =>
      cases other with
      | setCamera other => exact absurd rfl hne
      | _ => rfl
  | updateOverlay index view =>
      cases other with
      | updateOverlay number shown =>
          have hindex : index ≠ number := fun he => hne (congrArg Subject.overlay he)
          simp [Holds, Order.entry, apply, hindex]
      | createOverlay number a =>
          have hindex : index ≠ number := fun he => hne (congrArg Subject.overlay he)
          simp [Holds, Order.entry, apply, hindex]
      | _ => rfl
  | _ => rfl

-- An update that was done already changes nothing.
theorem apply_of_holds {s : Scenery} {order : Order} (h : s.Holds order) :
    s.apply order.entry = s := by
  cases order with
  | setTransform handle tf =>
      have hsame : s.primitives.modify handle.number ({ · with transform := tf }) = s.primitives := by
        apply Table.ext_get?
        intro key
        rw [Table.get?_modify]
        split
        · rename_i hkey
          obtain ⟨found, hfound, rfl⟩ := Option.map_eq_some_iff.mp h
          rw [hkey, show s.primitives.get? handle.number = some found from hfound]
          rfl
        · rfl
      simp only [Order.entry, apply, hsame]
  | setCamera camera =>
      simp only [Holds] at h
      simp only [Order.entry, apply, ← h]
  | updateOverlay index view =>
      have hsame : s.annotations.set index view = s.annotations := by
        apply Table.ext_get?
        intro key
        rw [Table.get?_set]
        split
        · rename_i hkey
          rw [hkey]
          exact h.symm
        · rfl
      simp only [Order.entry, apply, hsame]
  | _ => exact h.elim

theorem holds_update_of_notMem {order : Order} (s : Scenery) {orders : List Order}
    (h : order.subject ∉ orders.map Order.subject) :
    (s.update orders).Holds order ↔ s.Holds order := by
  induction orders generalizing s with
  | nil => rfl
  | cons other rest ih =>
      rw [List.map_cons, List.mem_cons, not_or] at h
      rw [update_cons, ih _ h.2, holds_apply_of_ne s h.1]

theorem update_of_holds {s : Scenery} {orders : List Order}
    (h : ∀ order ∈ orders, s.Holds order) : s.update orders = s := by
  induction orders with
  | nil => rfl
  | cons order rest ih =>
      rw [update_cons, apply_of_holds (h order List.mem_cons_self)]
      exact ih fun other hother => h other (List.mem_cons_of_mem _ hother)

-- Updates of different things are all there in the end.
theorem holds_update {s : Scenery} {orders : List Order} (haccepts : ∀ order ∈ orders, s.Accepts order)
    (hnodup : (orders.map Order.subject).Nodup) {order : Order} (hmem : order ∈ orders)
    (hframe : order ≠ .renderFrame) : (s.update orders).Holds order := by
  induction orders generalizing s with
  | nil => cases hmem
  | cons first rest ih =>
      rw [List.map_cons, List.nodup_cons] at hnodup
      have hfirst := haccepts first List.mem_cons_self
      rw [update_cons]
      rcases List.mem_cons.mp hmem with rfl | hmem
      · rw [holds_update_of_notMem _ hnodup.1]
        exact holds_apply hfirst hframe
      · refine ih (fun other hother => ?_) hnodup.2 hmem
        exact accepts_apply hfirst (haccepts other (List.mem_cons_of_mem _ hother))

-- Of updates that were done, any number can be done again.
theorem update_again {s : Scenery} {orders again : List Order}
    (haccepts : ∀ order ∈ orders, s.Accepts order) (hnodup : (orders.map Order.subject).Nodup)
    (hframe : .renderFrame ∉ orders) (hagain : ∀ order ∈ again, order ∈ orders) :
    (s.update orders).update again = s.update orders := by
  apply update_of_holds
  intro order hmem
  apply holds_update haccepts hnodup (hagain order hmem)
  rintro rfl
  exact hframe (hagain _ hmem)

-- Updates that broke off at an order and are begun again: the order is lost if it is not given
-- again, and then it is all that is lost.
theorem update_retry_iff {s retried clean : Scenery} {before after : List Order} {order : Order}
    (haccepts : ∀ other ∈ before ++ order :: after, s.Accepts other)
    (hnodup : ((before ++ order :: after).map Order.subject).Nodup)
    (hframe : .renderFrame ∉ before) (honce : order.recurs = false → ¬s.Holds order)
    (hretried : retried =
      (s.update before).update ((before ++ [order]).filter Order.recurs ++ after))
    (hclean : clean = s.update (before ++ order :: after)) :
    (retried.primitives = clean.primitives ∧ retried.camera = clean.camera ∧
      retried.annotations = clean.annotations) ↔ order.recurs = true := by
  have hdisjoint := hnodup
  rw [List.map_append, List.nodup_append] at hdisjoint
  obtain ⟨hfirst, hrest, hdisjoint⟩ := hdisjoint
  have hbefore : ∀ other ∈ before, s.Accepts other := fun other hmem =>
    haccepts other (List.mem_append_left _ hmem)
  have hagain : (s.update before).update (before.filter Order.recurs) = s.update before :=
    update_again hbefore hfirst hframe fun _ hmem => List.mem_of_mem_filter hmem
  rw [List.filter_append, update_append, update_append, hagain] at hretried
  cases hrecurs : order.recurs with
  | true =>
      -- the order is given again, between what came before it and what comes after
      have hsame : retried = clean := by
        rw [hretried, hclean, update_append, update_cons]
        simp [hrecurs]
      simp [hsame]
  | false =>
      have hheld : clean.Holds order := by
        rw [hclean]
        refine holds_update haccepts hnodup (by simp) ?_
        rintro rfl
        cases hrecurs
      have hlost : ¬retried.Holds order := by
        have hbefore' : order.subject ∉ before.map Order.subject := fun hmem =>
          hdisjoint _ hmem _ (by simp) rfl
        have hafter' : order.subject ∉ after.map Order.subject := (List.nodup_cons.mp hrest).1
        rw [hretried, List.filter_cons_of_neg (by simp [hrecurs]), List.filter_nil, update_nil,
          holds_update_of_notMem _ hafter', holds_update_of_notMem _ hbefore']
        exact honce hrecurs
      refine iff_of_false (fun hsame => hlost ?_) (by simp)
      exact hheld.congr hsame.1.symm hsame.2.1.symm hsame.2.2.symm

end Scenery

namespace Recorder

theorem perform_of_accepts {s : Recorder} {order : Order} (h : s.scenery.Accepts order) :
    ∃ s', s.perform order = (.ok (), s') := by
  cases order with
  | setTransform handle tf => exact setTransform_ok h tf
  | destroyPrimitive handle => exact h.elim
  | createOverlay index a => exact h.elim
  | _ => exact ⟨_, rfl⟩

theorem performAll_of_accepts {s : Recorder} {orders : List Order}
    (h : ∀ order ∈ orders, s.scenery.Accepts order) :
    ∃ s', performAll orders s = (.ok (), s') ∧ s'.scenery = s.scenery.update orders ∧
      s'.log.toList = s.log.toList ++ orders.map Order.entry ∧
      ∀ order, s.scenery.Accepts order → s'.scenery.Accepts order := by
  induction orders generalizing s with
  | nil => exact ⟨s, rfl, rfl, by simp, fun _ h => h⟩
  | cons order rest ih =>
      have hfirst := h order List.mem_cons_self
      obtain ⟨s₁, hperform⟩ := perform_of_accepts hfirst
      obtain ⟨hscenery, hlog, -⟩ := perform_ok hperform
      have hkeeps : ∀ other, s.scenery.Accepts other → s₁.scenery.Accepts other := by
        intro other hother
        rw [hscenery]
        exact Scenery.accepts_apply hfirst hother
      obtain ⟨s₂, hrest, hscenery', hlog', hkeeps'⟩ :=
        ih fun other hother => hkeeps other (h other (List.mem_cons_of_mem _ hother))
      refine ⟨s₂, ?_, ?_, ?_, fun other hother => hkeeps' other (hkeeps other hother)⟩
      · rw [Stage.performAll_cons_ok (show Stage.perform order s = (.ok (), s₁) from hperform), hrest]
      · rw [hscenery', hscenery, Scenery.update_cons]
      · simp [hlog', hlog]

end Recorder

end Diorama
