import Diorama.Proofs.Stage.Recording
import Diorama.Proofs.Stage.Watching

namespace Diorama

-- Anything that a stage may be asked for, sensible or not.
inductive Demand where
  | create (p : Primitive)
  | perform (order : Order)

def Demand.meet {σ : Type} [Stage σ] : Demand → σ → σ
  | .create p, s => (Stage.create p s).2
  | .perform order, s => (Stage.perform order s).2

def Demand.meetAll {σ : Type} [Stage σ] (demands : List Demand) (s : σ) : σ :=
  demands.foldl (fun s demand => demand.meet s) s

-- A primitive that a record has no more: no entry made it, or a later entry took it away.
def Lost (log : List Entry) (handle : Handle) : Prop :=
  (∀ p, .createPrimitive handle p ∉ log) ∨
    ∃ p, [.createPrimitive handle p, .destroyPrimitive handle].Sublist log

namespace Entry

variable {entry : Entry} {handle : Handle}

theorem made?_eq_some_iff : entry.made? = some handle ↔ ∃ p, entry = .createPrimitive handle p := by
  cases entry <;> simp [made?]

theorem gone?_eq_some_iff : entry.gone? = some handle ↔ entry = .destroyPrimitive handle := by
  cases entry <;> simp [gone?]

end Entry

theorem mem_made {log : List Entry} {handle : Handle} :
    handle ∈ made log ↔ ∃ p, .createPrimitive handle p ∈ log := by
  simp only [made, List.mem_filterMap, Entry.made?_eq_some_iff]
  constructor
  · rintro ⟨_, hmem, p, rfl⟩
    exact ⟨p, hmem⟩
  · rintro ⟨p, hmem⟩
    exact ⟨_, hmem, p, rfl⟩

theorem pair_sublist_concat {log : List Entry} {entry first second : Entry} :
    [first, second].Sublist (log ++ [entry]) ↔
      [first, second].Sublist log ∨ first ∈ log ∧ entry = second := by
  have hlog : [first, second].reverse.Sublist log.reverse ↔ [first, second].Sublist log :=
    List.reverse_sublist
  rw [← hlog, ← List.reverse_sublist, List.reverse_append]
  change [second, first].Sublist (entry :: log.reverse) ↔ [second, first].Sublist log.reverse ∨ _
  rw [List.cons_sublist_cons', List.singleton_sublist, List.mem_reverse, and_comm, eq_comm]

namespace Lost

variable {log : List Entry} {handle : Handle} {entry : Entry}

theorem concat_other (hmade : entry.made? ≠ some handle) (hgone : entry.gone? ≠ some handle) :
    Lost (log ++ [entry]) handle ↔ Lost log handle := by
  have hcreate : ∀ p, Entry.createPrimitive handle p ≠ entry := by
    rintro p rfl
    exact hmade rfl
  have hdestroy : entry ≠ Entry.destroyPrimitive handle := by
    rintro rfl
    exact hgone rfl
  simp only [Lost, pair_sublist_concat, List.mem_append, List.mem_singleton, hcreate, hdestroy,
    or_false, and_false]

theorem not_concat_create {p : Primitive} (hnew : handle ∉ made log) :
    ¬ Lost (log ++ [.createPrimitive handle p]) handle := by
  rintro (hnone | ⟨q, hpair⟩)
  · exact hnone p (by simp)
  · rcases pair_sublist_concat.mp hpair with hpair | ⟨-, hentry⟩
    · exact hnew (mem_made.mpr ⟨q, hpair.subset List.mem_cons_self⟩)
    · cases hentry

theorem concat_destroy (h : ¬ Lost log handle) :
    Lost (log ++ [.destroyPrimitive handle]) handle := by
  simp only [Lost, not_or, not_forall, not_not] at h
  obtain ⟨⟨p, hmem⟩, -⟩ := h
  exact .inr ⟨p, pair_sublist_concat.mpr (.inr ⟨hmem, rfl⟩)⟩

end Lost

namespace Scenery

variable {s : Scenery} {entry : Entry}

theorem primitive?_apply_other {handle : Handle} (hmade : entry.made? ≠ some handle)
    (hgone : entry.gone? ≠ some handle) :
    (s.apply entry).primitive? handle = none ↔ s.primitive? handle = none := by
  cases entry with
  | createPrimitive other p =>
      rw [primitive?_create, if_neg fun heq => hmade (congrArg some heq.symm)]
  | setTransform other tf =>
      rw [primitive?_setTransform]
      split_ifs
      · exact Option.map_eq_none_iff
      · rfl
  | destroyPrimitive other =>
      rw [primitive?_destroy, if_neg fun heq => hgone (congrArg some heq.symm)]
  | _ => rfl

-- An entry that makes a new primitive, takes away one that is there or does neither keeps a record
-- in step with the stage.
theorem primitive?_apply_iff {log : List Entry}
    (h : ∀ handle, s.primitive? handle = none ↔ Lost log handle)
    (hmade : ∀ handle, entry.made? = some handle → handle ∉ made log)
    (hgone : ∀ handle, entry.gone? = some handle → s.primitive? handle ≠ none) (handle : Handle) :
    (s.apply entry).primitive? handle = none ↔ Lost (log ++ [entry]) handle := by
  by_cases hm : entry.made? = some handle
  · have hnew := hmade handle hm
    obtain ⟨p, rfl⟩ := Entry.made?_eq_some_iff.mp hm
    simpa using Lost.not_concat_create hnew
  · by_cases hg : entry.gone? = some handle
    · have hthere : ¬ Lost log handle := (h handle).not.mp (hgone handle hg)
      obtain rfl := Entry.gone?_eq_some_iff.mp hg
      simpa using Lost.concat_destroy hthere
    · rw [primitive?_apply_other hm hg, Lost.concat_other hm hg, h]

end Scenery

namespace Recorder

theorem setTransform_error_iff {r : Recorder} {handle : Handle} {tf : Transform} :
    (r.perform (.setTransform handle tf)).1 = .error (.unknownPrimitive handle) ↔
      r.primitive? handle = none := by
  rw [perform, primitive?, Table.contains]
  cases r.primitives.get? handle.number <;> simp

theorem destroyPrimitive_error_iff {r : Recorder} {handle : Handle} :
    (r.perform (.destroyPrimitive handle)).1 = .error (.unknownPrimitive handle) ↔
      r.primitive? handle = none := by
  rw [perform, primitive?, Table.contains]
  cases r.primitives.get? handle.number <;> simp

-- The record of a stage says what stands on it and what it was asked for to become so.
structure Truthful (w : Watched Recorder) : Prop where
  replay : replay w.stage.log.toList = w.stage.scenery
  made_log : made w.stage.log.toList = (List.range w.stage.nextHandle).map Handle.mk
  made_calls : Call.made w.calls = (List.range w.stage.nextHandle).map Handle.mk
  lost : ∀ handle, w.stage.primitive? handle = none ↔ Lost w.stage.log.toList handle

namespace Truthful

variable {w w' : Watched Recorder}

theorem init (createsLeft : Option Nat) (overlays : Bool) :
    Truthful { stage := { createsLeft, overlays } } where
  replay := rfl
  made_log := rfl
  made_calls := rfl
  lost _ := ⟨fun _ => .inl fun _ => List.not_mem_nil, fun _ => rfl⟩

theorem replay_push (h : Truthful w) {entry : Entry} {r : Recorder}
    (hscenery : r.scenery = w.stage.scenery.apply entry) (hlog : r.log = w.stage.log.push entry) :
    Recorder.replay r.log.toList = r.scenery := by
  rw [hlog, Array.toList_push, hscenery, ← h.replay, Recorder.replay, Recorder.replay,
    List.foldl_append]
  rfl

theorem create (h : Truthful w) (p : Primitive) : Truthful (Stage.create p w).2 := by
  rcases hp : Stage.create p w with ⟨answer, w'⟩
  obtain ⟨hstage, hcalls⟩ := Watched.create_inv hp
  cases answer with
  | error fault =>
      have hsame : w'.stage = w.stage := create_error hstage
      obtain ⟨hreplay, hlog, hmade, hlost⟩ := h
      refine ⟨hsame ▸ hreplay, hsame ▸ hlog, ?_, hsame ▸ hlost⟩
      rw [hcalls, hsame, Call.made_append, hmade]
      exact List.append_nil _
  | ok handle =>
      obtain ⟨rfl, hscenery, hlog, hnext⟩ := create_ok hstage
      have hnew : Handle.mk w.stage.nextHandle ∉ made w.stage.log.toList := by simp [h.made_log]
      constructor
      · exact h.replay_push hscenery hlog
      · rw [hnext, List.range_succ, List.map_append, ← h.made_log, hlog, Array.toList_push]
        exact List.filterMap_append
      · rw [hnext, List.range_succ, List.map_append, ← h.made_calls, hcalls]
        exact Call.made_append _ _
      · intro other
        rw [primitive?_eq, hscenery, hlog, Array.toList_push]
        refine Scenery.primitive?_apply_iff (s := w.stage.scenery) h.lost ?_ ?_ other
        · rintro _ ⟨rfl⟩
          exact hnew
        · rintro _ ⟨⟩

theorem perform (h : Truthful w) (order : Order) : Truthful (Stage.perform order w).2 := by
  rcases hp : Stage.perform order w with ⟨answer, w'⟩
  obtain ⟨hstage, hcalls⟩ := Watched.perform_inv hp
  have hsame : Call.made w'.calls = Call.made w.calls := by
    rw [hcalls, Call.made_append]
    exact List.append_nil _
  cases answer with
  | error fault =>
      have hstill : w'.stage = w.stage := perform_error hstage
      obtain ⟨hreplay, hlog, hmade, hlost⟩ := h
      exact ⟨hstill ▸ hreplay, hstill ▸ hlog, by rw [hsame, hstill, hmade], hstill ▸ hlost⟩
  | ok done =>
      obtain ⟨hscenery, hlog, hnext, -, -⟩ := perform_ok hstage
      have hmade : order.entry.made? = none := by cases order <;> rfl
      constructor
      · exact h.replay_push hscenery hlog
      · rw [hnext, ← h.made_log, hlog, Array.toList_push, made, List.filterMap_append]
        simp [hmade, made]
      · rw [hsame, hnext, h.made_calls]
      · intro other
        rw [primitive?_eq, hscenery, hlog, Array.toList_push]
        refine Scenery.primitive?_apply_iff (s := w.stage.scenery) h.lost (by simp [hmade]) ?_ other
        intro handle hgone hnone
        have hrefused := destroyPrimitive_error_iff.mpr hnone
        cases order with
        | destroyPrimitive asked =>
            obtain rfl : asked = handle := Option.some.inj hgone
            rw [← stage_perform, hstage] at hrefused
            cases hrefused
        | _ => cases hgone

theorem meetAll (h : Truthful w) (demands : List Demand) : Truthful (Demand.meetAll demands w) := by
  induction demands generalizing w with
  | nil => exact h
  | cons demand rest ih =>
      apply ih
      cases demand with
      | create p => exact h.create p
      | perform order => exact h.perform order

end Truthful

-- Whatever a recorder is asked for, and however it is set up (`fresh`, `failingAfter`,
-- `withoutOverlays`): its record replayed gives what stands on it, a request that fails leaves it as
-- it is, no two primitives are given the same handle, and an order about a primitive is refused
-- exactly for those that the record has no more.
theorem record_truthful (createsLeft : Option Nat) (overlays : Bool) (demands : List Demand) :
    let w := Demand.meetAll demands ({ stage := { createsLeft, overlays } } : Watched Recorder)
    let r := w.stage
    replay r.log.toList = r.scenery ∧
      (∀ p fault, (r.create p).1 = .error fault → (r.create p).2 = r) ∧
      (∀ order fault, (r.perform order).1 = .error fault → (r.perform order).2 = r) ∧
      (Call.made w.calls).Nodup ∧
      ∀ handle,
        ((r.perform (.destroyPrimitive handle)).1 = .error (.unknownPrimitive handle) ↔
          Lost r.log.toList handle) ∧
        ∀ tf, (r.perform (.setTransform handle tf)).1 = .error (.unknownPrimitive handle) ↔
          Lost r.log.toList handle := by
  intro w r
  have h : Truthful w := (Truthful.init createsLeft overlays).meetAll demands
  refine ⟨h.replay, fun p fault hfault => ?_, fun order fault hfault => ?_, ?_,
    fun handle => ⟨?_, fun tf => ?_⟩⟩
  · exact create_error (Prod.ext hfault rfl)
  · exact perform_error (Prod.ext hfault rfl)
  · rw [h.made_calls]
    exact List.nodup_range.map fun _ _ => congrArg Handle.number
  · rw [destroyPrimitive_error_iff, h.lost]
  · rw [setTransform_error_iff, h.lost]

end Recorder

end Diorama
