import Mathlib.Data.List.Nodup
import Diorama.Stage.Recorder

namespace Diorama

-- The entry for an order that was carried out.
def Order.entry : Order → Entry
  | .setTransform handle tf => .setTransform handle tf
  | .renderFrame => .renderFrame
  | .destroyPrimitive handle => .destroyPrimitive handle
  | .setCamera camera => .setCamera camera
  | .createOverlay index a => .createOverlay index a.text
  | .updateOverlay index view => .updateOverlay index view

-- What an order is about. Orders about different subjects do not disturb each other.
inductive Subject where
  | primitive (handle : Handle)
  | camera
  | overlay (index : Nat)
  | frame
deriving DecidableEq

def Order.subject : Order → Subject
  | .setTransform handle _ => .primitive handle
  | .destroyPrimitive handle => .primitive handle
  | .setCamera _ => .camera
  | .createOverlay index _ => .overlay index
  | .updateOverlay index _ => .overlay index
  | .renderFrame => .frame

def Entry.made? : Entry → Option Handle
  | .createPrimitive handle _ => some handle
  | _ => none

def Entry.gone? : Entry → Option Handle
  | .destroyPrimitive handle => some handle
  | _ => none

@[simp] theorem Handle.number_inj {a b : Handle} : a.number = b.number ↔ a = b := by
  cases a
  cases b
  simp

namespace Scenery

def primitive? (s : Scenery) (handle : Handle) : Option RecordedPrimitive :=
  s.primitives.get? handle.number

@[simp] theorem primitive?_create (s : Scenery) (handle other : Handle) (p : Primitive) :
    (s.apply (.createPrimitive handle p)).primitive? other =
      if other = handle then some ⟨p, .rest⟩ else s.primitive? other := by
  simp [apply, primitive?]

@[simp] theorem primitive?_setTransform (s : Scenery) (handle other : Handle) (tf : Transform) :
    (s.apply (.setTransform handle tf)).primitive? other =
      if other = handle then (s.primitive? other).map ({ · with transform := tf })
      else s.primitive? other := by
  simp [apply, primitive?]

@[simp] theorem primitive?_destroy (s : Scenery) (handle other : Handle) :
    (s.apply (.destroyPrimitive handle)).primitive? other =
      if other = handle then none else s.primitive? other := by
  simp [apply, primitive?]

end Scenery

namespace Recorder

@[simp] theorem stage_perform (order : Order) (s : Recorder) :
    Stage.perform order s = s.perform order := rfl

theorem primitive?_eq (s : Recorder) (handle : Handle) :
    s.primitive? handle = s.scenery.primitive? handle := rfl

-- What is written down is what was done.
theorem perform_ok {order : Order} {s s' : Recorder} (h : s.perform order = (.ok (), s')) :
    s'.scenery = s.scenery.apply order.entry ∧ s'.log = s.log.push order.entry ∧
      s'.nextHandle = s.nextHandle ∧ s'.createsLeft = s.createsLeft ∧ s'.overlays = s.overlays := by
  cases order <;> simp only [perform] at h <;> try split at h
  all_goals first
    | cases h; exact ⟨rfl, rfl, rfl, rfl, rfl⟩
    | cases h

theorem perform_error {order : Order} {s s' : Recorder} {fault : StageFault}
    (h : s.perform order = (.error fault, s')) : s' = s := by
  cases order <;> simp only [perform] at h <;> try split at h
  all_goals first
    | cases h; rfl
    | cases h

theorem setTransform_ok {s : Recorder} {handle : Handle} (h : s.primitive? handle ≠ none)
    (tf : Transform) : ∃ s', s.perform (.setTransform handle tf) = (.ok (), s') := by
  have hcontains : s.primitives.contains handle.number := Option.isSome_iff_ne_none.mpr h
  simp [perform, hcontains]

theorem destroyPrimitive_ok {s : Recorder} {handle : Handle} (h : s.primitive? handle ≠ none) :
    ∃ s', s.perform (.destroyPrimitive handle) = (.ok (), s') := by
  have hcontains : s.primitives.contains handle.number := Option.isSome_iff_ne_none.mpr h
  simp [perform, hcontains]

theorem create_ok {p : Primitive} {s s' : Recorder} {handle : Handle}
    (h : s.create p = (.ok handle, s')) :
    handle = ⟨s.nextHandle⟩ ∧ s'.scenery = s.scenery.apply (.createPrimitive handle p) ∧
      s'.log = s.log.push (.createPrimitive handle p) ∧ s'.nextHandle = s.nextHandle + 1 := by
  simp only [create] at h
  split at h
  · cases h
  · cases h
    exact ⟨rfl, rfl, rfl, rfl⟩

theorem create_error {p : Primitive} {s s' : Recorder} {fault : StageFault}
    (h : s.create p = (.error fault, s')) : s' = s := by
  simp only [create] at h
  split at h
  · cases h
    rfl
  · cases h

theorem number_lt {s : Recorder} {handle : Handle} (h : s.primitive? handle ≠ none) :
    handle.number < s.nextHandle := by
  by_contra hle
  exact h (s.unused handle.number (by omega))

end Recorder

-- The primitives that entries made, and those that they took away.
def made (log : List Entry) : List Handle := log.filterMap Entry.made?

def gone (log : List Entry) : List Handle := log.filterMap Entry.gone?

-- What was done to a stage since it was first seen, up to the primitives that are still owed: each
-- was made in the meantime and stands where it is said to, and no other primitive was touched.
structure Owes (first s : Recorder) (owed : List (Handle × Transform)) : Prop where
  placed : ∀ entry ∈ owed, (s.primitive? entry.1).map (·.transform) = some entry.2
  kept : ∀ handle, handle ∉ owed.map (·.1) → s.primitive? handle = first.primitive? handle
  record : ∃ since, s.log.toList = first.log.toList ++ since ∧ (made since).Nodup ∧
    (made since).Perm (gone since ++ owed.map (·.1)) ∧
    ∀ handle ∈ made since, first.nextHandle ≤ handle.number ∧ handle.number < s.nextHandle
  nextHandle_le : first.nextHandle ≤ s.nextHandle

namespace Owes

variable {first s s' : Recorder} {owed rest : List (Handle × Transform)}

theorem refl (s : Recorder) : Owes s s [] where
  placed := by simp
  kept _ _ := rfl
  record := ⟨[], by simp [made, gone]⟩
  nextHandle_le := Nat.le_refl _

theorem nodup (h : Owes first s owed) : (owed.map (·.1)).Nodup := by
  obtain ⟨since, -, hnodup, hperm, -⟩ := h.record
  exact (List.nodup_append.mp (hperm.nodup_iff.mp hnodup)).2.1

theorem perm (h : Owes first s owed) (hperm : owed.Perm rest) : Owes first s rest where
  placed entry hmem := h.placed entry (hperm.mem_iff.mpr hmem)
  kept handle hhandle := h.kept handle fun hmem => hhandle ((hperm.map _).mem_iff.mp hmem)
  record := by
    obtain ⟨since, hsince, hnodup, hmade, hrange⟩ := h.record
    exact ⟨since, hsince, hnodup, hmade.trans ((hperm.map _).append_left _), hrange⟩
  nextHandle_le := h.nextHandle_le

-- No primitive that is owed was there at first.
theorem first_eq_none (h : Owes first s owed) {handle : Handle} (hmem : handle ∈ owed.map (·.1)) :
    first.primitive? handle = none := by
  obtain ⟨since, -, -, hperm, hrange⟩ := h.record
  exact first.unused handle.number
    (hrange handle (hperm.mem_iff.mpr (List.mem_append_right _ hmem))).1

theorem ne_none (h : Owes first s owed) {entry : Handle × Transform} (hmem : entry ∈ owed) :
    s.primitive? entry.1 ≠ none := by
  intro hnone
  simpa [hnone] using h.placed entry hmem

theorem create (h : Owes first s owed) {p : Primitive} {handle : Handle}
    (hcreate : s.create p = (.ok handle, s')) : Owes first s' (owed ++ [(handle, .rest)]) := by
  obtain ⟨rfl, hscenery, hlog, hnext⟩ := Recorder.create_ok hcreate
  obtain ⟨since, hsince, hnodup, hperm, hrange⟩ := h.record
  have hle := h.nextHandle_le
  constructor
  · intro entry hmem
    rcases List.mem_append.mp hmem with hmem | hmem
    · have hlt := Recorder.number_lt (h.ne_none hmem)
      have hne : entry.1 ≠ ⟨s.nextHandle⟩ := fun he => by simp [he] at hlt
      rw [Recorder.primitive?_eq, hscenery, Scenery.primitive?_create, if_neg hne]
      exact h.placed entry hmem
    · rw [List.mem_singleton.mp hmem, Recorder.primitive?_eq, hscenery]
      simp
  · intro other hother
    simp only [List.map_append, List.map_cons, List.map_nil, List.mem_append, List.mem_singleton,
      not_or] at hother
    rw [Recorder.primitive?_eq, hscenery, Scenery.primitive?_create, if_neg hother.2]
    exact h.kept other hother.1
  · have hmade : made (since ++ [.createPrimitive ⟨s.nextHandle⟩ p]) =
        made since ++ [⟨s.nextHandle⟩] := by simp [made, Entry.made?]
    have hgone : gone (since ++ [.createPrimitive ⟨s.nextHandle⟩ p]) = gone since := by
      simp [gone, Entry.gone?]
    refine ⟨since ++ [.createPrimitive ⟨s.nextHandle⟩ p], by simp [hlog, hsince], ?_, ?_, ?_⟩
    · rw [hmade, List.nodup_append]
      refine ⟨hnodup, List.nodup_singleton _, fun a ha b hb => ?_⟩
      rw [List.mem_singleton.mp hb]
      rintro rfl
      exact Nat.lt_irrefl _ (hrange _ ha).2
    · rw [hmade, hgone, List.map_append, ← List.append_assoc]
      exact hperm.append_right _
    · intro other hother
      rw [hmade] at hother
      rcases List.mem_append.mp hother with hother | hother
      · have hin := hrange other hother
        omega
      · rw [List.mem_singleton.mp hother]
        simp only
        omega
  · omega

-- An order that neither makes nor takes away a primitive.
theorem record_perform (h : Owes first s owed) {order : Order}
    (hperform : s.perform order = (.ok (), s')) (hgone : order.entry.gone? = none) :
    ∃ since, s'.log.toList = first.log.toList ++ since ∧ (made since).Nodup ∧
      (made since).Perm (gone since ++ owed.map (·.1)) ∧
      ∀ handle ∈ made since, first.nextHandle ≤ handle.number ∧ handle.number < s'.nextHandle := by
  obtain ⟨-, hlog, hnext, -, -⟩ := Recorder.perform_ok hperform
  obtain ⟨since, hsince, hrecord⟩ := h.record
  have hmade : order.entry.made? = none := by cases order <;> rfl
  refine ⟨since ++ [order.entry], by simp [hlog, hsince], ?_⟩
  simpa [made, gone, hmade, hgone, hnext] using hrecord

theorem perform_other (h : Owes first s owed) {order : Order}
    (hperform : s.perform order = (.ok (), s')) (hsubject : ∀ handle, order.subject ≠ .primitive handle) :
    Owes first s' owed := by
  obtain ⟨hscenery, -, hnext, -, -⟩ := Recorder.perform_ok hperform
  have hsame : ∀ handle, s'.primitive? handle = s.primitive? handle := by
    intro handle
    have hprimitives : s'.primitives = (s.scenery.apply order.entry).primitives :=
      congrArg Scenery.primitives hscenery
    rw [Recorder.primitive?, hprimitives]
    cases order with
    | setTransform handle tf => exact absurd rfl (hsubject handle)
    | destroyPrimitive handle => exact absurd rfl (hsubject handle)
    | _ => rfl
  have hgone : order.entry.gone? = none := by
    cases order with
    | destroyPrimitive handle => exact absurd rfl (hsubject handle)
    | _ => rfl
  constructor
  · intro entry hmem
    rw [hsame]
    exact h.placed entry hmem
  · intro handle hhandle
    rw [hsame]
    exact h.kept handle hhandle
  · exact h.record_perform hperform hgone
  · rw [hnext]
    exact h.nextHandle_le

theorem setTransform {before after : List (Handle × Transform)} {handle : Handle} {old : Transform}
    (h : Owes first s (before ++ (handle, old) :: after)) {tf : Transform}
    (hperform : s.perform (.setTransform handle tf) = (.ok (), s')) :
    Owes first s' (before ++ (handle, tf) :: after) := by
  obtain ⟨hscenery, -, hnext, -, -⟩ := Recorder.perform_ok hperform
  have hhandles : (before ++ (handle, tf) :: after).map (·.1) =
      (before ++ (handle, old) :: after).map (·.1) := by simp
  have hmem : (handle, old) ∈ before ++ (handle, old) :: after := by simp
  obtain ⟨found, hfound⟩ := Option.ne_none_iff_exists'.mp (h.ne_none hmem)
  have hnodup := h.nodup
  rw [List.map_append, List.map_cons, List.nodup_middle, List.nodup_cons] at hnodup
  constructor
  · intro entry hentry
    rw [Recorder.primitive?_eq, hscenery, Order.entry, Scenery.primitive?_setTransform]
    by_cases he : entry = (handle, tf)
    · subst he
      rw [if_pos rfl, show s.scenery.primitive? handle = some found from hfound]
      rfl
    · have hold : entry ∈ before ++ after := by
        rcases List.mem_append.mp hentry with hb | ha
        · exact List.mem_append_left _ hb
        · exact List.mem_append_right _ ((List.mem_cons.mp ha).resolve_left he)
      have hne : entry.1 ≠ handle := by
        rintro rfl
        exact hnodup.1 (List.map_append ▸ List.mem_map.mpr ⟨entry, hold, rfl⟩)
      rw [if_neg hne]
      apply h.placed entry
      simp only [List.mem_append, List.mem_cons] at hold ⊢
      tauto
  · intro other hother
    rw [hhandles] at hother
    have hne : other ≠ handle := by
      rintro rfl
      exact hother (List.mem_map_of_mem hmem)
    rw [Recorder.primitive?_eq, hscenery, Order.entry, Scenery.primitive?_setTransform, if_neg hne]
    exact h.kept other hother
  · rw [hhandles]
    exact h.record_perform hperform rfl
  · rw [hnext]
    exact h.nextHandle_le

-- What was owed is given back.
theorem destroyPrimitive {handle : Handle} {tf : Transform} (h : Owes first s ((handle, tf) :: rest))
    (hperform : s.perform (.destroyPrimitive handle) = (.ok (), s')) : Owes first s' rest := by
  obtain ⟨hscenery, hlog, hnext, -, -⟩ := Recorder.perform_ok hperform
  have hnodup := h.nodup
  rw [List.map_cons, List.nodup_cons] at hnodup
  obtain ⟨since, hsince, hmade, hperm, hrange⟩ := h.record
  constructor
  · intro entry hentry
    have hne : entry.1 ≠ handle := by
      rintro rfl
      exact hnodup.1 (List.mem_map.mpr ⟨entry, hentry, rfl⟩)
    rw [Recorder.primitive?_eq, hscenery, Order.entry, Scenery.primitive?_destroy, if_neg hne]
    exact h.placed entry (List.mem_cons_of_mem _ hentry)
  · intro other hother
    rw [Recorder.primitive?_eq, hscenery, Order.entry, Scenery.primitive?_destroy]
    by_cases hne : other = handle
    · rw [if_pos hne, hne]
      exact (h.first_eq_none List.mem_cons_self).symm
    · rw [if_neg hne]
      exact h.kept other (by simpa [hne] using hother)
  · have hsame : made (since ++ [.destroyPrimitive handle]) = made since := by
      simp [made, Entry.made?]
    have hgone : gone (since ++ [.destroyPrimitive handle]) = gone since ++ [handle] := by
      simp [gone, Entry.gone?]
    refine ⟨since ++ [.destroyPrimitive handle], by simp [hlog, hsince, Order.entry], ?_, ?_, ?_⟩
    · rwa [hsame]
    · rw [hsame, hgone, List.append_assoc, List.singleton_append]
      exact hperm
    · rw [hsame, hnext]
      exact hrange
  · rw [hnext]
    exact h.nextHandle_le

end Owes

end Diorama
