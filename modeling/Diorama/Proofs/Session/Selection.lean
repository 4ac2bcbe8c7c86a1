import Diorama.Proofs.Session.Patch

namespace Diorama

namespace Patch

@[simp] theorem under_blank (p : Patch) : p.under {} = p := rfl

theorem stack_concat {α : Type} (patch : α → Patch) (l : List α) (a : α) :
    stack patch (l ++ [a]) = (stack patch l).under (patch a) := by
  simp only [stack, List.foldl_append, List.foldl_cons, List.foldl_nil]

-- What changes nothing can be left out.
theorem stack_filter {α : Type} {patch : α → Patch} {p : α → Bool}
    (h : ∀ a, p a = false → patch a = {}) (l : List α) :
    stack patch (l.filter p) = stack patch l := by
  induction l using List.reverseRecOn with
  | nil => rfl
  | append_singleton l a ih =>
      rw [List.filter_append, stack_concat, ← ih]
      cases hp : p a with
      | true => rw [List.filter_singleton, hp, cond_true, stack_concat]
      | false => rw [List.filter_singleton, hp, cond_false, List.append_nil, h a hp, under_blank]

end Patch

-- An event with those of its assignments that a condition lets through.
def TimelineEvent.only (p : Assignment → Bool) (e : TimelineEvent) : TimelineEvent :=
  { e with properties := e.properties.filter p }

-- A timeline without all other assignments, and without the events that have none left.
def onlyAssignments (p : Assignment → Bool) (events : List TimelineEvent) : List TimelineEvent :=
  (events.map (·.only p)).filter fun e => !e.properties.isEmpty

theorem filter_onlyAssignments (p : Assignment → Bool) (events : List TimelineEvent)
    (t : Float32) :
    (onlyAssignments p events).filter (·.isActive t) =
      onlyAssignments p (events.filter (·.isActive t)) := by
  have hactive : (fun e => e.isActive t) ∘ TimelineEvent.only p = (·.isActive t) := rfl
  simp only [onlyAssignments, List.filter_map, hactive, List.filter_filter, Bool.and_comm]

namespace Registry

variable {r : Registry} {p : Assignment → Bool} {index : Nat}

theorem eventPatch_only (h : ∀ eased a, p a = false → r.assignmentPatch eased index a = {})
    (t : Float32) (e : TimelineEvent) : r.eventPatch t index (e.only p) = r.eventPatch t index e :=
  Patch.stack_filter (h (e.eased t)) e.properties

-- A frame does to an actor what it would do without the assignments that do nothing to it.
theorem framePatch_onlyAssignments
    (h : ∀ eased a, p a = false → r.assignmentPatch eased index a = {})
    (events : List TimelineEvent) (t : Float32) :
    r.framePatch (onlyAssignments p events) t index = r.framePatch events t index := by
  rw [framePatch, framePatch, filter_onlyAssignments, onlyAssignments]
  congr 1
  rw [Patch.stack_filter]
  · simp only [Patch.stack, List.foldl_map, eventPatch_only h]
  · intro e hempty
    have hnil : e.properties = [] := by simpa using hempty
    rw [eventPatch, hnil]
    rfl

end Registry

end Diorama
