import Diorama.Proofs.Document.Envelope
import Diorama.Proofs.Document.Success

namespace Diorama

theorem Reading.Agree.ok_iff {α : Type} {r r' : Reading α} (h : r.Agree r') (a : α) :
    r.result = .ok a ↔ r'.result = .ok a := by
  obtain ⟨notices, result⟩ := r
  obtain ⟨notices', result'⟩ := r'
  have hresult := h.result
  cases result <;> cases result' <;> simp_all [Except.toOption]

namespace Definition

-- The tree that a definition is read from, apart from where its parts stand: the whole text, or
-- what its envelope holds.
def tree? (text : String) : Option Node :=
  match Json.parse text with
  | .error _ => none
  | .ok j =>
    some (match j.memberAt? envelopeMember with
      | some inner => inner.node
      | none => (Json.readText .whole text).root.bare)

-- A definition with a duration that playback can end at.
def sanitized (d : Definition) : Definition :=
  if d.duration.isFinite && !decide (d.duration < 0) then d
  else { d with duration := defaultDuration }

theorem sanitize_result (d : Definition) : d.sanitize.result = .ok d.sanitized := by
  rw [sanitize, sanitized]
  split <;> rfl

-- Reading a text is reading its tree.
theorem ofText_ok_iff {text : String} {d : Definition} :
    (ofText text).result = .ok d ↔
      ∃ n found, tree? text = some n ∧ (read n).result = .ok found ∧ found.sanitized = d := by
  have hsanitized : ∀ r : Reading Definition, (r.andThen sanitize).result = .ok d ↔
      ∃ found, r.result = .ok found ∧ found.sanitized = d := by
    intro r
    constructor
    · intro h
      obtain ⟨found, hfound, hd⟩ := Reading.andThen_ok h
      rw [sanitize_result] at hd
      exact ⟨found, hfound, Except.ok.inj hd⟩
    · rintro ⟨found, hfound, rfl⟩
      rw [Reading.result_andThen hfound, sanitize_result]
  cases hparse : Json.parse text with
  | error m => simp [ofText_eq_of_error hparse, tree?, hparse, Reading.fail]
  | ok j =>
      rw [ofText_eq_of_ok hparse]
      cases hinner : j.memberAt? envelopeMember with
      | some inner => simp [tree?, hparse, hinner, hsanitized]
      | none =>
          have hbare := (read_placeFree (Json.readText .whole text).root).ok_iff
          simp [tree?, hparse, hinner, hsanitized, hbare]

end Definition

end Diorama
