import Diorama.Proofs.Document.Places
import Diorama.Proofs.Json.Parts

namespace Diorama

namespace Reading

variable {α β : Type}

theorem ok_andThen (a : α) (f : α → Reading β) : (ok a).andThen f = f a := by
  simp [andThen, ok]

end Reading

namespace Definition

-- An answer that wraps a definition.
def envelope (caption definition : Json) : Json :=
  .object [("text", caption), (envelopeMember, definition)]

theorem memberAt?_envelope (caption definition : Json) :
    (envelope caption definition).memberAt? envelopeMember = some definition := rfl

theorem ofText_eq_of_ok {text : String} {j : Json} (h : Json.parse text = .ok j) :
    ofText text =
      match j.memberAt? envelopeMember with
      | some inner => (read inner.node).andThen sanitize
      | none => (read (Json.readText .whole text).root).andThen sanitize := by
  have hvalue : (Json.readText .whole text).value = .ok j := h
  rw [ofText, ofDraft, hvalue, Reading.ofText, Reading.ok_andThen]
  rfl

theorem ofText_eq_of_error {text : String} {m : Misread} (h : Json.parse text = .error m) :
    ofText text = .fail m.toDocumentFault := by
  have hvalue : (Json.readText .whole text).value = .error m := h
  rw [ofText, ofDraft, hvalue]
  rfl

-- A text that repeats no name is read as the value that it stands for.
theorem ofText_agree {text : String} {j : Json} (h : Json.parse text = .ok j)
    (hdistinct : (Json.readText .whole text).root.distinct = true)
    (hbare : j.memberAt? envelopeMember = none) :
    (ofText text).Agree ((read j.node).andThen sanitize) := by
  simp only [ofText_eq_of_ok h, hbare, ← Json.root_bare_of_parse h hdistinct]
  exact (read_placeFree _).andThen fun d => .refl d.sanitize

-- The two forms of a document: a definition for itself, and the same in an envelope. If the text of
-- the envelope is read as what its parts are read as, it does not matter which of them is given.
theorem ofText_envelope_agree {text wrapped : String} {caption : Json}
    (hwrapped : (Json.parse wrapped).toOption = (Json.parse text).toOption.map (envelope caption))
    (hdistinct : (Json.readText .whole text).root.distinct = true)
    (hbare : ∀ j, Json.parse text = .ok j → j.memberAt? envelopeMember = none) :
    (ofText text).Agree (ofText wrapped) := by
  cases htext : Json.parse text with
  | error m =>
      cases hparse : Json.parse wrapped with
      | error m' =>
          rw [ofText_eq_of_error htext, ofText_eq_of_error hparse]
          exact Reading.agree_fail _ _
      | ok j => simp [htext, hparse, Except.toOption] at hwrapped
  | ok j =>
      have hparse : Json.parse wrapped = .ok (envelope caption j) := by
        cases hparse : Json.parse wrapped with
        | error m => simp [htext, hparse, Except.toOption] at hwrapped
        | ok j' => simpa [htext, hparse, Except.toOption] using hwrapped
      simp only [ofText_eq_of_ok hparse, memberAt?_envelope]
      exact ofText_agree htext hdistinct (hbare j htext)

-- An actor with a member that nobody knows, by itself and wrapped.
theorem wrapped_actor_agrees :
    let text := "\x7b\"actors\":[\x7b\"id\":\"a\",\"glow\":1\x7d],\"camera\":null\x7d"
    let wrapped := "\x7b\"text\":\"\",\"animation_instructions\":" ++ text ++ "\x7d"
    (Json.parse wrapped).toOption = (Json.parse text).toOption.map (envelope (.string "")) ∧
      (Json.readText .whole text).root.distinct = true ∧
      (∀ j, Json.parse text = .ok j → j.memberAt? envelopeMember = none) ∧
      (ofText text).Agree (ofText wrapped) ∧
      ((ofText text).result.toOption.map fun d => d.actors.map (·.id)) = some ["a"] := by
  intro text wrapped
  have hwrapped : (Json.parse wrapped).toOption =
      (Json.parse text).toOption.map (envelope (.string "")) := by decide +kernel
  have hdistinct : (Json.readText .whole text).root.distinct = true := by decide +kernel
  have hnone : ((Json.parse text).toOption.bind (·.memberAt? envelopeMember)) = none := by
    decide +kernel
  have hbare : ∀ j, Json.parse text = .ok j → j.memberAt? envelopeMember = none := by
    intro j hj
    simpa [hj, Except.toOption] using hnone
  exact ⟨hwrapped, hdistinct, hbare, ofText_envelope_agree hwrapped hdistinct hbare,
    by decide +kernel⟩

end Definition

end Diorama
