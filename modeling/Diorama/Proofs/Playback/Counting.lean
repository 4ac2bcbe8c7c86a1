import Diorama.Proofs.Number.Ceiling
import Diorama.Proofs.Playback.Tracing

namespace Diorama

open Scalar (wholeUp)

namespace Trace

-- What is counted are the steps up to the end and one frame more, if they go into 64 bits together.
theorem defaultCount?_eq (duration step : Float32) : defaultCount? duration step =
    if wholeUp (duration / step) + 1 < 2 ^ 64 then some (wholeUp (duration / step) + 1)
    else none := by
  have hbound : 2 ^ 64 - 1 ≤ 2 ^ 128 := by decide
  have hsteps : Scalar.toInt .up 0 (Int.pow 2 64 - 1) (duration / step) =
      (min (2 ^ 64 - 1) (wholeUp (duration / step)) : Nat) :=
    Binary.toInt_up_ofSingle (duration / step) hbound
  rw [defaultCount?, hsteps, Int.toNat_natCast, Nat.pow_eq]
  by_cases hfits : wholeUp (duration / step) + 1 < 2 ^ 64
  · rw [Nat.min_eq_right (by omega)]
  · rw [Nat.min_eq_left (by omega), if_neg hfits]
    rfl

theorem defaultCount?_eq_none_iff (duration step : Float32) :
    defaultCount? duration step = none ↔ 18446744073709551616 ≤ duration / step := by
  rw [defaultCount?_eq, ← Scalar.le_wholeUp_iff]
  split <;> simp <;> omega

theorem defaultCount?_of_not_le {duration step : Float32}
    (h : ¬18446744073709551616 ≤ duration / step) :
    defaultCount? duration step = some (wholeUp (duration / step) + 1) := by
  rw [← Scalar.le_wholeUp_iff] at h
  rw [defaultCount?_eq, if_pos (by omega)]

end Trace

namespace Command

theorem exists_loadOn {text : String} {d : Definition}
    (hread : (Definition.ofText text).result = .ok d) (path : String) :
    ∃ e s, loadOn path text Recorder.fresh = .ok (e, s) ∧ e.definition = d := by
  have hwilling : Recorder.fresh.Willing := ⟨rfl, rfl⟩
  obtain ⟨e, hload⟩ := hwilling.load d
  refine ⟨e, (Session.load d Recorder.fresh).stage, ?_, Session.load_definition hload⟩
  simp [loadOn, Session.ofText, hread, hload, Except.mapError]

-- A trace for which no count is given has one frame for each step up to the end, and the first one.
-- It is carried out exactly if there are not so many steps that the count goes over; if there are,
-- nothing is traced.
theorem default_count_overflows_iff {text : String} {d : Definition}
    (hread : (Definition.ofText text).result = .ok d) (configText : Option String) (path : String)
    (size : TerminalSize) :
    let step := (config configText).frameStep
    let count := Trace.defaultCount? d.duration step
    let outcome := execute ⟨.trace, path, none⟩ (.ok text) configText size
    (count = none ↔ 18446744073709551616 ≤ d.duration / step) ∧
      (18446744073709551616 ≤ d.duration / step → outcome = .overflowed) ∧
      (¬18446744073709551616 ≤ d.duration / step →
        count = some (wholeUp (d.duration / step) + 1) ∧
          ∃ lines : List String, 1 ≤ lines.length ∧
            lines.length ≤ wholeUp (d.duration / step) + 1 ∧
            outcome = .finished lines (some ("Traced " ++ toString lines.length ++ " frames (" ++
              toString lines.length ++ " rendered) from " ++ path))) := by
  intro step count outcome
  obtain ⟨e, s, hload, hdefinition⟩ := exists_loadOn hread path
  have hcount : frameCount none e.duration (config configText).frameStep = .ok count := by
    rw [frameCount, Session.duration, hdefinition]
  have hnone := Trace.defaultCount?_eq_none_iff d.duration step
  refine ⟨hnone, fun hlong => ?_, fun hshort => ?_⟩
  · rw [show count = none from hnone.mpr hlong] at hcount
    simp only [outcome, execute, trace, hload, hcount]
  · have hsome : count = some (wholeUp (d.duration / step) + 1) :=
      Trace.defaultCount?_of_not_le hshort
    rw [hsome] at hcount
    obtain ⟨m, hm, -, -, hexecute⟩ := execute_trace hload hcount size
    obtain ⟨lines, hlines⟩ : ∃ lines, lines = (List.range (m + 1)).map fun k =>
        (Player.played step e s k).1.session.snapshot.sheet.text := ⟨_, rfl⟩
    have hlength : lines.length = m + 1 := by simp [hlines]
    rw [← hlines] at hexecute
    refine ⟨hsome, lines, by omega, by omega, ?_⟩
    rw [hlength]
    exact hexecute

-- Ten seconds are six hundred steps of the usual length.
theorem ten_seconds_counted :
    let blank := Definition.recordShape.blank
    (Definition.ofText "\x7b\x7d").result = .ok blank ∧
      Trace.defaultCount? blank.duration (config none).frameStep = some 601 := by
  intro blank
  have hread : (Definition.ofText "\x7b\x7d").result = .ok blank := rfl
  obtain ⟨-, -, hshort⟩ := default_count_overflows_iff hread none "anim.json" ⟨80, 24⟩
  refine ⟨hread, ?_⟩
  rw [(hshort (by decide +kernel)).1]
  decide +kernel

-- The steps of an animation may be too many to be counted.
theorem huge_duration_uncounted :
    ¬∀ (text configText : String) (d : Definition), (Definition.ofText text).result = .ok d →
      Trace.defaultCount? d.duration (PlayerConfig.ofText configText).2.frameStep ≠ none := by
  intro h
  have hoverflows : (Definition.ofText "\x7b\"duration\":1e30\x7d").result.toOption.any (fun d =>
      decide (Trace.defaultCount? d.duration
        (PlayerConfig.ofText "\x7b\"frame_step\":1\x7d").2.frameStep = none)) = true := by
    decide +kernel
  obtain ⟨d, hread, hnone⟩ := exists_of_any hoverflows
  exact h _ _ d hread (of_decide_eq_true hnone)

end Command

end Diorama
