import Diorama.Command.Execution
import Diorama.Proofs.Playback.Sampling
import Diorama.Proofs.Stage.Keeping

namespace Diorama

open Stage (performAll)

namespace Recorder

-- Nothing counts as a frame but a frame.
theorem framesRendered_perform {order : Order} (h : order ≠ .renderFrame) (s : Recorder) :
    (Stage.perform order s).2.framesRendered = s.framesRendered := by
  rcases hp : s.perform order with ⟨fault | _, s'⟩
  · rw [stage_perform, hp, perform_error hp]
  · have hscenery := congrArg Scenery.framesRendered (perform_ok hp).1
    rw [stage_perform, hp]
    cases order with
    | renderFrame => exact absurd rfl h
    | _ => exact hscenery

theorem framesRendered_keeps (drawn : Nat) :
    Stage.KeepsUndrawn (fun _ => True) (fun _ => True)
      fun s : Recorder => s.framesRendered = drawn where
  create := by
    intro p s _ hs
    rcases hc : s.create p with ⟨fault | handle, s'⟩
    · simp only [Stage.create, hc, create_error hc, hs]
    · have hscenery := congrArg Scenery.framesRendered (create_ok hc).2.1
      simp only [Stage.create, hc]
      exact hscenery.trans hs
  perform horder _ hs := (framesRendered_perform horder _).trans hs

theorem framesRendered_load (d : Definition) :
    (Session.load d Recorder.fresh).stage.framesRendered = 0 :=
  (framesRendered_keeps 0).load (fun _ _ _ _ => trivial) (fun _ _ => trivial) rfl

theorem framesRendered_orders {e : Session} {t : Float32} {s s' : Recorder}
    (h : performAll (e.orders t) s = (.ok (), s')) : s'.framesRendered = s.framesRendered + 1 := by
  obtain ⟨before, horders, hbefore⟩ := e.orders_eq t
  rw [horders] at h
  obtain ⟨middle, hchanges, hframe⟩ := Stage.performAll_append_inv h
  have hkept : ∀ order ∈ before, ∀ s' : Recorder, s'.framesRendered = s.framesRendered →
      (Stage.perform order s').2.framesRendered = s.framesRendered := fun order hmem s' hs' =>
    (framesRendered_perform (fun heq => hbefore (heq ▸ hmem)) s').trans hs'
  have hsame : (performAll before s).2.framesRendered = s.framesRendered :=
    Stage.performAll_holds hkept rfl
  rw [hchanges] at hsame
  rw [Stage.performAll_singleton] at hframe
  have hscenery := congrArg Scenery.framesRendered (perform_ok hframe).1
  calc s'.framesRendered
      = middle.framesRendered + 1 := hscenery
    _ = s.framesRendered + 1 := by rw [hsame]

end Recorder

-- What the clock says at each frame of a playback that does not come to an end: it goes on by its
-- step, and is at zero again when it has gone past the duration.
def Clock.rounds (duration step : Float32) : Nat → Float32
  | 0 => 0
  | k + 1 => if duration < rounds duration step k + step then 0 else rounds duration step k + step

namespace Player

open Clock (rounds)

-- A player in the middle of a trace, after so many frames that were asked for, on a recorder that
-- does what it is told. The frame at zero was drawn before them.
structure Traced (e : Session) (step : Float32) (k : Nat) (p : Player) (s : Recorder) : Prop where
  running : p.running = true
  requested : p.frameRequested = true
  mode : p.clock.mode = .fixed step
  definition : p.session.definition = e.definition
  stands : p.session.Stands .fresh s
  time : p.time = rounds e.duration step k
  drawn : s.framesRendered = k + 1

variable {e : Session} {step : Float32} {k : Nat} {p : Player} {s : Recorder}

-- How the next frame of a trace ends.
def nextOutcome (e : Session) (step : Float32) (k : Nat) : FrameOutcome :=
  if e.duration < rounds e.duration step k + step then
    if e.looping then .looped else .finished
  else .rendered

theorem nextOutcome_of_looping (h : e.looping = true) (step : Float32) (k : Nat) :
    nextOutcome e step k = .rendered ∨ nextOutcome e step k = .looped := by
  rw [nextOutcome, if_pos h]
  split
  · exact .inr rfl
  · exact .inl rfl

theorem nextOutcome_of_not_looping (h : e.looping = false)
    (hgoes : nextOutcome e step k ≠ .finished) : nextOutcome e step k = .rendered := by
  rw [nextOutcome] at hgoes ⊢
  split
  · simp_all
  · rfl

theorem Traced.nextTick (h : p.Traced e step k s) :
    p.nextTick.2 = nextOutcome e step k ∧ p.nextTick.1.mode = .fixed step ∧
      (nextOutcome e step k ≠ .finished → p.nextTick.1.time = rounds e.duration step (k + 1)) := by
  have hadvance : p.clock.advance = { p.clock with time := rounds e.duration step k + step } := by
    simp only [Clock.advance, h.mode, ← h.time, Player.time]
  have hduration : p.session.duration = e.duration := by rw [Session.duration, h.definition]; rfl
  have hlooping : p.session.looping = e.looping := by rw [Session.looping, h.definition]; rfl
  simp only [Player.nextTick, nextOutcome, hadvance, hduration, hlooping, rounds]
  split_ifs with hpast hloops
  · exact ⟨rfl, h.mode, fun _ => rfl⟩
  · exact ⟨rfl, h.mode, fun hne => absurd rfl hne⟩
  · exact ⟨rfl, h.mode, fun _ => rfl⟩

theorem Traced.frame (h : p.Traced e step k s) :
    (p.frame s).1 = .ok (nextOutcome e step k) ∧
      (nextOutcome e step k ≠ .finished →
        p.session.evaluate (rounds e.duration step (k + 1)) s =
          (.ok (), (p.frame s).2.1.session, (p.frame s).2.2) ∧
        (p.frame s).2.1.Traced e step (k + 1) (p.frame s).2.2) ∧
      (nextOutcome e step k = .finished → (p.frame s).2.2 = s) := by
  obtain ⟨houtcome, hmode, htime⟩ := h.nextTick
  have hframed := p.framed s
  generalize p.frame s = framed at hframed
  cases hframed with
  | idle hrunning => simp [h.running] at hrunning
  | finished _ hend =>
      exact ⟨by rw [← houtcome, hend], fun hne => absurd (houtcome ▸ hend) hne, fun _ => rfl⟩
  | @shown _ hend session s' heval =>
      refine ⟨by rw [houtcome], fun hne => ?_,
        fun hfinished => absurd (houtcome.trans hfinished) hend⟩
      obtain ⟨s'', horders, hstands⟩ := Session.performAll_orders h.stands p.nextTick.1.time
      rw [Session.evaluate_ok horders] at heval
      obtain ⟨rfl, rfl⟩ : p.session.shown p.nextTick.1.time = session ∧ s'' = s' := by
        simpa using heval
      refine ⟨?_, h.running, rfl, hmode, h.definition, hstands, htime hne, ?_⟩
      · rw [← htime hne, Session.evaluate_ok horders]
      · rw [Recorder.framesRendered_orders horders, h.drawn]
  | failed _ _ heval =>
      obtain ⟨s'', hok, -⟩ := Session.evaluate_stands h.stands p.nextTick.1.time
      rw [hok] at heval
      cases heval

-- A trace begins with the frame at zero.
theorem Traced.start (h : e.Stands .fresh s) (hdrawn : s.framesRendered = 0) (step : Float32) :
    ((ofSession e (.fixed step)).seek 0 s).1 = .ok () ∧
      e.evaluate 0 s = (.ok (), (played step e s 0).1.session, (played step e s 0).2) ∧
      (played step e s 0).1.Traced e step 0 (played step e s 0).2 := by
  obtain ⟨s', horders, hstands⟩ := Session.performAll_orders h 0
  have hseek : (ofSession e (.fixed step)).seek 0 s =
      (.ok (), ofSession (e.shown 0) (.fixed step), s') := by
    simp only [seek, ofSession, Session.evaluate_ok horders]
    rfl
  have hplayed : played step e s 0 = ((ofSession (e.shown 0) (.fixed step)).play, s') := by
    simp only [played, hseek, after]
  rw [hplayed, hseek]
  exact ⟨rfl, Session.evaluate_ok horders, rfl, rfl, rfl, rfl, hstands, rfl,
    by rw [Recorder.framesRendered_orders horders, hdrawn]⟩

theorem Traced.run (h : (played step e s 0).1.Traced e step 0 (played step e s 0).2) {k : Nat}
    (hgoes : ∀ j < k, nextOutcome e step j ≠ .finished) :
    (played step e s k).1.Traced e step k (played step e s k).2 := by
  induction k with
  | zero => exact h
  | succ k ih => exact ((ih fun j hj => hgoes j (by omega)).frame.2.1 (hgoes k (by omega))).2

theorem Traced.ending_eq (h : (played step e s 0).1.Traced e step 0 (played step e s 0).2) {k : Nat}
    (hgoes : ∀ j < k, nextOutcome e step j ≠ .finished) :
    ending step e s k = .ok (nextOutcome e step k) := (h.run hgoes).frame.1

-- A frame of a trace shows the session at the time that the clock has come to.
structure ShowsRound (step : Float32) (e : Session) (s : Recorder) (k : Nat) : Prop where
  time : (played step e s k).1.time = rounds e.duration step k
  shown : (shownIn step e s k).1.evaluate (rounds e.duration step k) (shownIn step e s k).2 =
    (.ok (), (played step e s k).1.session, (played step e s k).2)
  stamped : (played step e s k).1.session.snapshot.time = rounds e.duration step k

theorem showsRound (h : e.Stands .fresh s) (hdrawn : s.framesRendered = 0)
    (hgoes : ∀ j < k, nextOutcome e step j ≠ .finished) : ShowsRound step e s k := by
  obtain ⟨-, hopened, hstart⟩ := Traced.start h hdrawn step
  have hshown : (shownIn step e s k).1.evaluate (rounds e.duration step k)
      (shownIn step e s k).2 = (.ok (), (played step e s k).1.session, (played step e s k).2) := by
    cases k with
    | zero => exact hopened
    | succ k => exact ((hstart.run fun j hj => hgoes j (by omega)).frame.2.1 (hgoes k (by omega))).1
  refine ⟨(hstart.run hgoes).time, hshown, ?_⟩
  rcases (shownIn step e s k).1.evaluate_cases (rounds e.duration step k)
    (shownIn step e s k).2 with
    ⟨_, -, heval⟩ | ⟨_, _, _, _, _, _, -, -, heval, -⟩
  · have hsession := congrArg (·.2.1) (hshown.symm.trans heval)
    exact congrArg Session.time hsession
  · cases hshown.symm.trans heval

end Player

namespace Trace

open Player (played ending nextOutcome Traced)

-- What a playback has shown after so many frames that were asked for.
def pictures (step : Float32) (e : Session) (s : Recorder) (k : Nat) : Array Snapshot :=
  ((List.range (k + 1)).map fun j => (played step e s j).1.session.snapshot).toArray

theorem pictures_succ (step : Float32) (e : Session) (s : Recorder) (k : Nat) :
    pictures step e s (k + 1) =
      (pictures step e s k).push (played step e s (k + 1)).1.session.snapshot := by
  simp [pictures, List.range_succ]

variable {e : Session} {step : Float32} {s : Recorder}

-- A trace goes on until there are enough frames, or until one finds the end.
theorem further_pictures (h : (played step e s 0).1.Traced e step 0 (played step e s 0).2) {k : Nat}
    (hgoes : ∀ j < k, nextOutcome e step j ≠ .finished) (limit : Nat) :
    ∃ m ≤ k + limit, (∀ j < m, nextOutcome e step j ≠ .finished) ∧
      (m < k + limit → nextOutcome e step m = .finished) ∧
      further (pictures step e s k) limit (played step e s k).1 (played step e s k).2 =
        ⟨pictures step e s m, .ok (), (played step e s m).2⟩ := by
  induction limit generalizing k with
  | zero => exact ⟨k, le_rfl, hgoes, fun hlt => absurd hlt (lt_irrefl _), rfl⟩
  | succ limit ih =>
      have htraced := h.run hgoes
      obtain ⟨hframe, -, hstage⟩ := htraced.frame
      by_cases hfinished : nextOutcome e step k = .finished
      · refine ⟨k, by omega, hgoes, fun _ => hfinished, ?_⟩
        have hsame := hstage hfinished
        rw [hfinished] at hframe
        rw [further, htraced.requested]
        rcases hf : (played step e s k).1.frame (played step e s k).2 with ⟨result, next, s'⟩
        rw [hf] at hframe hsame
        obtain rfl : result = .ok .finished := hframe
        obtain rfl : s' = _ := hsame
        rfl
      · have hgoes' : ∀ j < k + 1, nextOutcome e step j ≠ .finished := by
          intro j hj
          rcases Nat.lt_succ_iff_lt_or_eq.mp hj with hj | rfl
          · exact hgoes j hj
          · exact hfinished
        have hnext : further (pictures step e s k) (limit + 1) (played step e s k).1
            (played step e s k).2 = further (pictures step e s (k + 1)) limit
              (played step e s (k + 1)).1 (played step e s (k + 1)).2 := by
          have hplayed : played step e s (k + 1) =
              ((played step e s k).1.frame (played step e s k).2).2 := rfl
          rw [further, htraced.requested, pictures_succ, hplayed]
          rcases hf : (played step e s k).1.frame (played step e s k).2 with ⟨result, next, s'⟩
          rw [hf] at hframe
          obtain rfl : result = .ok (nextOutcome e step k) := hframe
          cases hnextOutcome : nextOutcome e step k with
          | finished => exact absurd hnextOutcome hfinished
          | _ => rfl
        obtain ⟨m, hm, hbefore, hend, heq⟩ := ih hgoes'
        refine ⟨m, by omega, hbefore, fun hlt => hend (by omega), hnext.trans heq⟩

theorem ofSession_pictures (h : e.Stands .fresh s) (hdrawn : s.framesRendered = 0) (count : Nat) :
    ∃ m ≤ count - 1, (∀ j < m, nextOutcome e step j ≠ .finished) ∧
      (m < count - 1 → nextOutcome e step m = .finished) ∧
      ofSession count step e s = ⟨pictures step e s m, .ok (), (played step e s m).2⟩ := by
  obtain ⟨hopened, -, hstart⟩ := Traced.start h hdrawn step
  obtain ⟨m, hm, hgoes, hend, heq⟩ := further_pictures (k := 0) hstart (by simp) (count - 1)
  rw [Nat.zero_add] at hm hend
  refine ⟨m, hm, hgoes, hend, ?_⟩
  rw [← heq, ofSession]
  rcases hseek : (Player.ofSession e (.fixed step)).seek 0 s with ⟨result, p, s'⟩
  rw [hseek] at hopened
  obtain rfl : result = .ok () := hopened
  have hplayed : played step e s 0 = (p.play, s') := by rw [played, hseek]; rfl
  have hsession : p.play.session = p.session := by
    rw [Player.play]
    split <;> rfl
  have hpictures : pictures step e s 0 = #[p.session.snapshot] := by
    simp [pictures, hplayed, hsession]
  rw [hplayed, hpictures]

end Trace

namespace Command

open Player (played ending nextOutcome nextOutcome_of_looping nextOutcome_of_not_looping Traced
  ShowsRound)

theorem loadOn_stands {path text : String} {e : Session} {s : Recorder}
    (h : loadOn path text Recorder.fresh = .ok (e, s)) :
    e.Stands .fresh s ∧ s.framesRendered = 0 := by
  rw [loadOn, Session.ofText] at h
  cases hread : (Definition.ofText text).result with
  | error fault => simp [hread] at h
  | ok d =>
      have hstands := Session.load_stands (σ := Recorder) d (s := .fresh) trivial
      cases hload : (Session.load d Recorder.fresh).result with
      | error fault => simp [hread, hload, Except.mapError] at h
      | ok e' =>
          obtain ⟨rfl, rfl⟩ : e' = e ∧ (Session.load d Recorder.fresh).stage = s := by
            simpa [hread, hload, Except.mapError] using h
          rw [hload] at hstands
          exact ⟨hstands.2, Recorder.framesRendered_load d⟩

-- What carrying out a trace comes to.
theorem execute_trace {path text : String} {e : Session} {s : Recorder}
    (hload : loadOn path text Recorder.fresh = .ok (e, s)) {given configText : Option String}
    {n : Nat}
    (hcount : frameCount given e.duration (config configText).frameStep = .ok (some n))
    (size : TerminalSize) :
    let step := (config configText).frameStep
    ∃ m ≤ n - 1, (∀ j < m, nextOutcome e step j ≠ .finished) ∧
      (m < n - 1 → nextOutcome e step m = .finished) ∧
      execute ⟨.trace, path, given⟩ (.ok text) configText size =
        .finished ((List.range (m + 1)).map fun k =>
            (played step e s k).1.session.snapshot.sheet.text)
          (some ("Traced " ++ toString (m + 1) ++ " frames (" ++ toString (m + 1) ++
            " rendered) from " ++ path)) := by
  intro step
  obtain ⟨hstands, hdrawn⟩ := loadOn_stands hload
  obtain ⟨-, -, hstart⟩ := Traced.start hstands hdrawn step
  obtain ⟨m, hm, hgoes, hend, htrace⟩ := Trace.ofSession_pictures hstands hdrawn n
  have hframes := (hstart.run hgoes).drawn
  refine ⟨m, hm, hgoes, hend, ?_⟩
  simp only [execute, trace, hload, hcount]
  rw [htrace]
  simp [Trace.pictures, traceRemark, hframes]

end Command

end Diorama
