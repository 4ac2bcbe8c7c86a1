import Diorama.Proofs.Registry.Consistency
import Diorama.Proofs.Stage.Watching

namespace Diorama

-- Of a list that is split in two, the first part is the same up to order only if nothing is left.
theorem perm_iff_rest_eq_nil {α : Type} {l part rest : List α} (h : l.Perm (part ++ rest)) :
    l.Perm part ↔ rest = [] := by
  constructor
  · intro hperm
    have hlength := (h.symm.trans hperm).length_eq
    rw [List.length_append] at hlength
    exact List.length_eq_zero_iff.mp (by omega)
  · rintro rfl
    rwa [List.append_nil] at h

namespace Watched

variable {σ : Type}

-- Each primitive that was made is gone, was refused when it was to go, or is held.
def Holds (w : Watched σ) (held : List Handle) : Prop :=
  (Call.made w.calls).Perm (Call.gone w.calls ++ Call.refused w.calls ++ held)

variable [Stage σ] {w w' : Watched σ} {held : List Handle}

theorem Holds.create {p : Primitive} {handle : Handle} (h : w.Holds held)
    (hp : Stage.create p w = (.ok handle, w')) : w'.Holds (held ++ [handle]) := by
  have hperm : (Call.made w.calls ++ [handle]).Perm
      (Call.gone w.calls ++ Call.refused w.calls ++ held ++ [handle]) := List.Perm.append_right _ h
  rw [Holds, (create_inv hp).2, Call.made_append, Call.gone_append, Call.refused_append]
  change (Call.made w.calls ++ [handle]).Perm
    (Call.gone w.calls ++ [] ++ (Call.refused w.calls ++ []) ++ (held ++ [handle]))
  simpa using hperm

theorem Holds.create_error {p : Primitive} {fault : StageFault} (h : w.Holds held)
    (hp : Stage.create p w = (.error fault, w')) : w'.Holds held := by
  rw [Holds, (create_inv hp).2, Call.made_append, Call.gone_append, Call.refused_append]
  change (Call.made w.calls ++ []).Perm
    (Call.gone w.calls ++ [] ++ (Call.refused w.calls ++ []) ++ held)
  simpa [Holds] using h

-- Only orders to destroy a primitive count.
theorem Holds.perform {order : Order} {answer : Except StageFault Unit} (h : w.Holds held)
    (horder : order.destroyed? = none) (hp : Stage.perform order w = (answer, w')) :
    w'.Holds held := by
  have hgone : Call.gone [.perform order answer] = [] := by
    simp [Call.gone, Call.gone?, Call.asked?, horder]
  have hrefused : Call.refused [.perform order answer] = [] := by
    simp [Call.refused, Call.refused?, Call.asked?, horder]
  have hmade : Call.made [.perform order answer] = [] := rfl
  rw [Holds, (perform_inv hp).2, Call.made_append, Call.gone_append, Call.refused_append, hmade,
    hgone, hrefused]
  simpa [Holds] using h

-- Whatever the stage answers, the handle is not held any more.
theorem Holds.destroy {handle : Handle} {answer : Except StageFault Unit}
    (h : w.Holds (handle :: held)) (hp : Stage.perform (.destroyPrimitive handle) w = (answer, w')) :
    w'.Holds held := by
  rw [Holds, (perform_inv hp).2, Call.made_append, Call.gone_append, Call.refused_append]
  cases answer with
  | ok done =>
      have hmiddle : (Call.gone w.calls ++ (Call.refused w.calls ++ handle :: held)).Perm
          (Call.gone w.calls ++ (handle :: (Call.refused w.calls ++ held))) :=
        List.Perm.append_left _ List.perm_middle
      change (Call.made w.calls ++ []).Perm
        (Call.gone w.calls ++ [handle] ++ (Call.refused w.calls ++ []) ++ held)
      rw [Holds, List.append_assoc] at h
      simpa using h.trans hmiddle
  | error fault =>
      change (Call.made w.calls ++ []).Perm
        (Call.gone w.calls ++ [] ++ (Call.refused w.calls ++ [handle]) ++ held)
      simpa [Holds] using h

end Watched

namespace Registry

variable {σ : Type} [Stage σ]

def handles (r : Registry) : List Handle := r.actors.filterMap (·.handle)

-- What a stage says when it is asked to let go of all handles one after the other, whatever it has
-- refused before.
def answers : List Handle → σ → List (Except StageFault Unit)
  | [], _ => []
  | handle :: rest, s =>
    let (answer, s) := Stage.perform (.destroyPrimitive handle) s
    answer :: answers rest s

-- No handle is refused that has another one behind it.
def Releasable (handles : List Handle) (s : σ) : Prop :=
  ∀ answer ∈ (answers handles s).dropLast, answer = .ok ()

theorem releasable_cons_ok {handle : Handle} {s s' : σ}
    (h : Stage.perform (.destroyPrimitive handle) s = (.ok (), s')) (rest : List Handle) :
    Releasable (handle :: rest) s ↔ Releasable rest s' := by
  cases rest with
  | nil => simp [Releasable, answers]
  | cons next rest => simp [Releasable, answers, h]

theorem releasable_cons_error {handle : Handle} {s s' : σ} {fault : StageFault}
    (h : Stage.perform (.destroyPrimitive handle) s = (.error fault, s')) (rest : List Handle) :
    Releasable (handle :: rest) s ↔ rest = [] := by
  cases rest with
  | nil => simp [Releasable, answers]
  | cons next rest => simp [Releasable, answers, h]

theorem release_eq (actors : List Actor) (s : σ) :
    release actors s =
      Stage.performAll ((actors.filterMap (·.handle)).map .destroyPrimitive) s := by
  induction actors generalizing s with
  | nil => rfl
  | cons a rest ih =>
      cases hhandle : a.handle with
      | none => simp [release, hhandle, ih]
      | some handle =>
          rcases hp : Stage.perform (.destroyPrimitive handle) s with ⟨_ | _, s'⟩ <;>
            simp [release, hhandle, hp, ih, Stage.performAll]

-- What comes of asking for handles in turn. The stage is asked for them up to the first that it
-- refuses, and never for those behind it.
structure Asks (handles : List Handle) (s : σ) (result : Except StageFault Unit) (since : List Call)
    (behind : List Handle) : Prop where
  made : Call.made since = []
  asked : Call.asked since = Call.gone since ++ Call.refused since
  split : handles = Call.asked since ++ behind
  result : result = .ok () ↔ Call.refused since = []
  behind : behind = [] ↔ Releasable handles s

theorem performAll_asks (handles : List Handle) (w : Watched σ) :
    let released := Stage.performAll (handles.map .destroyPrimitive) w
    ∃ since behind, released.2.calls = w.calls ++ since ∧
      Asks handles w.stage released.1 since behind := by
  induction handles generalizing w with
  | nil => exact ⟨[], [], by simp, by constructor <;> simp [Call.made, Call.asked, Call.gone,
      Call.refused, Releasable, answers]⟩
  | cons handle rest ih =>
      rcases hp : Stage.perform (.destroyPrimitive handle) w with ⟨_ | _, w'⟩
      · rename_i fault
        obtain ⟨hstage, hcalls⟩ := Watched.perform_inv hp
        rw [List.map_cons, Stage.performAll_cons_error hp]
        exact ⟨[.perform (.destroyPrimitive handle) (.error fault)], rest, hcalls, rfl, rfl, rfl,
          ⟨nofun, nofun⟩, (releasable_cons_error hstage rest).symm⟩
      · obtain ⟨hstage, hcalls⟩ := Watched.perform_inv hp
        obtain ⟨since, behind, hsince, hasks⟩ := ih w'
        rw [List.map_cons, Stage.performAll_cons_ok hp]
        refine ⟨.perform (.destroyPrimitive handle) (.ok ()) :: since, behind, ?_, ?_⟩
        · rw [hsince, hcalls, List.append_assoc]
          rfl
        · exact {
            made := hasks.made
            asked := congrArg (handle :: ·) hasks.asked
            split := congrArg (handle :: ·) hasks.split
            result := hasks.result
            behind := hasks.behind.trans (releasable_cons_ok hstage rest).symm }

variable {w : Watched σ} {held : List Handle}

theorem place_holds (d : ActorDefinition) (p : Primitive) (h : w.Holds held) :
    match (place d p w).result with
    | .ok handle => (place d p w).stage.Holds (held ++ [handle])
    | .error _ => (place d p w).stage.Holds held := by
  rw [place]
  rcases hc : Stage.create p w with ⟨_ | handle, w₁⟩
  · exact h.create_error hc
  · have hmade := h.create hc
    rcases hp : Stage.perform (.setTransform handle d.initialTransform) w₁ with ⟨_ | _, w₂⟩
    · have hplaced := hmade.perform rfl hp
      have hfirst : w₂.Holds (handle :: held) :=
        List.Perm.trans hplaced (List.Perm.append_left _ List.perm_append_comm)
      rcases hd : Stage.perform (.destroyPrimitive handle) w₂ with ⟨_ | _, w₃⟩ <;>
        simpa [hp, hd] using hfirst.destroy hd
    · simpa [hp] using hmade.perform rfl hp

theorem handles_add (d : ActorDefinition) (handle : Option Handle) (r : Registry) :
    (r.add d handle).handles = r.handles ++ handle.toList := by
  cases handle <;> simp [handles, add]

theorem createActor_holds (d : ActorDefinition) {r : Registry} (h : w.Holds r.handles) :
    (r.createActor d w).1.stage.Holds (r.createActor d w).2.handles := by
  unfold createActor
  split
  · exact h
  · cases d.primitive? with
    | none => simpa [handles_add] using h
    | some p =>
        have hplace := place_holds d p h
        cases hplaced : (place d p w).result with
        | ok handle => simpa [hplaced, handles_add] using hplace
        | error fault => simpa [hplaced] using hplace

theorem createActor_error_registry {d : ActorDefinition} {r : Registry} {s : σ} {fault : StageFault}
    (h : (r.createActor d s).1.result = .error fault) : (r.createActor d s).2 = r := by
  rcases r.createActor_cases d s with
    ⟨-, -, hsame⟩ | ⟨-, ⟨handle, hresult, -⟩ | ⟨-, -, hsame⟩⟩
  · exact hsame
  · rw [hresult] at h
    cases h
  · exact hsame

theorem discard_eq (r : Registry) (s : σ) :
    (r.discard s).2 = (Stage.performAll (r.handles.map .destroyPrimitive) s).2 := by
  rw [discard, release_eq, handles]
  rcases Stage.performAll _ s with ⟨_ | _, s'⟩ <;> rfl

theorem teardown_eq (r : Registry) (s : σ) :
    let released := Stage.performAll (r.handles.map .destroyPrimitive) s
    (r.teardown s).1 = released.1 ∧ (r.teardown s).2.2 = released.2 := by
  rw [teardown, release_eq, handles]
  rcases Stage.performAll _ s with ⟨_ | _, s'⟩ <;> exact ⟨rfl, rfl⟩

theorem Asks.asked_perm_iff {handles behind : List Handle} {s : σ} {result : Except StageFault Unit}
    {since : List Call} (h : Asks handles s result since behind) :
    (Call.asked since).Perm handles ↔ Releasable handles s := by
  have hperm : handles.Perm (Call.asked since ++ behind) := List.Perm.of_eq h.split
  rw [List.perm_comm, perm_iff_rest_eq_nil hperm, h.behind]

-- What stays behind when actors are discarded.
theorem discard_holds {r : Registry} (h : w.Holds r.handles) :
    ∃ behind, (r.discard w).2.Holds behind ∧ (behind = [] ↔ Releasable r.handles w.stage) := by
  obtain ⟨since, behind, hcalls, hasks⟩ := performAll_asks r.handles w
  refine ⟨behind, ?_, hasks.behind⟩
  have hsplit : (Call.made w.calls).Perm (Call.gone w.calls ++
      (Call.refused w.calls ++ (Call.gone since ++ (Call.refused since ++ behind)))) := by
    have hhandles := hasks.split.trans (congrArg (· ++ behind) hasks.asked)
    rw [Watched.Holds, hhandles] at h
    simpa using h
  have hswap : (Call.refused w.calls ++ (Call.gone since ++ (Call.refused since ++ behind))).Perm
      (Call.gone since ++ (Call.refused w.calls ++ (Call.refused since ++ behind))) :=
    List.perm_append_comm_assoc _ _ _
  rw [discard_eq, Watched.Holds, hcalls, Call.made_append, Call.gone_append, Call.refused_append,
    hasks.made]
  simpa using hsplit.trans (List.Perm.append_left _ hswap)

theorem discard_perm_iff {r : Registry} (h : w.Holds r.handles) :
    let calls := (r.discard w).2.calls
    (Call.made calls).Perm (Call.gone calls ++ Call.refused calls) ↔
      Releasable r.handles w.stage := by
  obtain ⟨behind, hbehind, hiff⟩ := discard_holds h
  exact (perm_iff_rest_eq_nil hbehind).trans hiff

theorem buildFrom_holds (definitions : List ActorDefinition) {r built : Registry}
    (h : w.Holds r.handles) (hok : (r.buildFrom definitions w).result = .ok built) :
    (r.buildFrom definitions w).stage.Holds built.handles := by
  induction definitions generalizing r w with
  | nil =>
      cases hok
      exact h
  | cons d rest ih =>
      have hcreated := createActor_holds d h
      rw [buildFrom] at hok ⊢
      cases hresult : (r.createActor d w).1.result with
      | ok index =>
          simp only [hresult] at hok ⊢
          exact ih hcreated hok
      | error fault => simp [hresult] at hok

-- A build breaks off at the first actor that cannot be created, and discards those before it.
theorem buildFrom_error (definitions : List ActorDefinition) {r : Registry} {s : σ}
    {fault : StageFault} (herror : (r.buildFrom definitions s).result = .error fault) :
    ∃ done d rest reached, definitions = done ++ d :: rest ∧
      (r.buildFrom done s).result = .ok reached ∧
      (reached.createActor d (r.buildFrom done s).stage).1.result = .error fault ∧
      (r.buildFrom definitions s).stage =
        (reached.discard (reached.createActor d (r.buildFrom done s).stage).1.stage).2 := by
  induction definitions generalizing r s with
  | nil => cases herror
  | cons d rest ih =>
      rw [buildFrom] at herror ⊢
      cases hresult : (r.createActor d s).1.result with
      | ok index =>
          simp only [hresult] at herror ⊢
          obtain ⟨done, d', rest', reached, hsplit, hdone, hfault, hstage⟩ := ih herror
          have hbuilt : (r.buildFrom (d :: done) s).result =
              ((r.createActor d s).2.buildFrom done (r.createActor d s).1.stage).result := by
            simp only [buildFrom, hresult]
          have hreached : (r.buildFrom (d :: done) s).stage =
              ((r.createActor d s).2.buildFrom done (r.createActor d s).1.stage).stage := by
            simp only [buildFrom, hresult]
          refine ⟨d :: done, d', rest', reached, by rw [hsplit, List.cons_append], ?_, ?_, ?_⟩
          · rw [hbuilt, hdone]
          · rw [hreached, hfault]
          · rw [hreached, hstage]
      | error broken =>
          simp only [hresult] at herror ⊢
          cases herror
          refine ⟨[], d, rest, r, rfl, rfl, hresult, ?_⟩
          rw [createActor_error_registry hresult]
          rfl

-- Where a build breaks off: the actors that there are then, and the stage as the attempt at the
-- next one leaves it.
def StopsAt (definitions : List ActorDefinition) (s : σ) (r : Registry) (s' : σ) : Prop :=
  ∃ done d rest fault, definitions = done ++ d :: rest ∧ (build done s).result = .ok r ∧
    (r.createActor d (build done s).stage).1.result = .error fault ∧
    (r.createActor d (build done s).stage).1.stage = s'

theorem build_stops {definitions : List ActorDefinition} {fault : StageFault} (h : w.Holds [])
    (herror : (build definitions w).result = .error fault) :
    ∃ r w', StopsAt definitions w r w' ∧ w'.Holds r.handles ∧
      (build definitions w).stage = (r.discard w').2 := by
  obtain ⟨done, d, rest, r, hsplit, hdone, hfault, hstage⟩ := buildFrom_error definitions herror
  refine ⟨r, _, ⟨done, d, rest, fault, hsplit, hdone, hfault, rfl⟩, ?_, hstage⟩
  have hholds := createActor_holds d (buildFrom_holds done h hdone)
  rwa [createActor_error_registry hfault] at hholds

end Registry

end Diorama
