import Diorama.Proofs.Document.Revision

namespace Diorama

variable {α β : Type}

theorem RecordShape.ignoreOther_map (name : String) (n : Node) (found : α) (g : α → α) :
    (ignoreOther name n (g found)).result = (ignoreOther name n found).result.map g :=
  Reading.bind_pure_map (r := n.ignore) fun _ => rfl

-- Each record without one of its lenient members: that member is as if nothing had been said. The
-- cases of the proofs are the members in the order in which `readField` has them.

namespace CameraDefinition

def lenientMembers : List (String × Sense) :=
  [("position", .point), ("target", .point), ("fov", .number), ("follow_actor", .text)]

def without (name : String) (c : CameraDefinition) : CameraDefinition where
  position := if name = "position" then ⟨0, 0, 10⟩ else c.position
  target := if name = "target" then Vec3.zero else c.target
  fov := if name = "fov" then 75 else c.fov
  followActor := if name = "follow_actor" then none else c.followActor

theorem without_confined (name : String) : recordShape.Confined name (without name) where
  field other hne n c := by
    have hne' := hne.symm
    change (readField other n (without name c)).result = (readField other n c).result.map _
    unfold readField
    split
    case h_5 => rfl
    all_goals exact Reading.bind_pure_map fun _ => by simp [without, hne']
  other other n c := RecordShape.ignoreOther_map other n c (without name)

theorem lenient : recordShape.Lenient lenientMembers without where
  confined := without_confined
  known := by decide
  free := by decide
  blank name := by simp [without, recordShape]
  forgets name sense hmember n c c' hread := by
    change (readField name n c).result = .ok c' at hread
    unfold readField at hread
    split at hread
    case h_5 => exact congrArg _ (Except.ok.inj hread).symm
    all_goals
      obtain ⟨found, -, rfl⟩ := Reading.bind_pure_ok hread
      rfl
  refuses name sense hmember n j c hj hrefused := by
    change (readField name n c).result = _
    unfold readField
    split
    case h_1 | h_2 =>
      obtain rfl : sense = .point := by simpa [lenientMembers] using hmember
      exact Reading.bind_pure_of_ok (Node.lenient_shape_refused hj hrefused) _
    case h_3 =>
      obtain rfl : sense = .number := by simpa [lenientMembers] using hmember
      exact Reading.bind_pure_of_ok (Node.optionalNumber_refused hj hrefused) _
    case h_4 =>
      obtain rfl : sense = .text := by simpa [lenientMembers] using hmember
      exact Reading.bind_pure_of_ok (Node.lenient_shape_refused hj hrefused) _
    case h_5 => simp_all [lenientMembers]

-- A camera that is there is read like any other record.
theorem readOptional_alter {name : String} {f : Node → Option (Option Node)}
    {g : CameraDefinition → CameraDefinition} (h : recordShape.Alters name f g) {n n' : Node}
    {camera : Option CameraDefinition} (halter : n.alterMember name f = some n')
    (hread : (readOptional n).result = .ok camera) :
    (readOptional n').result = .ok (camera.map g) := by
  cases n with
  | object start members =>
      obtain ⟨c, hc, hcamera⟩ := Reading.andThen_ok hread
      cases hcamera
      have hc' := h.read halter hc
      obtain ⟨members', -, rfl⟩ := Option.map_eq_some_iff.mp halter
      exact (Reading.result_andThen hc').trans rfl
  | _ => simp [Node.alterMember] at halter

end CameraDefinition

namespace TimelineEvent

def lenientMembers : List (String × Sense) :=
  [("time", .number), ("duration", .number), ("easing", .text)]

def without (name : String) (e : TimelineEvent) : TimelineEvent where
  time := if name = "time" then 0 else e.time
  duration := if name = "duration" then 1 else e.duration
  easing := if name = "easing" then .linear else e.easing
  properties := e.properties

theorem without_confined (name : String) : recordShape.Confined name (without name) where
  field other hne n e := by
    have hne' := hne.symm
    change (readField other n (without name e)).result = (readField other n e).result.map _
    unfold readField
    split
    case h_5 => rfl
    all_goals exact Reading.bind_pure_map fun _ => by simp [without, hne']
  other other n e := RecordShape.ignoreOther_map other n e (without name)

theorem lenient : recordShape.Lenient lenientMembers without where
  confined := without_confined
  known := by decide
  free := by decide
  blank name := by simp [without, recordShape]
  forgets name sense hmember n e e' hread := by
    change (readField name n e).result = .ok e' at hread
    unfold readField at hread
    split at hread
    case h_4 => simp [lenientMembers] at hmember
    case h_5 => exact congrArg _ (Except.ok.inj hread).symm
    all_goals
      obtain ⟨found, -, rfl⟩ := Reading.bind_pure_ok hread
      rfl
  refuses name sense hmember n j e hj hrefused := by
    change (readField name n e).result = _
    unfold readField
    split
    case h_1 | h_2 =>
      obtain rfl : sense = .number := by simpa [lenientMembers] using hmember
      exact Reading.bind_pure_of_ok (Node.optionalNumber_refused hj hrefused) _
    case h_3 =>
      obtain rfl : sense = .text := by simpa [lenientMembers] using hmember
      exact Reading.bind_pure_of_ok (Node.easing_refused hj hrefused) _
    all_goals simp_all [lenientMembers]

end TimelineEvent

namespace Annotation

def lenientMembers : List (String × Sense) :=
  [("time", .number), ("duration", .number), ("position", .point), ("style", .style)]

def without (name : String) (a : Annotation) : Annotation where
  text := a.text
  time := if name = "time" then 0 else a.time
  duration := if name = "duration" then 3 else a.duration
  position := if name = "position" then none else a.position
  style := if name = "style" then [] else a.style

theorem without_confined (name : String) : recordShape.Confined name (without name) where
  field other hne n a := by
    have hne' := hne.symm
    change (readField other n (without name a)).result = (readField other n a).result.map _
    unfold readField
    split
    case h_6 => rfl
    all_goals exact Reading.bind_pure_map fun _ => by simp [without, hne']
  other other n a := RecordShape.ignoreOther_map other n a (without name)

theorem lenient : recordShape.Lenient lenientMembers without where
  confined := without_confined
  known := by decide
  free := by decide
  blank name := by simp [without, recordShape]
  forgets name sense hmember n a a' hread := by
    change (readField name n a).result = .ok a' at hread
    unfold readField at hread
    split at hread
    case h_1 => simp [lenientMembers] at hmember
    case h_6 => exact congrArg _ (Except.ok.inj hread).symm
    all_goals
      obtain ⟨found, -, rfl⟩ := Reading.bind_pure_ok hread
      rfl
  refuses name sense hmember n j a hj hrefused := by
    change (readField name n a).result = _
    unfold readField
    split
    case h_2 | h_3 =>
      obtain rfl : sense = .number := by simpa [lenientMembers] using hmember
      exact Reading.bind_pure_of_ok (Node.optionalNumber_refused hj hrefused) _
    case h_4 =>
      obtain rfl : sense = .point := by simpa [lenientMembers] using hmember
      exact Reading.bind_pure_of_ok (Node.lenient_shape_refused hj hrefused) _
    case h_5 =>
      obtain rfl : sense = .style := by simpa [lenientMembers] using hmember
      exact Reading.bind_pure_of_ok (Node.lenient_shape_refused hj hrefused) _
    all_goals simp_all [lenientMembers]

end Annotation

namespace ActorDefinition

def lenientMembers : List (String × Sense) :=
  [("type", .text), ("radius", .number), ("height", .number), ("width", .number),
    ("depth", .number), ("points", .points), ("count", .number), ("text_content", .text),
    ("font_size", .number), ("color", .color), ("opacity", .number), ("emissive", .color),
    ("position", .point), ("rotation", .point), ("scale", .scale)]

def without (name : String) (d : ActorDefinition) : ActorDefinition where
  id := d.id
  kind := if name = "type" then .unknown "" else d.kind
  radius := if name = "radius" then none else d.radius
  height := if name = "height" then none else d.height
  width := if name = "width" then none else d.width
  depth := if name = "depth" then none else d.depth
  points := if name = "points" then [] else d.points
  count := if name = "count" then none else d.count
  textContent := if name = "text_content" then none else d.textContent
  fontSize := if name = "font_size" then none else d.fontSize
  color := if name = "color" then .white else d.color
  opacity := if name = "opacity" then none else d.opacity
  emissive := if name = "emissive" then none else d.emissive
  position := if name = "position" then Vec3.zero else d.position
  rotation := if name = "rotation" then Vec3.zero else d.rotation
  scale := if name = "scale" then Vec3.one else d.scale
  metadata := d.metadata

theorem without_confined (name : String) : recordShape.Confined name (without name) where
  field other hne n d := by
    have hne' := hne.symm
    change (readField other n (without name d)).result = (readField other n d).result.map _
    unfold readField
    split
    case h_17 => rfl
    all_goals exact Reading.bind_pure_map fun _ => by simp [without, hne']
  other _ n _ := Reading.bind_pure_map (r := n.json) fun _ => rfl

theorem lenient : recordShape.Lenient lenientMembers without where
  confined := without_confined
  known := by decide
  free := by decide
  blank name := by simp [without, recordShape]
  forgets name sense hmember n d d' hread := by
    change (readField name n d).result = .ok d' at hread
    unfold readField at hread
    split at hread
    case h_1 => simp [lenientMembers] at hmember
    case h_17 => exact congrArg _ (Except.ok.inj hread).symm
    all_goals
      obtain ⟨found, -, rfl⟩ := Reading.bind_pure_ok hread
      rfl
  refuses name sense hmember n j d hj hrefused := by
    change (readField name n d).result = _
    unfold readField
    split
    case h_2 | h_9 =>
      obtain rfl : sense = .text := by simpa [lenientMembers] using hmember
      exact Reading.bind_pure_of_ok (Node.lenient_shape_refused hj hrefused) _
    case h_3 | h_4 | h_5 | h_6 | h_8 | h_10 | h_12 =>
      obtain rfl : sense = .number := by simpa [lenientMembers] using hmember
      exact Reading.bind_pure_of_ok (Node.optionalNumber_refused hj hrefused) _
    case h_7 =>
      obtain rfl : sense = .points := by simpa [lenientMembers] using hmember
      exact Reading.bind_pure_of_ok (Node.lenient_shape_refused hj hrefused) _
    case h_11 | h_13 =>
      obtain rfl : sense = .color := by simpa [lenientMembers] using hmember
      exact Reading.bind_pure_of_ok (Node.lenient_refused hj hrefused) _
    case h_14 | h_15 =>
      obtain rfl : sense = .point := by simpa [lenientMembers] using hmember
      exact Reading.bind_pure_of_ok (Node.lenient_shape_refused hj hrefused) _
    case h_16 =>
      obtain rfl : sense = .scale := by simpa [lenientMembers] using hmember
      exact Reading.bind_pure_of_ok (Node.lenient_shape_refused hj hrefused) _
    all_goals simp_all [lenientMembers]

end ActorDefinition

namespace Definition

-- Which of the records of a definition is meant, by its position.
inductive Spot where
  | top
  | camera
  | actor (index : Nat)
  | event (index : Nat)
  | caption (index : Nat)

namespace Spot

def lenientMembers : Spot → List (String × Sense)
  | .top => [("scene", .text), ("duration", .number), ("loop", .flag)]
  | .camera => CameraDefinition.lenientMembers
  | .actor _ => ActorDefinition.lenientMembers
  | .event _ => TimelineEvent.lenientMembers
  | .caption _ => Annotation.lenientMembers

-- The member of the definition that has to be opened to get to a member of such a record.
def entrance (name : String) : Spot → String
  | .top => name
  | .camera => "camera"
  | .actor _ => "actors"
  | .event _ => "timeline"
  | .caption _ => "annotations"

-- What becomes of that member if the member of the record is given another value or left out.
def edit (name : String) (value : Option Node) : Spot → Node → Option (Option Node)
  | .top, _ => some value
  | .camera, n => (n.alterMember name fun _ => some value).map some
  | .actor index, n | .event index, n | .caption index, n =>
    (n.alterItem index fun item => item.alterMember name fun _ => some value).map some

def revise (name : String) (value : Option Node) (spot : Spot) (n : Node) : Option Node :=
  n.alterMember (spot.entrance name) (spot.edit name value)

end Spot

-- The same definition but for one lenient member of one record, which has its default.
def reset (name : String) (spot : Spot) (d : Definition) : Definition :=
  match spot with
  | .top =>
    { d with
      scene := if name = "scene" then none else d.scene
      duration := if name = "duration" then defaultDuration else d.duration
      looping := if name = "loop" then true else d.looping }
  | .camera => { d with camera := d.camera.map (·.without name) }
  | .actor index => { d with actors := d.actors.modify index (·.without name) }
  | .event index => { d with timeline := d.timeline.modify index (·.without name) }
  | .caption index => { d with annotations := d.annotations.modify index (·.without name) }

theorem reset_confined (name : String) (spot : Spot) :
    recordShape.Confined (spot.entrance name) (reset name spot) where
  field other hne n d := by
    have hne' := hne.symm
    change (readField other n (reset name spot d)).result = (readField other n d).result.map _
    cases spot <;> unfold readField <;> split
    all_goals first
      | rfl
      | exact Reading.bind_pure_map fun _ => by simp_all [reset, Spot.entrance]
  other other n d := RecordShape.ignoreOther_map other n d (reset name spot)

-- An item of a list that is altered while the other items stay.
theorem list_altered {read : Node → Reading β} {f : Node → Option Node} {g : β → β}
    (hf : ∀ n n' a, f n = some n' → (read n).result = .ok a → (read n').result = .ok (g a))
    {index : Nat} {put : List β → α} {n n' : Node} {a : α}
    (halter : (n.alterItem index f).map some = some (some n'))
    (hread : (n.list read >>= fun all => pure (put all)).result = .ok a) :
    ∃ all, a = put all ∧ (n'.list read >>= fun all => pure (put all)).result =
      .ok (put (all.modify index g)) := by
  obtain ⟨all, hall, rfl⟩ := Reading.bind_pure_ok hread
  obtain ⟨_, hn', heq⟩ := Option.map_eq_some_iff.mp halter
  cases heq
  exact ⟨all, rfl, Reading.bind_pure_of_ok (Node.list_alter hf hn' hall) put⟩

theorem top_lenient : recordShape.Lenient (Spot.lenientMembers .top) (reset · .top) where
  confined name := reset_confined name .top
  known := by decide
  free := by decide
  blank name := by simp [reset, recordShape, defaultDuration]
  forgets name sense hmember n d d' hread := by
    change (readField name n d).result = .ok d' at hread
    unfold readField at hread
    split at hread
    case h_8 => exact congrArg _ (Except.ok.inj hread).symm
    all_goals
      obtain ⟨found, -, rfl⟩ := Reading.bind_pure_ok hread
      first
        | rfl
        | simp [Spot.lenientMembers] at hmember
  refuses name sense hmember n j d hj hrefused := by
    change (readField name n d).result = _
    unfold readField
    split
    case h_1 =>
      obtain rfl : sense = .text := by simpa [Spot.lenientMembers] using hmember
      exact Reading.bind_pure_of_ok (Node.lenient_shape_refused hj hrefused) _
    case h_2 =>
      obtain rfl : sense = .number := by simpa [Spot.lenientMembers] using hmember
      exact Reading.bind_pure_of_ok (Node.optionalNumber_refused hj hrefused) _
    case h_3 =>
      obtain rfl : sense = .flag := by simpa [Spot.lenientMembers] using hmember
      exact Reading.bind_pure_of_ok (Node.lenient_shape_refused hj hrefused) _
    all_goals simp_all [Spot.lenientMembers]

theorem reset_blank (name : String) (spot : Spot) :
    reset name spot recordShape.blank = recordShape.blank := by
  cases spot <;> simp [reset, recordShape, defaultDuration]

variable {name : String} {sense : Sense} {spot : Spot} {value : Option Node}

theorem reset_alters (hmember : (name, sense) ∈ spot.lenientMembers)
    (hvalue : sense.Refuses value) :
    recordShape.Alters (spot.entrance name) (spot.edit name value) (reset name spot) where
  confined := reset_confined name spot
  known := by
    cases spot with
    | top => exact top_lenient.known _ hmember
    | _ => rfl
  blank := reset_blank name spot
  put n n' hput d d' hread := by
    cases spot with
    | top => exact (top_lenient.alters hmember hvalue).put n n' hput d d' hread
    | camera =>
        have halters := CameraDefinition.lenient.alters hmember hvalue
        obtain ⟨camera, hcamera, rfl⟩ := Reading.bind_pure_ok hread
        obtain ⟨_, hn', heq⟩ := Option.map_eq_some_iff.mp hput
        cases heq
        exact Reading.bind_pure_of_ok (CameraDefinition.readOptional_alter halters hn' hcamera) _
    | actor index =>
        have halters := ActorDefinition.lenient.alters hmember hvalue
        obtain ⟨all, rfl, hall⟩ := list_altered (fun _ _ _ => halters.read) hput hread
        exact hall
    | event index =>
        have halters := TimelineEvent.lenient.alters hmember hvalue
        obtain ⟨all, rfl, hall⟩ := list_altered (fun _ _ _ => halters.read) hput hread
        exact hall
    | caption index =>
        have halters := Annotation.lenient.alters hmember hvalue
        obtain ⟨all, rfl, hall⟩ := list_altered (fun _ _ _ => halters.read) hput hread
        exact hall
  drop n hdrop := by
    cases spot with
    | top => exact (top_lenient.alters hmember hvalue).drop n hdrop
    | _ => simp [Spot.edit] at hdrop

-- The reset of a duration that gave way to the default anyway changes nothing.
theorem sanitized_reset (d : Definition) :
    (d.reset name spot).sanitized = d.sanitized.reset name spot := by
  have hdefault : (defaultDuration.isFinite && !decide (defaultDuration < 0)) = true := by
    decide +kernel
  unfold sanitized
  by_cases hduration : spot = .top ∧ name = "duration"
  · obtain ⟨rfl, rfl⟩ := hduration
    refine (if_pos hdefault).trans ?_
    split <;> rfl
  · have hsame : (d.reset name spot).duration = d.duration := by
      cases spot with
      | top => exact if_neg fun hname => hduration ⟨rfl, hname⟩
      | _ => rfl
    by_cases hfine : (d.duration.isFinite && !decide (d.duration < 0)) = true
    · rw [hsame, if_pos hfine, if_pos hfine]
    · rw [hsame, if_neg hfine, if_neg hfine]
      cases spot with
      | top =>
          have hname : name ≠ "duration" := fun hname => hduration ⟨rfl, hname⟩
          simp [reset, hname]
      | _ => rfl

-- A text that says what another text says, but for one member of one record.
structure Revised (name : String) (value : Option Node) (spot : Spot) (text text' : String) :
    Prop where
  exists_tree : ∃ n n', tree? text = some n ∧ spot.revise name value n = some n' ∧
    tree? text' = some n'

theorem Revised.ofText_eq {text text' : String} {d : Definition}
    (h : Revised name value spot text text') (hmember : (name, sense) ∈ spot.lenientMembers)
    (hvalue : sense.Refuses value) (hd : (ofText text).result = .ok d) :
    (ofText text').result = .ok (d.reset name spot) := by
  obtain ⟨n, n', hn, hrevise, hn'⟩ := h.exists_tree
  obtain ⟨m, found, hm, hfound, rfl⟩ := ofText_ok_iff.mp hd
  obtain rfl := Option.some.inj (hn.symm.trans hm)
  have hread := (reset_alters hmember hvalue).read hrevise hfound
  exact ofText_ok_iff.mpr ⟨n', found.reset name spot, hn', hread, sanitized_reset found⟩

-- A member with a value that cannot be read, with `null`, and no such member at all: the text can
-- be read all the same, and the definitions are the same one, where that member has its default.
theorem malformed_null_absent_alike {text nulled spoiled shortened : String} {d : Definition}
    {v : Node} {j : Json} (hd : (ofText text).result = .ok d)
    (hmember : (name, sense) ∈ spot.lenientMembers)
    (hnulled : Revised name (some (.null none)) spot text nulled)
    (hspoiled : Revised name (some v) spot text spoiled) (hj : v.value = .ok j)
    (hrefused : sense.accepts j = false) (hshortened : Revised name none spot text shortened) :
    (ofText nulled).result = .ok (d.reset name spot) ∧
      (ofText spoiled).result = .ok (d.reset name spot) ∧
      (ofText shortened).result = .ok (d.reset name spot) := by
  refine ⟨hnulled.ofText_eq hmember ?_ hd, hspoiled.ofText_eq hmember ?_ hd,
    hshortened.ofText_eq hmember ?_ hd⟩
  · rintro n hn
    cases hn
    exact ⟨.null, rfl, sense.accepts_null⟩
  · rintro n hn
    cases hn
    exact ⟨j, hj, hrefused⟩
  · rintro n hn
    cases hn

-- The scale of the second actor, given in parts, one of which is then no number.
theorem scales_alike :
    let text :=
      "\x7b\"actors\":[\x7b\"id\":\"a\"\x7d,\x7b\"id\":\"b\",\"scale\":\x7b\"y\":2\x7d\x7d]\x7d"
    let nulled := "\x7b\"actors\":[\x7b\"id\":\"a\"\x7d,\x7b\"id\":\"b\",\"scale\":null\x7d]\x7d"
    let spoiled :=
      "\x7b\"actors\":[\x7b\"id\":\"a\"\x7d,\x7b\"id\":\"b\",\"scale\":\x7b\"y\":\"2\"\x7d\x7d]\x7d"
    let shortened := "\x7b\"actors\":[\x7b\"id\":\"a\"\x7d,\x7b\"id\":\"b\"\x7d]\x7d"
    let v : Node := .object none (.member "y" none (.string "2" none) (.close none))
    let j : Json := .object [("y", .string "2")]
    ∃ d, (ofText text).result = .ok d ∧ ("scale", .scale) ∈ Spot.lenientMembers (.actor 1) ∧
      Revised "scale" (some (.null none)) (.actor 1) text nulled ∧
      Revised "scale" (some v) (.actor 1) text spoiled ∧ v.value = .ok j ∧
      Sense.accepts .scale j = false ∧ Revised "scale" none (.actor 1) text shortened ∧
      (ofText nulled).result = .ok (d.reset "scale" (.actor 1)) ∧
      (ofText spoiled).result = .ok (d.reset "scale" (.actor 1)) ∧
      (ofText shortened).result = .ok (d.reset "scale" (.actor 1)) := by
  intro text nulled spoiled shortened v j
  let actor (id : String) (rest : Members) : Node :=
    .object none (.member "id" none (.string id none) rest)
  let n (rest : Members) : Node := .object none (.member "actors" none (.array none
    (.item none (actor "a" (.close none)) (.item none (actor "b" rest) (.close none))))
    (.close none))
  let scale (v : Node) : Members := .member "scale" none v (.close none)
  have hn : tree? text = some (n (scale (.object none
      (.member "y" none (.number (.integer 2) none) (.close none))))) := by decide +kernel
  have hnulled : Revised "scale" (some (.null none)) (.actor 1) text nulled :=
    ⟨_, n (scale (.null none)), hn, by decide +kernel, by decide +kernel⟩
  have hspoiled : Revised "scale" (some v) (.actor 1) text spoiled :=
    ⟨_, n (scale v), hn, by decide +kernel, by decide +kernel⟩
  have hshortened : Revised "scale" none (.actor 1) text shortened :=
    ⟨_, n (.close none), hn, by decide +kernel, by decide +kernel⟩
  have hmember : ("scale", .scale) ∈ Spot.lenientMembers (.actor 1) := by
    simp [Spot.lenientMembers, ActorDefinition.lenientMembers]
  have hrefused : Sense.accepts .scale j = false := rfl
  have hok : (ofText text).result.isOk = true := by decide +kernel
  cases hd : (ofText text).result with
  | error fault => simp [hd, Except.isOk, Except.toBool] at hok
  | ok d =>
      exact ⟨d, rfl, hmember, hnulled, hspoiled, rfl, hrefused, hshortened,
        malformed_null_absent_alike hd hmember hnulled hspoiled rfl hrefused hshortened⟩

end Definition

end Diorama
