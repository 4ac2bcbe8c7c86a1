import Diorama.Proofs.Document.Components
import Diorama.Proofs.Document.Rules
import Diorama.Proofs.Document.Source
import Diorama.Proofs.Playback.Timekeeping

namespace Diorama

variable {α β : Type}

namespace Node

-- What lenient readers make of a value.

theorem json_ok {n : Node} {j : Json} (h : n.json.result = .ok j) : n.value = .ok j := by
  rw [json] at h
  cases hvalue : n.value with
  | error m =>
      rw [hvalue] at h
      cases h
  | ok j' =>
      rw [hvalue] at h
      cases h
      rfl

theorem optionalNumber_isFinite {n : Node} {o : Option Float32}
    (h : n.optionalNumber.result = .ok o) : o.all Float32.isFinite = true := by
  rw [optionalNumber] at h
  obtain ⟨j, -, h⟩ := Reading.andThen_ok h
  split at h
  · cases h
    rfl
  · split at h
    · rename_i x hx
      cases h
      obtain ⟨y, -, hy⟩ := Option.bind_eq_some_iff.mp hx
      rw [finite?] at hy
      split at hy
      · cases hy
        assumption
      · cases hy
    · cases h
      rfl

theorem lenient_shape_ok {read : Json → Except ShapeFault β} (hnull : (read .null).toOption = none)
    {n : Node} {o : Option β} (h : (n.lenient fun j => .ofShape (read j)).result = .ok o) :
    ∃ j, n.value = .ok j ∧ o = (read j).toOption := by
  rw [lenient] at h
  obtain ⟨j, hj, h⟩ := Reading.andThen_ok h
  refine ⟨j, json_ok hj, ?_⟩
  split at h
  · cases h
    cases j with
    | null => exact hnull.symm
    | _ => rename_i hnot; cases hnot
  · cases hread : read j with
    | error fault =>
        simp only [hread, Reading.ofShape, Reading.fail] at h
        cases h
        rfl
    | ok a =>
        simp only [hread, Reading.ofShape, Reading.ok] at h
        cases h
        rfl

theorem optionalNumber_getD_isFinite {n : Node} {o : Option Float32}
    (h : n.optionalNumber.result = .ok o) {x : Float32} (hx : x.isFinite = true) :
    (o.getD x).isFinite = true := by
  have ho := optionalNumber_isFinite h
  cases o with
  | none => exact hx
  | some y => exact ho

end Node

-- A condition on single numbers that everything finite meets.
section

variable {p : Float32 → Bool} (hp : ∀ x : Float32, x.isFinite = true → p x = true)

include hp

theorem Vec3.passes_of_isFinite {v : Vec3} (hx : v.x.isFinite = true) (hy : v.y.isFinite = true)
    (hz : v.z.isFinite = true) (axes : List Axis) : v.passes p axes = true := by
  refine List.all_eq_true.mpr fun axis _ => hp _ ?_
  cases axis
  · exact hx
  · exact hy
  · exact hz

theorem Node.lenient_vector_passes {fill : Float32} (hfill : fill.isFinite = true)
    {n : Node} {o : Option Vec3}
    (h : (n.lenient fun j => .ofShape (Vec3.ofJson fill j)).result = .ok o) (axes : List Axis) :
    o.all (Vec3.passes p axes) = n.valueHolds (·.vectorPasses p axes fill) := by
  obtain ⟨j, hj, rfl⟩ := lenient_shape_ok rfl h
  rw [Json.vectorPasses_eq (hp fill hfill), valueHolds, hj]
  rfl

theorem Node.lenient_vector_getD_passes {fill : Float32} (hfill : fill.isFinite = true)
    {n : Node} {o : Option Vec3}
    (h : (n.lenient fun j => .ofShape (Vec3.ofJson fill j)).result = .ok o) {v : Vec3}
    (hv : v.passes p Axis.every = true) :
    (o.getD v).passes p Axis.every = n.valueHolds (·.vectorPasses p Axis.every fill) := by
  rw [← lenient_vector_passes hp hfill h]
  cases o with
  | none => exact hv
  | some w => rfl

theorem Node.points_passes {n : Node} {o : Option (List Vec3)} (h : n.points.result = .ok o) :
    (o.getD []).all (Vec3.passes p Axis.every) = n.valueHolds (·.pointsPass p) := by
  obtain ⟨j, hj, rfl⟩ := lenient_shape_ok rfl h
  have hpass := Json.pointsPass_eq hp j
  rw [valueHolds, hj]
  refine Eq.trans ?_ hpass
  cases Vec3.pointsOfJson j <;> rfl

end

variable {p : Float32 → Bool}

-- Every measure is finite, whatever was given for it. The components of vectors and the angles are
-- held to a condition of their own: with one that everything meets, what remains is about measures
-- only. The cases of the proofs are the members in the order in which `readField` has them.

namespace CameraDefinition

def numbersPass (p : Float32 → Bool) (c : CameraDefinition) : Bool :=
  c.fov.isFinite && c.position.passes p Axis.every && c.target.passes p Axis.every

-- The same for what comes from one member.
def memberPasses (p : Float32 → Bool) (name : String) (c : CameraDefinition) : Bool :=
  match name with
  | "position" => c.position.passes p Axis.every
  | "target" => c.target.passes p Axis.every
  | "fov" => c.fov.isFinite
  | _ => true

theorem forall_memberPasses_iff (c : CameraDefinition) :
    (∀ name, c.memberPasses p name = true) ↔ c.numbersPass p = true := by
  constructor
  · intro h
    simp only [numbersPass, Bool.and_eq_true]
    exact ⟨⟨h "fov", h "position"⟩, h "target"⟩
  · intro h name
    unfold memberPasses
    split <;> simp_all [numbersPass]

-- What a value for a member has to be.
def valuePasses (p : Float32 → Bool) (name : String) (n : Node) : Bool :=
  match name with
  | "position" | "target" => n.valueHolds (·.pointPasses p)
  | _ => true

theorem ruled (hp : ∀ x : Float32, x.isFinite = true → p x = true) :
    recordShape.Ruled (fun name c => c.memberPasses p name) (valuePasses p) where
  blank name := by
    unfold memberPasses
    split
    · exact Vec3.passes_of_isFinite hp rfl rfl rfl _
    · exact Vec3.passes_of_isFinite hp rfl rfl rfl _
    · rfl
    · rfl
  nodup := by decide
  field name hknown n c c' hread := by
    change (readField name n c).result = .ok c' at hread
    unfold readField at hread
    split at hread
    case h_5 => simp_all [RecordShape.isField_iff, recordShape]
    all_goals
      obtain ⟨found, hfound, rfl⟩ := Reading.bind_pure_ok hread
      refine ⟨?_, fun other hne => by
        unfold memberPasses
        split <;> first | rfl | exact absurd rfl hne⟩
    case h_1 | h_2 =>
      refine Node.lenient_vector_getD_passes hp rfl hfound ?_
      exact Vec3.passes_of_isFinite hp rfl rfl rfl _
    case h_3 => exact Node.optionalNumber_getD_isFinite hfound rfl
    case h_4 => rfl
  other name n c c' hread other := by
    rw [RecordShape.ignoreOther_ok name hread]

theorem read_passes (hp : ∀ x : Float32, x.isFinite = true → p x = true) (n : Node)
    (c : CameraDefinition) (h : (read n).result = .ok c) :
    c.numbersPass p = recordShape.holds (valuePasses p) n :=
  (ruled hp).read_eq forall_memberPasses_iff h

theorem readOptional_passes (hp : ∀ x : Float32, x.isFinite = true → p x = true) {n : Node}
    {camera : Option CameraDefinition} (h : (readOptional n).result = .ok camera) :
    camera.all (numbersPass p) = recordShape.holds (valuePasses p) n := by
  cases n with
  | null stop =>
      cases h
      rfl
  | _ =>
      obtain ⟨c, hc, h⟩ := Reading.andThen_ok h
      cases h
      exact read_passes hp _ c hc

end CameraDefinition

namespace Assignment

-- Every value that is assigned, by the property that it is assigned to.
def valuesPass (p : Float32 → Bool) : Node → Bool
  | .object _ members => members.holds fun name n =>
    (PropertyKey.parse? name).all fun key =>
      n.valueHolds (PropertyChange.valuePasses p key.property)
  | .array _ items => items.holds fun n =>
    (Parts.recordShape.read n).result.toOption.all fun parts =>
      PropertyChange.valuePasses p parts.property parts.value
  | _ => true

theorem valuesPass_of_forall (h : ∀ x, p x = true) (n : Node) : valuesPass p n = true := by
  cases n with
  | object start members =>
      refine Members.holds_of_forall (fun name n => ?_) members
      cases PropertyKey.parse? name with
      | none => rfl
      | some key => exact n.valueHolds_of_forall (PropertyChange.valuePasses_of_forall h _)
  | array start items =>
      refine Items.holds_of_forall (fun n => ?_) items
      cases (Parts.recordShape.read n).result with
      | error fault => rfl
      | ok parts => exact PropertyChange.valuePasses_of_forall h _ _
  | _ => rfl

theorem ofMembers_passes (hp : ∀ x : Float32, x.isFinite = true → p x = true) :
    ∀ (members : Members) {all : List Assignment}, (ofMembers members).result = .ok all →
      all.all (·.change.passes p) = members.holds fun name n =>
        (PropertyKey.parse? name).all fun key =>
          n.valueHolds (PropertyChange.valuePasses p key.property)
  | .close _, _, h => by
      cases h
      rfl
  | .broken _, _, h => by cases h
  | .member name behind n rest, all, h => by
      rw [ofMembers] at h
      obtain ⟨j, hj, h⟩ := Reading.andThen_ok h
      rw [Members.holds]
      split at h
      · rename_i key hkey
        obtain ⟨a, ha, h⟩ := Reading.andThen_ok h
        obtain ⟨others, hothers, h⟩ := Reading.andThen_ok h
        cases h
        rw [List.all_cons, ofMembers_passes hp rest hothers, hkey, ofValue_passes hp ha, Option.all,
          Node.valueHolds, Node.json_ok hj]
        rfl
      · rename_i hkey
        obtain ⟨_, -, h⟩ := Reading.andThen_ok h
        rw [ofMembers_passes hp rest h, hkey]
        rfl

theorem readAll_passes (hp : ∀ x : Float32, x.isFinite = true → p x = true) {n : Node}
    {all : List Assignment} (h : (readAll n).result = .ok all) :
    all.all (·.change.passes p) = valuesPass p n := by
  cases n with
  | null stop =>
      cases h
      rfl
  | object start members => exact ofMembers_passes hp members h
  | array start items =>
      refine Node.itemsOf_all (fun n a ha => ?_) items h
      obtain ⟨parts, hparts, ha⟩ := Reading.andThen_ok ha
      rw [hparts]
      exact ofValue_passes hp ha
  | _ => cases h

end Assignment

namespace TimelineEvent

def numbersPass (p : Float32 → Bool) (e : TimelineEvent) : Bool :=
  e.time.isFinite && e.duration.isFinite && e.properties.all (·.change.passes p)

def memberPasses (p : Float32 → Bool) (name : String) (e : TimelineEvent) : Bool :=
  match name with
  | "time" => e.time.isFinite
  | "duration" => e.duration.isFinite
  | "properties" => e.properties.all (·.change.passes p)
  | _ => true

theorem forall_memberPasses_iff (e : TimelineEvent) :
    (∀ name, e.memberPasses p name = true) ↔ e.numbersPass p = true := by
  constructor
  · intro h
    simp only [numbersPass, Bool.and_eq_true]
    exact ⟨⟨h "time", h "duration"⟩, h "properties"⟩
  · intro h name
    unfold memberPasses
    split <;> simp_all [numbersPass]

def valuePasses (p : Float32 → Bool) (name : String) (n : Node) : Bool :=
  match name with
  | "properties" => Assignment.valuesPass p n
  | _ => true

theorem ruled (hp : ∀ x : Float32, x.isFinite = true → p x = true) :
    recordShape.Ruled (fun name e => e.memberPasses p name) (valuePasses p) where
  blank name := by
    unfold memberPasses
    split <;> rfl
  nodup := by decide
  field name hknown n e e' hread := by
    change (readField name n e).result = .ok e' at hread
    unfold readField at hread
    split at hread
    case h_5 => simp_all [RecordShape.isField_iff, recordShape]
    all_goals
      obtain ⟨found, hfound, rfl⟩ := Reading.bind_pure_ok hread
      refine ⟨?_, fun other hne => by
        unfold memberPasses
        split <;> first | rfl | exact absurd rfl hne⟩
    case h_1 | h_2 => exact Node.optionalNumber_getD_isFinite hfound rfl
    case h_3 => rfl
    case h_4 => exact Assignment.readAll_passes hp hfound
  other name n e e' hread other := by
    rw [RecordShape.ignoreOther_ok name hread]

theorem read_passes (hp : ∀ x : Float32, x.isFinite = true → p x = true) (n : Node)
    (e : TimelineEvent) (h : (read n).result = .ok e) :
    e.numbersPass p = recordShape.holds (valuePasses p) n :=
  (ruled hp).read_eq forall_memberPasses_iff h

end TimelineEvent

namespace Annotation

def numbersPass (p : Float32 → Bool) (a : Annotation) : Bool :=
  a.time.isFinite && a.duration.isFinite && a.position.all fun v => p v.x && p v.y

def memberPasses (p : Float32 → Bool) (name : String) (a : Annotation) : Bool :=
  match name with
  | "time" => a.time.isFinite
  | "duration" => a.duration.isFinite
  | "position" => a.position.all fun v => p v.x && p v.y
  | _ => true

theorem forall_memberPasses_iff (a : Annotation) :
    (∀ name, a.memberPasses p name = true) ↔ a.numbersPass p = true := by
  constructor
  · intro h
    simp only [numbersPass, Bool.and_eq_true]
    exact ⟨⟨h "time", h "duration"⟩, h "position"⟩
  · intro h name
    unfold memberPasses
    split <;> simp_all [numbersPass]

-- What is given for the depth of an offset is read, but does not get into it.
def valuePasses (p : Float32 → Bool) (name : String) (n : Node) : Bool :=
  match name with
  | "position" => n.valueHolds (·.vectorPasses p Axis.plane 0)
  | _ => true

theorem ruled (hp : ∀ x : Float32, x.isFinite = true → p x = true) :
    recordShape.Ruled (fun name a => a.memberPasses p name) (valuePasses p) where
  blank name := by
    unfold memberPasses
    split <;> rfl
  nodup := by decide
  field name hknown n a a' hread := by
    change (readField name n a).result = .ok a' at hread
    unfold readField at hread
    split at hread
    case h_6 => simp_all [RecordShape.isField_iff, recordShape]
    all_goals
      obtain ⟨found, hfound, rfl⟩ := Reading.bind_pure_ok hread
      refine ⟨?_, fun other hne => by
        unfold memberPasses
        split <;> first | rfl | exact absurd rfl hne⟩
    case h_1 | h_5 => rfl
    case h_2 | h_3 => exact Node.optionalNumber_getD_isFinite hfound rfl
    case h_4 =>
      have hplane := Node.lenient_vector_passes hp rfl hfound Axis.plane
      refine Eq.trans ?_ hplane
      cases found with
      | none => rfl
      | some v => simp [memberPasses, Vec3.passes, Axis.plane, Vec3.along]
  other name n a a' hread other := by
    rw [RecordShape.ignoreOther_ok name hread]

theorem read_passes (hp : ∀ x : Float32, x.isFinite = true → p x = true) (n : Node)
    (a : Annotation) (h : (read n).result = .ok a) :
    a.numbersPass p = recordShape.holds (valuePasses p) n :=
  (ruled hp).read_eq forall_memberPasses_iff h

end Annotation

namespace ActorDefinition

def measures (d : ActorDefinition) : List (Option Float32) :=
  [d.radius, d.height, d.width, d.depth, d.count, d.fontSize, d.opacity]

def numbersPass (p : Float32 → Bool) (d : ActorDefinition) : Bool :=
  d.measures.all (·.all Float32.isFinite) && d.points.all (·.passes p Axis.every) &&
    d.position.passes p Axis.every && d.rotation.passes p Axis.every &&
    d.scale.passes p Axis.every

def memberPasses (p : Float32 → Bool) (name : String) (d : ActorDefinition) : Bool :=
  match name with
  | "radius" => d.radius.all Float32.isFinite
  | "height" => d.height.all Float32.isFinite
  | "width" => d.width.all Float32.isFinite
  | "depth" => d.depth.all Float32.isFinite
  | "count" => d.count.all Float32.isFinite
  | "font_size" => d.fontSize.all Float32.isFinite
  | "opacity" => d.opacity.all Float32.isFinite
  | "points" => d.points.all (·.passes p Axis.every)
  | "position" => d.position.passes p Axis.every
  | "rotation" => d.rotation.passes p Axis.every
  | "scale" => d.scale.passes p Axis.every
  | _ => true

theorem forall_memberPasses_iff (d : ActorDefinition) :
    (∀ name, d.memberPasses p name = true) ↔ d.numbersPass p = true := by
  constructor
  · intro h
    simp only [numbersPass, measures, List.all_cons, List.all_nil, Bool.and_eq_true, and_true]
    exact ⟨⟨⟨⟨⟨h "radius", h "height", h "width", h "depth", h "count", h "font_size",
      h "opacity"⟩, h "points"⟩, h "position"⟩, h "rotation"⟩, h "scale"⟩
  · intro h name
    unfold memberPasses
    split <;> simp_all [numbersPass, measures]

def valuePasses (p : Float32 → Bool) (name : String) (n : Node) : Bool :=
  match name with
  | "points" => n.valueHolds (·.pointsPass p)
  | "position" | "rotation" => n.valueHolds (·.pointPasses p)
  | "scale" => n.valueHolds (·.vectorPasses p Axis.every 1)
  | _ => true

theorem ruled (hp : ∀ x : Float32, x.isFinite = true → p x = true) :
    recordShape.Ruled (fun name d => d.memberPasses p name) (valuePasses p) where
  blank name := by
    unfold memberPasses
    split
    case h_9 | h_10 | h_11 => exact Vec3.passes_of_isFinite hp rfl rfl rfl _
    all_goals rfl
  nodup := by decide
  field name hknown n d d' hread := by
    change (readField name n d).result = .ok d' at hread
    unfold readField at hread
    split at hread
    case h_17 => simp_all [RecordShape.isField_iff, recordShape, fieldNames]
    all_goals
      obtain ⟨found, hfound, rfl⟩ := Reading.bind_pure_ok hread
      refine ⟨?_, fun other hne => by
        unfold memberPasses
        split <;> first | rfl | exact absurd rfl hne⟩
    case h_3 | h_4 | h_5 | h_6 | h_8 | h_10 | h_12 => exact Node.optionalNumber_isFinite hfound
    case h_7 => exact Node.points_passes hp hfound
    case h_14 | h_15 | h_16 =>
      refine Node.lenient_vector_getD_passes hp rfl hfound ?_
      exact Vec3.passes_of_isFinite hp rfl rfl rfl _
    all_goals rfl
  other name n d d' hread := by
    obtain ⟨_, -, h⟩ := Reading.andThen_ok hread
    cases h
    exact fun _ => rfl

theorem read_passes (hp : ∀ x : Float32, x.isFinite = true → p x = true) (n : Node)
    (d : ActorDefinition) (h : (read n).result = .ok d) :
    d.numbersPass p = recordShape.holds (valuePasses p) n :=
  (ruled hp).read_eq forall_memberPasses_iff h

end ActorDefinition

namespace Definition

def numbersPass (p : Float32 → Bool) (d : Definition) : Bool :=
  d.duration.isFinite && d.actors.all (·.numbersPass p) && d.camera.all (·.numbersPass p) &&
    d.timeline.all (·.numbersPass p) && d.annotations.all (·.numbersPass p)

def isFinite (d : Definition) : Bool := d.numbersPass Float32.isFinite

-- The same without vectors and angles.
def hasFiniteMeasures (d : Definition) : Bool := d.numbersPass fun _ => true

def memberPasses (p : Float32 → Bool) (name : String) (d : Definition) : Bool :=
  match name with
  | "duration" => d.duration.isFinite
  | "actors" => d.actors.all (·.numbersPass p)
  | "camera" => d.camera.all (·.numbersPass p)
  | "timeline" => d.timeline.all (·.numbersPass p)
  | "annotations" => d.annotations.all (·.numbersPass p)
  | _ => true

theorem forall_memberPasses_iff (d : Definition) :
    (∀ name, d.memberPasses p name = true) ↔ d.numbersPass p = true := by
  constructor
  · intro h
    simp only [numbersPass, Bool.and_eq_true]
    exact ⟨⟨⟨⟨h "duration", h "actors"⟩, h "camera"⟩, h "timeline"⟩, h "annotations"⟩
  · intro h name
    unfold memberPasses
    split <;> simp_all [numbersPass]

def valuePasses (p : Float32 → Bool) (name : String) (n : Node) : Bool :=
  match name with
  | "actors" => n.holdsEach (ActorDefinition.recordShape.holds (ActorDefinition.valuePasses p))
  | "camera" => CameraDefinition.recordShape.holds (CameraDefinition.valuePasses p) n
  | "timeline" => n.holdsEach (TimelineEvent.recordShape.holds (TimelineEvent.valuePasses p))
  | "annotations" => n.holdsEach <| Annotation.recordShape.holds <| Annotation.valuePasses p
  | _ => true

theorem ruled (hp : ∀ x : Float32, x.isFinite = true → p x = true) :
    recordShape.Ruled (fun name d => d.memberPasses p name) (valuePasses p) where
  blank name := by
    unfold memberPasses
    split <;> rfl
  nodup := by decide
  field name hknown n d d' hread := by
    change (readField name n d).result = .ok d' at hread
    unfold readField at hread
    split at hread
    case h_8 => simp_all [RecordShape.isField_iff, recordShape]
    all_goals
      obtain ⟨found, hfound, rfl⟩ := Reading.bind_pure_ok hread
      refine ⟨?_, fun other hne => by
        unfold memberPasses
        split <;> first | rfl | exact absurd rfl hne⟩
    case h_1 | h_3 => rfl
    case h_2 => exact Node.optionalNumber_getD_isFinite hfound rfl
    case h_4 => exact Node.list_all (ActorDefinition.read_passes hp) hfound
    case h_5 => exact CameraDefinition.readOptional_passes hp hfound
    case h_6 => exact Node.list_all (TimelineEvent.read_passes hp) hfound
    case h_7 =>
      refine Node.list_all ?_ hfound
      exact Annotation.read_passes hp
  other name n d d' hread other := by
    rw [RecordShape.ignoreOther_ok name hread]

-- What the values of a tree have to be for all numbers that are read from it to pass.
def valuesPass (p : Float32 → Bool) (n : Node) : Bool := recordShape.holds (valuePasses p) n

theorem read_passes (hp : ∀ x : Float32, x.isFinite = true → p x = true) {n : Node}
    {d : Definition} (h : (read n).result = .ok d) : d.numbersPass p = valuesPass p n :=
  (ruled hp).read_eq forall_memberPasses_iff h

theorem valuesPass_of_forall (h : ∀ x, p x = true) (n : Node) : valuesPass p n = true := by
  have hpoint : ∀ j : Json, j.pointPasses p = true := Json.vectorPasses_of_forall h Axis.every 0
  refine RecordShape.holds_of_forall (fun name n => ?_) n
  unfold valuePasses
  split
  · refine n.holdsEach_of_forall fun n => RecordShape.holds_of_forall (fun name n => ?_) n
    unfold ActorDefinition.valuePasses
    split
    · exact n.valueHolds_of_forall (Json.pointsPass_of_forall h)
    · exact n.valueHolds_of_forall hpoint
    · exact n.valueHolds_of_forall hpoint
    · exact n.valueHolds_of_forall (Json.vectorPasses_of_forall h Axis.every 1)
    · rfl
  · refine RecordShape.holds_of_forall (fun name n => ?_) n
    unfold CameraDefinition.valuePasses
    split
    · exact n.valueHolds_of_forall hpoint
    · exact n.valueHolds_of_forall hpoint
    · rfl
  · refine n.holdsEach_of_forall fun n => RecordShape.holds_of_forall (fun name n => ?_) n
    unfold TimelineEvent.valuePasses
    split
    · exact Assignment.valuesPass_of_forall h n
    · rfl
  · refine n.holdsEach_of_forall fun n => RecordShape.holds_of_forall (fun name n => ?_) n
    unfold Annotation.valuePasses
    split
    · exact n.valueHolds_of_forall (Json.vectorPasses_of_forall h Axis.plane 0)
    · rfl
  · rfl

theorem sanitized_numbersPass {d : Definition} (h : d.duration.isFinite = true) :
    d.sanitized.numbersPass p = d.numbersPass p := by
  rw [sanitized]
  split
  · rfl
  · have hdefault : defaultDuration.isFinite = true := rfl
    simp [numbersPass, h, hdefault]

-- All measures of a definition are finite, and it does not end before it starts. The numbers that
-- give vectors and angles are only rounded: with them, it is finite if none of them is too large.
theorem ofText_isFinite_iff {text : String} {n : Node} {d : Definition}
    (hd : (ofText text).result = .ok d) (hn : tree? text = some n) :
    d.hasFiniteMeasures = true ∧ ¬d.duration < 0 ∧
      (d.isFinite = true ↔ valuesPass Float32.isFinite n = true) := by
  obtain ⟨m, found, hm, hfound, rfl⟩ := ofText_ok_iff.mp hd
  obtain rfl := Option.some.inj (hn.symm.trans hm)
  have hmeasures : found.numbersPass (fun _ => true) = true :=
    (read_passes (fun _ _ => rfl) hfound).trans (valuesPass_of_forall (fun _ => rfl) n)
  have hduration : found.duration.isFinite = true :=
    (forall_memberPasses_iff found).mpr hmeasures "duration"
  refine ⟨(sanitized_numbersPass hduration).trans hmeasures, (ofText_bounded hd).2, ?_⟩
  rw [isFinite, sanitized_numbersPass hduration, read_passes (fun _ => id) hfound]

-- The depth of an annotation gets lost, and a count that is too large is none; but an angle may be
-- as large as it likes.
theorem huge_orbit_not_finite :
    let text := "\x7b\"actors\":[\x7b\"id\":\"a\",\"count\":1e39\x7d]," ++
      "\"annotations\":[\x7b\"text\":\"\",\"position\":[0,0,1e39]\x7d]," ++
      "\"timeline\":[\x7b\"properties\":\x7b\"a_orbit\":1e39\x7d\x7d]\x7d"
    ∃ n d, (ofText text).result = .ok d ∧ tree? text = some n ∧
      d.hasFiniteMeasures = true ∧ ¬d.duration < 0 ∧
      (d.isFinite = true ↔ valuesPass Float32.isFinite n = true) ∧
      valuesPass Float32.isFinite n = false := by
  intro text
  have hok : (ofText text).result.isOk = true := by decide +kernel
  have htree : (tree? text).any (!valuesPass Float32.isFinite ·) = true := by decide +kernel
  cases hd : (ofText text).result with
  | error fault => simp [hd, Except.isOk, Except.toBool] at hok
  | ok d =>
      cases hn : tree? text with
      | none => simp [hn] at htree
      | some n =>
          obtain ⟨hmeasures, hduration, hiff⟩ := ofText_isFinite_iff hd hn
          exact ⟨n, d, rfl, rfl, hmeasures, hduration, hiff, by simpa [hn] using htree⟩

-- A camera that is infinitely far away.
theorem infinite_camera_loads :
    ¬∀ text d, (ofText text).result = .ok d → d.isFinite = true ∧ ¬d.duration < 0 := by
  intro h
  have hfar : (ofText "\x7b\"camera\":\x7b\"position\":1e300\x7d\x7d").result.toOption.any
    (!isFinite ·) = true := by decide +kernel
  cases hd : (ofText "\x7b\"camera\":\x7b\"position\":1e300\x7d\x7d").result with
  | error fault => simp [hd, Except.toOption] at hfar
  | ok d =>
      have hfinite := (h _ d hd).1
      simp [hd, Except.toOption, hfinite] at hfar

end Definition

end Diorama
