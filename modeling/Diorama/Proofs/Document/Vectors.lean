import Diorama.Proofs.Document.Finiteness
import Diorama.Proofs.Document.Spelling

namespace Diorama

-- Where no name is repeated, it does not matter from which end a member is looked for.
theorem findSome?_reverse {α β : Type} {entries : List (String × α)}
    (h : (entries.map (·.1)).Nodup) (name : String) (f : α → Option β) :
    (entries.reverse.findSome? fun (key, a) => if key = name then f a else none) =
      (entries.lookup name).bind f := by
  induction entries with
  | nil => rfl
  | cons head rest ih =>
      obtain ⟨key, a⟩ := head
      obtain ⟨hfree, hrest⟩ := List.nodup_cons.mp h
      rw [List.reverse_cons, List.findSome?_append, ih hrest, Table.lookup_cons_eq]
      by_cases hkey : name = key
      · subst hkey
        have hlookup : rest.lookup name = none := by
          rw [Option.eq_none_iff_forall_ne_some]
          intro b hb
          exact hfree (List.mem_map.mpr ⟨_, (lookup_eq_some_iff hrest).mp hb, rfl⟩)
        simp [hlookup]
      · simp [hkey, Ne.symm hkey]

namespace Json

def isNumber : Json → Bool
  | .number _ => true
  | _ => false

-- The values that are vectors: a number, an array of numbers, or an object where nothing but
-- numbers stands under the names of the axes.
def isVector : Json → Bool
  | .number _ => true
  | .array items => items.all isNumber
  | .object members => Axis.every.all fun axis => (member? axis.name members).all isNumber
  | _ => false

-- The number that a vector has along an axis, if it has one.
def given? (axis : Axis) : Json → Option Number
  | .number n => some n
  | .array items => items[axis.index]?.bind number?
  | .object members => (member? axis.name members).bind number?
  | _ => none

def component (fill : Float32) (j : Json) (axis : Axis) : Float32 :=
  (j.given? axis).elim fill Number.toSingle

def vector (fill : Float32) (j : Json) : Vec3 :=
  ⟨j.component fill .x, j.component fill .y, j.component fill .z⟩

-- A vector is read in full or not at all.

def vector? (fill : Float32) (j : Json) : Option Vec3 :=
  if j.isVector then some (j.vector fill) else none

def points? : Json → Option (List Vec3)
  | .array items => if items.all isVector then some (items.map (vector 0)) else none
  | _ => none

theorem single_isOk (j : Json) : j.single.isOk = j.isNumber := by
  cases j <;> rfl

theorem component?_eq_given? {j : Json} (h : j.node.distinct = true) (axis : Axis) :
    j.component? axis = j.given? axis := by
  cases j with
  | object members => exact findSome?_reverse (names_nodup h) axis.name number?
  | _ => rfl

end Json

namespace Vec3

theorem eq_of_along {v w : Vec3} (h : ∀ axis, v.along axis = w.along axis) : v = w := by
  have hx := h .x
  have hy := h .y
  have hz := h .z
  simp only [along] at hx hy hz
  cases v
  cases w
  simp_all

theorem ofItems_isOk (index : Nat) (v : Vec3) (items : List Json) :
    (ofItems index v items).isOk = items.all Json.isNumber := by
  induction items generalizing index v with
  | nil => rfl
  | cons j rest ih =>
      rw [ofItems, List.all_cons, ← j.single_isOk]
      cases j.single with
      | error fault => rfl
      | ok c => exact ih _ _

theorem ofMembers_isOk (v : Vec3) (members : List (String × Json)) :
    (ofMembers v members).isOk = members.all fun member =>
      (Axis.every.all fun axis => member.1 != axis.name) || member.2.isNumber := by
  induction members generalizing v with
  | nil => rfl
  | cons member rest ih =>
      obtain ⟨name, j⟩ := member
      rw [ofMembers, List.all_cons]
      by_cases hname : name = "x" ∨ name = "y" ∨ name = "z"
      · have hall : (Axis.every.all fun axis => name != axis.name) = false := by
          rcases hname with rfl | rfl | rfl <;> rfl
        rw [if_pos hname, hall, Bool.false_or, ← j.single_isOk]
        cases j.single with
        | error fault => rfl
        | ok c => exact ih _
      · have hall : (Axis.every.all fun axis => name != axis.name) = true := by
          simpa [Axis.every, Axis.name] using hname
        rw [if_neg hname, hall, Bool.true_or, Bool.true_and]
        exact ih v

theorem ofJson_isOk {j : Json} (h : j.node.distinct = true) (fill : Float32) :
    (ofJson fill j).isOk = j.isVector := by
  cases j with
  | array items => exact ofItems_isOk 0 (splat fill) items
  | object members =>
      rw [ofJson, ofMembers_isOk, Bool.eq_iff_iff]
      simp only [Json.isVector, List.all_eq_true, Option.all_eq_true, Json.member?,
        lookup_eq_some_iff (Json.names_nodup h), Bool.or_eq_true, bne_iff_ne]
      constructor
      · intro hall axis haxis j hmem
        exact (hall _ hmem).resolve_left fun hnone => hnone axis haxis rfl
      · intro hall member hmem
        by_cases hname : ∃ axis ∈ Axis.every, member.1 = axis.name
        · obtain ⟨axis, haxis, hname⟩ := hname
          exact .inr (hall axis haxis member.2 (hname ▸ hmem))
        · exact .inl fun axis haxis heq => hname ⟨axis, haxis, heq⟩
  | _ => rfl

theorem ofJson_toOption {j : Json} (h : j.node.distinct = true) (fill : Float32) :
    (ofJson fill j).toOption = j.vector? fill := by
  have hok := ofJson_isOk h fill
  cases hread : ofJson fill j with
  | error fault =>
      rw [hread] at hok
      simp [Json.vector?, ← hok, Except.isOk, Except.toBool, Except.toOption]
  | ok v =>
      rw [hread] at hok
      have hv : v = j.vector fill := eq_of_along fun axis => by
        rw [along_ofJson axis hread, Json.component?_eq_given? h]
        cases axis <;> rfl
      simp [Json.vector?, ← hok, Except.isOk, Except.toBool, Except.toOption, hv]

-- A fourth item does not count, but it spoils the vector if it is no number.
example : (Json.array [.number (.integer 1), .number (.integer 2), .number (.integer 3),
    .null]).vector? 0 = none := rfl

theorem pointsOfItems_toOption {items : List Json}
    (h : ∀ j ∈ items, j.node.distinct = true) :
    (pointsOfItems items).toOption = (Json.array items).points? := by
  induction items with
  | nil => rfl
  | cons j rest ih =>
      obtain ⟨hj, hrest⟩ := List.forall_mem_cons.mp h
      have hpoint : (pointOfJson j).toOption = j.vector? 0 := ofJson_toOption hj 0
      rw [Json.vector?] at hpoint
      cases hread : pointOfJson j with
      | error fault =>
          have hnot : j.isVector = false := by
            simpa [hread, Except.toOption] using hpoint.symm
          simp [pointsOfItems, hread, Json.points?, hnot, Except.toOption]
      | ok v =>
          obtain ⟨hvector, rfl⟩ : j.isVector = true ∧ j.vector 0 = v := by
            simpa [hread, Except.toOption] using hpoint.symm
          have hcons : (pointsOfItems (j :: rest)).toOption =
              (pointsOfItems rest).toOption.map (j.vector 0 :: ·) := by
            rw [pointsOfItems, hread]
            cases pointsOfItems rest <;> rfl
          rw [hcons, ih hrest]
          simp only [Json.points?, List.all_cons, hvector, Bool.true_and, List.map_cons]
          split <;> rfl

theorem pointsOfJson_toOption {j : Json} (h : j.node.distinct = true) :
    (pointsOfJson j).toOption = j.points? := by
  cases j with
  | array items => exact pointsOfItems_toOption fun j hmem => Json.distinct_of_mem_items h hmem
  | _ => rfl

end Vec3

-- How a vector is written, and which components are given that way. Further items and further
-- members do not matter, nor does the order of the members.
inductive Json.Spells : Option Number → Option Number → Option Number → Json → Prop where
  | number (n : Number) : Spells (some n) (some n) (some n) (.number n)
  | array (ns : List Number) : Spells ns[0]? ns[1]? ns[2]? (.array (ns.map .number))
  | object {x y z : Option Number} {members : List (String × Json)}
      (hx : member? "x" members = x.map .number) (hy : member? "y" members = y.map .number)
      (hz : member? "z" members = z.map .number) : Spells x y z (.object members)

theorem Json.Spells.vector?_eq {x y z : Option Number} {j : Json} (h : j.Spells x y z)
    (fill : Float32) : j.vector? fill = some ⟨x.elim fill Number.toSingle,
      y.elim fill Number.toSingle, z.elim fill Number.toSingle⟩ := by
  have hread : ∀ n : Option Number, (n.map Json.number).bind number? = n := by
    rintro (_ | n) <;> rfl
  cases h with
  | number => rfl
  | array ns =>
      have hvector : (Json.array (ns.map .number)).isVector = true := by
        simp [isVector, isNumber]
      simp only [vector?, hvector, vector, component, given?, Axis.index, List.getElem?_map, hread]
      rfl
  | object hx hy hz =>
      have hnumber : ∀ n : Option Number, (n.map Json.number).all isNumber = true := by
        rintro (_ | n) <;> rfl
      simp [vector?, isVector, vector, component, given?, Axis.every, Axis.name, hx, hy, hz,
        hread, hnumber]

namespace Node

theorem lenient_shape_result {β : Type} {read : Json → Except ShapeFault β}
    (hnull : (read .null).toOption = none) {n : Node} {j : Json} (h : n.value = .ok j) :
    (n.lenient fun j => .ofShape (read j)).result = .ok (read j).toOption := by
  obtain ⟨o, ho⟩ := exists_lenient_result (fun j => .ofShape (read j)) h
  obtain ⟨j', hj', rfl⟩ := lenient_shape_ok hnull ho
  obtain rfl := Except.ok.inj (hj'.symm.trans h)
  exact ho

variable {n : Node} {j : Json} (h : n.value = .ok j) (hdistinct : j.node.distinct = true)

include h hdistinct

theorem point_result : n.point.result = .ok (j.vector? 0) := by
  rw [← Vec3.ofJson_toOption hdistinct]
  exact lenient_shape_result rfl h

theorem scale_result : n.scale.result = .ok (j.vector? 1) := by
  rw [← Vec3.ofJson_toOption hdistinct]
  exact lenient_shape_result rfl h

theorem points_result : n.points.result = .ok j.points? := by
  rw [← Vec3.pointsOfJson_toOption hdistinct]
  exact lenient_shape_result rfl h

end Node

-- What becomes of a value wherever a vector is read: the vector as a whole, or else the default as
-- a whole.
structure Node.GivesVectors (n : Node) (j : Json) : Prop where
  actorPosition (d : ActorDefinition) : (d.readField "position" n).result =
    .ok { d with position := (j.vector? 0).getD Vec3.zero }
  actorRotation (d : ActorDefinition) : (d.readField "rotation" n).result =
    .ok { d with rotation := (j.vector? 0).getD Vec3.zero }
  actorScale (d : ActorDefinition) : (d.readField "scale" n).result =
    .ok { d with scale := (j.vector? 1).getD Vec3.one }
  actorPoints (d : ActorDefinition) : (d.readField "points" n).result =
    .ok { d with points := j.points?.getD [] }
  cameraPosition (c : CameraDefinition) : (c.readField "position" n).result =
    .ok { c with position := (j.vector? 0).getD ⟨0, 0, 10⟩ }
  cameraTarget (c : CameraDefinition) : (c.readField "target" n).result =
    .ok { c with target := (j.vector? 0).getD Vec3.zero }
  annotationPosition (a : Annotation) : (a.readField "position" n).result =
    .ok { a with position := (j.vector? 0).map fun v => ⟨v.x, v.y⟩ }
  assignment (actor : String) : (Assignment.ofValue ⟨actor, "position"⟩ j).result =
    .ok ⟨⟨actor, "position"⟩, ((j.vector? 0).map .position).getD .ignored⟩

theorem Node.givesVectors {n : Node} {j : Json} (h : n.value = .ok j)
    (hdistinct : j.node.distinct = true) : n.GivesVectors j where
  actorPosition d := Reading.bind_pure_of_ok (point_result h hdistinct) _
  actorRotation d := Reading.bind_pure_of_ok (point_result h hdistinct) _
  actorScale d := Reading.bind_pure_of_ok (scale_result h hdistinct) _
  actorPoints d := Reading.bind_pure_of_ok (points_result h hdistinct) _
  cameraPosition c := Reading.bind_pure_of_ok (point_result h hdistinct) _
  cameraTarget c := Reading.bind_pure_of_ok (point_result h hdistinct) _
  annotationPosition a := Reading.bind_pure_of_ok (point_result h hdistinct) _
  assignment actor := by
    rw [Assignment.ofValue_result, Assignment.ofKey, ← Vec3.ofJson_toOption hdistinct]
    rfl

-- Exactly the vectors are accepted, in a list of points as well as alone. However a vector is
-- written, it reads the same, and whatever is none leaves all the defaults as they are.
theorem Vec3.vectors_read_whole (j : Json) (h : j.node.distinct = true) :
    ((pointOfJson j).toOption = j.vector? 0 ∧ (scaleOfJson j).toOption = j.vector? 1 ∧
        (pointsOfJson j).toOption = j.points?) ∧
      (∀ fill x y z, j.Spells x y z → (ofJson fill j).toOption =
        some ⟨x.elim fill Json.Number.toSingle, y.elim fill Json.Number.toSingle,
          z.elim fill Json.Number.toSingle⟩) ∧
      ∀ n : Node, n.value = .ok j → n.GivesVectors j := by
  refine ⟨⟨ofJson_toOption h 0, ofJson_toOption h 1, pointsOfJson_toOption h⟩, ?_, ?_⟩
  · intro fill x y z hspells
    rw [ofJson_toOption h, hspells.vector?_eq]
  · exact fun n hn => Node.givesVectors hn h

theorem Vec3.unordered_members_read :
    let j : Json := .object [("z", .number (.integer 3)), ("note", .null),
      ("x", .number (.integer 1))]
    j.node.distinct = true ∧ j.node.value = .ok j ∧
      (pointOfJson j).toOption = some ⟨1, 0, 3⟩ ∧ (scaleOfJson j).toOption = some ⟨1, 1, 3⟩ ∧
      (ActorDefinition.readField "points" j.node {}).result = .ok {} := by
  intro j
  have hdistinct : j.node.distinct = true := by decide
  have hvalue : j.node.value = .ok j := rfl
  obtain ⟨⟨hpoint, hscale, -⟩, -, hfields⟩ := vectors_read_whole j hdistinct
  exact ⟨hdistinct, hvalue, hpoint.trans (by decide), hscale.trans (by decide),
    (hfields j.node hvalue).actorPoints {}⟩

end Diorama
