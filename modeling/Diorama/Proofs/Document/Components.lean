import Diorama.Proofs.Document.Success

namespace Diorama

variable {α β : Type}

-- The numbers that a value gives for the components of a vector.

inductive Axis where
  | x
  | y
  | z

namespace Axis

def index : Axis → Nat
  | .x => 0
  | .y => 1
  | .z => 2

def name : Axis → String
  | .x => "x"
  | .y => "y"
  | .z => "z"

def every : List Axis := [.x, .y, .z]

-- An annotation has no place in depth.
def plane : List Axis := [.x, .y]

end Axis

def Vec3.along : Axis → Vec3 → Float32
  | .x, v => v.x
  | .y, v => v.y
  | .z, v => v.z

namespace Json

def number? : Json → Option Number
  | .number n => some n
  | _ => none

-- Of a name that is repeated the last value counts.
def component? (axis : Axis) : Json → Option Number
  | .number n => some n
  | .array items => items[axis.index]?.bind number?
  | .object members =>
    members.reverse.findSome? fun (name, j) => if name = axis.name then j.number? else none
  | _ => none

theorem single_ok {j : Json} {c : Float32} (h : j.single = .ok c) :
    ∃ n, j = .number n ∧ c = n.toSingle := by
  cases j with
  | number n => exact ⟨n, rfl, (Except.ok.inj h).symm⟩
  | _ => cases h

end Json

namespace Vec3

theorem along_ofItems (axis : Axis) {items : List Json} {index : Nat} {v w : Vec3}
    (h : ofItems index v items = .ok w) :
    w.along axis = if axis.index < index then v.along axis
      else (items[axis.index - index]?.bind Json.number?).elim (v.along axis)
        Json.Number.toSingle := by
  induction items generalizing index v with
  | nil =>
      cases h
      simp
  | cons j rest ih =>
      rw [ofItems] at h
      cases hj : j.single with
      | error fault => simp [hj] at h
      | ok c =>
          obtain ⟨n, rfl, rfl⟩ := Json.single_ok hj
          simp only [hj] at h
          rw [ih h]
          -- beyond the third item nothing is replaced any more
          cases axis <;> rcases index with _ | _ | _ | index <;>
            simp [Axis.index, along, Json.number?]

theorem along_ofMembers (axis : Axis) {members : List (String × Json)} {v w : Vec3}
    (h : ofMembers v members = .ok w) :
    w.along axis = ((Json.object members).component? axis).elim (v.along axis)
      Json.Number.toSingle := by
  simp only [Json.component?]
  induction members generalizing v with
  | nil =>
      cases h
      rfl
  | cons head rest ih =>
      obtain ⟨name, j⟩ := head
      rw [List.reverse_cons, List.findSome?_append]
      rw [ofMembers] at h
      by_cases hname : name = "x" ∨ name = "y" ∨ name = "z"
      · rw [if_pos hname] at h
        cases hj : j.single with
        | error fault => simp [hj] at h
        | ok c =>
            obtain ⟨n, rfl, rfl⟩ := Json.single_ok hj
            simp only [hj] at h
            rw [ih h]
            -- a later member of the name has the last word
            cases rest.reverse.findSome? _ with
            | some m => rfl
            | none => cases axis <;> rcases hname with rfl | rfl | rfl <;> rfl
      · rw [if_neg hname] at h
        have hne : name ≠ axis.name := by
          rintro rfl
          cases axis <;> simp [Axis.name] at hname
        rw [ih h]
        simp [hne]

-- What a vector is made of: the number that is given for each axis, or else the fill.
theorem along_ofJson (axis : Axis) {fill : Float32} {j : Json} {v : Vec3}
    (h : ofJson fill j = .ok v) :
    v.along axis = (j.component? axis).elim fill Json.Number.toSingle := by
  have hfill : (splat fill).along axis = fill := by cases axis <;> rfl
  cases j with
  | number n =>
      cases h
      cases axis <;> rfl
  | array items =>
      rw [along_ofItems axis h, if_neg (Nat.not_lt_zero _), hfill]
      rfl
  | object members => rw [along_ofMembers axis h, hfill]
  | _ => cases h

end Vec3

-- A condition on single numbers, asked of the components of vectors and of angles. What is finite
-- has to pass, and so do all defaults.
variable {p : Float32 → Bool} (hp : ∀ x : Float32, x.isFinite = true → p x = true)

def Vec3.passes (p : Float32 → Bool) (axes : List Axis) (v : Vec3) : Bool :=
  axes.all fun axis => p (v.along axis)

namespace Json

-- Whether the numbers that a value gives for a vector pass. A value that is no vector gives none.
def vectorPasses (p : Float32 → Bool) (axes : List Axis) (fill : Float32) (j : Json) : Bool :=
  !(Vec3.ofJson fill j).isOk || axes.all fun axis => (j.component? axis).all (p ·.toSingle)

def pointPasses (p : Float32 → Bool) (j : Json) : Bool := j.vectorPasses p Axis.every 0

def pointsPass (p : Float32 → Bool) (j : Json) : Bool :=
  !(Vec3.pointsOfJson j).isOk || j.listOf (pointPasses p)

theorem vectorPasses_eq {fill : Float32} (hfill : p fill = true) (axes : List Axis) (j : Json) :
    ((Vec3.ofJson fill j).toOption.all (Vec3.passes p axes)) = j.vectorPasses p axes fill := by
  cases hread : Vec3.ofJson fill j with
  | error fault => simp [vectorPasses, hread, Except.isOk, Except.toBool, Except.toOption]
  | ok v =>
      have hgiven : ∀ axis, p (v.along axis) = (j.component? axis).all (p ·.toSingle) := by
        intro axis
        rw [Vec3.along_ofJson axis hread]
        cases j.component? axis with
        | none => exact hfill
        | some n => rfl
      simp [vectorPasses, hread, Except.isOk, Except.toBool, Except.toOption, Vec3.passes, hgiven]

theorem vectorPasses_of_forall (h : ∀ x, p x = true) (axes : List Axis) (fill : Float32)
    (j : Json) : j.vectorPasses p axes fill = true := by
  simp [vectorPasses, h]

theorem pointsPass_of_forall (h : ∀ x, p x = true) (j : Json) : j.pointsPass p = true := by
  have hpoint : ∀ j : Json, j.pointPasses p = true := vectorPasses_of_forall h Axis.every 0
  cases j with
  | array items => simp [pointsPass, listOf, hpoint]
  | _ => rfl

include hp in
theorem pointsPass_eq (j : Json) :
    ((Vec3.pointsOfJson j).toOption.all (·.all (Vec3.passes p Axis.every))) = j.pointsPass p := by
  have hitems : ∀ {items : List Json} {vs}, Vec3.pointsOfItems items = .ok vs →
      vs.all (Vec3.passes p Axis.every) = items.all (pointPasses p) := by
    intro items
    induction items with
    | nil =>
        intro vs h
        cases h
        rfl
    | cons j rest ih =>
        intro vs h
        rw [Vec3.pointsOfItems] at h
        have hj := vectorPasses_eq (hp 0 rfl) Axis.every j
        cases hread : Vec3.pointOfJson j with
        | error fault => simp [hread] at h
        | ok v =>
            cases hrest : Vec3.pointsOfItems rest with
            | error fault => simp [hread, hrest, Except.map] at h
            | ok others =>
                simp only [hread, hrest, Except.map, Except.ok.injEq] at h
                subst h
                rw [show Vec3.ofJson 0 j = .ok v from hread] at hj
                rw [List.all_cons, List.all_cons, ih hrest, pointPasses, ← hj]
                rfl
  cases hread : Vec3.pointsOfJson j with
  | error fault => simp [pointsPass, hread, Except.isOk, Except.toBool, Except.toOption]
  | ok vs =>
      cases j with
      | array items =>
          simp [pointsPass, hread, Except.isOk, Except.toBool, Except.toOption, listOf,
            hitems hread]
      | _ => cases hread

end Json

namespace PropertyChange

def passes (p : Float32 → Bool) : PropertyChange → Bool
  | .orbit degrees => p degrees
  | .rotation degrees => p degrees
  | .position target => target.passes p Axis.every
  | .ignored => true

-- Angles come by way of a double, components do not.
def valuePasses (p : Float32 → Bool) (property : String) (j : Json) : Bool :=
  if property = "orbit" ∨ property = "rotation" then
    j.number?.all fun n => p (narrow n.toDouble)
  else if property = "position" then j.pointPasses p
  else true

theorem valuePasses_of_forall (h : ∀ x, p x = true) (property : String) (j : Json) :
    valuePasses p property j = true := by
  have hpoint : j.pointPasses p = true := Json.vectorPasses_of_forall h Axis.every 0 j
  simp [valuePasses, h, hpoint]

theorem degrees?_passes (j : Json) :
    (degrees? j).all p = j.number?.all fun n => p (narrow n.toDouble) := by
  cases j <;> rfl

include hp in
theorem ofValue?_passes (property : String) (j : Json) :
    (ofValue? property j).all (passes p) = valuePasses p property j := by
  rw [ofValue?, valuePasses]
  by_cases horbit : property = "orbit"
  · rw [if_pos horbit, if_pos (.inl horbit), Option.all_map, ← degrees?_passes]
    rfl
  · rw [if_neg horbit]
    by_cases hrotation : property = "rotation"
    · rw [if_pos hrotation, if_pos (.inr hrotation), Option.all_map, ← degrees?_passes]
      rfl
    · rw [if_neg hrotation, if_neg (not_or.mpr ⟨horbit, hrotation⟩)]
      split
      · rw [Option.all_map]
        exact Json.vectorPasses_eq (hp 0 rfl) Axis.every j
      · rfl

end PropertyChange

include hp in
theorem Assignment.ofValue_passes {key : PropertyKey} {j : Json} {a : Assignment}
    (h : (ofValue key j).result = .ok a) :
    a.change.passes p = PropertyChange.valuePasses p key.property j := by
  have hvalue := PropertyChange.ofValue?_passes hp key.property j
  rw [ofValue] at h
  split at h
  · cases hchange : PropertyChange.ofValue? key.property j <;> rw [hchange] at h hvalue <;> cases h
    all_goals exact hvalue
  · rename_i hunsupported
    simp only [PropertyChange.isSupported, Bool.or_eq_true, beq_iff_eq] at hunsupported
    cases h
    simp_all [PropertyChange.valuePasses, PropertyChange.passes]

end Diorama
