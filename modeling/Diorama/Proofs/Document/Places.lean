import Diorama.Animation.Definition
import Diorama.Proofs.Json.Bare

namespace Diorama

variable {α β : Type}

namespace Reading

-- Two readings that remark on the same things and come to the same, or both to nothing. They may
-- complain about different places.
structure Agree (r r' : Reading α) : Prop where
  notices : r.notices = r'.notices
  result : r.result.toOption = r'.result.toOption

theorem Agree.refl (r : Reading α) : r.Agree r := ⟨rfl, rfl⟩

theorem Agree.of_eq {r r' : Reading α} (h : r = r') : r.Agree r' := h ▸ .refl r

theorem agree_fail (fault fault' : DocumentFault) :
    (fail fault : Reading α).Agree (fail fault') := ⟨rfl, rfl⟩

theorem Agree.isOk_eq {r r' : Reading α} (h : r.Agree r') : r.result.isOk = r'.result.isOk := by
  obtain ⟨notices, result⟩ := r
  obtain ⟨notices', result'⟩ := r'
  have hresult := h.result
  cases result <;> cases result' <;> first | rfl | cases hresult

theorem Agree.andThen {r r' : Reading α} {f f' : α → Reading β} (h : r.Agree r')
    (hf : ∀ a, (f a).Agree (f' a)) : (r.andThen f).Agree (r'.andThen f') := by
  obtain ⟨notices, result⟩ := r
  obtain ⟨notices', result'⟩ := r'
  obtain ⟨hnotices, hresult⟩ := h
  subst hnotices
  cases result with
  | error fault =>
      cases result' with
      | error fault' => exact ⟨rfl, rfl⟩
      | ok a' => cases hresult
  | ok a =>
      cases result' with
      | error fault' => cases hresult
      | ok a' =>
          obtain rfl : a = a' := Option.some.inj hresult
          exact ⟨congrArg (notices ++ ·) (hf a).notices, (hf a).result⟩

end Reading

open Reading (Agree)

-- Reading in a way that does not depend on places, but for what it complains about.
def PlaceFree (read : Node → Reading α) : Prop := ∀ n, (read n).Agree (read n.bare)

theorem PlaceFree.bind {read : Node → Reading α} (h : PlaceFree read) (f : α → Reading β)
    (n : Node) : (read n >>= f).Agree (read n.bare >>= f) := (h n).andThen fun a => .refl (f a)

namespace Node

theorem wrongType_agree (expected : String) (n n' : Node) :
    (n.wrongType expected : Reading α).Agree (n'.wrongType expected) := by
  have hfails : ∀ n : Node, ∃ fault, (n.wrongType expected : Reading α) = .fail fault := by
    intro n
    cases n <;> exact ⟨_, rfl⟩
  obtain ⟨fault, hfault⟩ := hfails n
  obtain ⟨fault', hfault'⟩ := hfails n'
  rw [hfault, hfault']
  exact Reading.agree_fail fault fault'

-- What is read off the value is the same.

@[simp] theorem json_bare (n : Node) : n.bare.json = n.json := by rw [json, json, value_bare]

@[simp] theorem lenient_bare (read : Json → Reading α) (n : Node) :
    n.bare.lenient read = n.lenient read := by rw [lenient, lenient, json_bare]

@[simp] theorem optionalNumber_bare (n : Node) : n.bare.optionalNumber = n.optionalNumber := by
  rw [optionalNumber, optionalNumber, json_bare]

@[simp] theorem optionalText_bare (n : Node) : n.bare.optionalText = n.optionalText :=
  lenient_bare _ n

@[simp] theorem optionalBool_bare (n : Node) : n.bare.optionalBool = n.optionalBool :=
  lenient_bare _ n

@[simp] theorem point_bare (n : Node) : n.bare.point = n.point := lenient_bare _ n

@[simp] theorem scale_bare (n : Node) : n.bare.scale = n.scale := lenient_bare _ n

@[simp] theorem points_bare (n : Node) : n.bare.points = n.points := lenient_bare _ n

@[simp] theorem color_bare (n : Node) : n.bare.color = n.color := lenient_bare _ n

@[simp] theorem easing_bare (n : Node) : n.bare.easing = n.easing := lenient_bare _ n

theorem text_placeFree : PlaceFree text := by
  intro n
  cases n with
  | string s stop => exact .refl _
  | _ =>
      simp only [text, bare]
      exact wrongType_agree _ _ _

theorem ignore_placeFree : PlaceFree ignore := by
  intro n
  cases n <;> exact .refl _

theorem itemsOf_agree {read : Node → Reading α} (h : PlaceFree read) (items : Items) :
    (itemsOf read items).Agree (itemsOf read items.bare) := by
  fun_induction itemsOf read items with
  | case1 stop => exact .refl _
  | case2 m => exact .refl _
  | case3 start n rest ih =>
      exact (h n).andThen fun a => ih.andThen fun l => .refl (.ok (a :: l))

theorem list_placeFree {read : Node → Reading α} (h : PlaceFree read) : PlaceFree (list read) := by
  intro n
  cases n with
  | null stop => exact .refl _
  | array start items => exact itemsOf_agree h items
  | _ =>
      simp only [list, bare]
      exact wrongType_agree _ _ _

end Node

namespace RecordShape

variable {shape : RecordShape α}

theorem readMembers_agree (hfield : ∀ name found, PlaceFree (shape.field name · found))
    (hother : ∀ name found, PlaceFree (shape.other name · found)) :
    ∀ (members : Members) (seen : List String) (found : α),
      (shape.readMembers seen found members).Agree (shape.readMembers seen found members.bare)
  | .close _, seen, found => by
      simp only [readMembers, Members.bare]
      cases shape.absent? seen with
      | none => exact .refl _
      | some name => exact Reading.agree_fail _ _
  | .broken _, _, _ => .refl _
  | .member name behind n rest, seen, found => by
      simp only [readMembers, Members.bare]
      split
      · split
        · exact Reading.agree_fail _ _
        · exact (hfield name found n).andThen fun found =>
            readMembers_agree hfield hother rest (name :: seen) found
      · exact (hother name found n).andThen fun found =>
          readMembers_agree hfield hother rest seen found

theorem readEnd_agree (taken : Nat) (found : α) (items : Items) :
    (readEnd taken found items).Agree (readEnd taken found items.bare) := by
  cases items with
  | close stop => exact .refl _
  | broken m => exact .refl _
  | item start n rest =>
      cases start with
      | none => exact Reading.agree_fail _ _
      | some start => exact Reading.agree_fail _ _

theorem readPositions_agree (hfield : ∀ name found, PlaceFree (shape.field name · found))
    (names : List String) (index : Nat) (found : α) (items : Items) :
    (shape.readPositions index found names items).Agree
      (shape.readPositions index found names items.bare) := by
  induction names generalizing index found items with
  | nil => exact readEnd_agree index found items
  | cons name names ih =>
      cases items with
      | close stop =>
          simp only [readPositions, Items.bare]
          split
          · exact Reading.agree_fail _ _
          · exact .refl _
      | broken m => exact .refl _
      | item start n rest =>
          exact (hfield name found n).andThen fun found => ih (index + 1) found rest

theorem read_placeFree (shape : RecordShape α)
    (hfield : ∀ name found, PlaceFree (shape.field name · found))
    (hother : ∀ name found, PlaceFree (shape.other name · found)) : PlaceFree shape.read := by
  intro n
  cases n with
  | object start members => exact readMembers_agree hfield hother members [] shape.blank
  | array start items =>
      simp only [read, Node.bare]
      split
      · exact readPositions_agree hfield _ 0 shape.blank items
      · exact Node.wrongType_agree _ _ _
  | _ =>
      simp only [read, Node.bare]
      exact Node.wrongType_agree _ _ _

theorem ignoreOther_placeFree (name : String) (found : α) :
    PlaceFree (ignoreOther name · found) :=
  fun n => (Node.ignore_placeFree n).andThen fun _ => .refl (.ok found)

end RecordShape

-- Every record is read in such a way.

theorem ActorDefinition.read_placeFree : PlaceFree read := by
  refine RecordShape.read_placeFree recordShape (fun name found n => ?_)
    fun name found n => ?_
  · simp only [recordShape, readField]
    split
    case h_1 => exact Node.text_placeFree.bind _ n
    all_goals exact .of_eq (by simp)
  · exact .of_eq (by simp [recordShape])

theorem CameraDefinition.read_placeFree : PlaceFree read := by
  refine RecordShape.read_placeFree recordShape (fun name found n => ?_)
    RecordShape.ignoreOther_placeFree
  simp only [recordShape, readField]
  split <;> exact .of_eq (by simp)

theorem CameraDefinition.readOptional_placeFree : PlaceFree readOptional := by
  intro n
  cases n with
  | null stop => exact .refl _
  | _ =>
      simp only [readOptional, Node.bare]
      exact (read_placeFree _).andThen fun c => .refl (.ok (some c))

namespace Assignment

theorem ofItem_placeFree : PlaceFree ofItem := by
  intro n
  refine Agree.andThen ?_ fun p => .refl (ofValue ⟨p.actor, p.property⟩ p.value)
  refine RecordShape.read_placeFree Parts.recordShape (fun name found n => ?_)
    RecordShape.ignoreOther_placeFree n
  simp only [Parts.recordShape, Parts.readField]
  split
  case h_1 => exact Node.text_placeFree.bind _ n
  case h_2 => exact Node.text_placeFree.bind _ n
  all_goals exact .of_eq (by simp)

theorem ofMembers_agree (members : Members) :
    (ofMembers members).Agree (ofMembers members.bare) := by
  fun_induction ofMembers members with
  | case1 stop => exact .refl _
  | case2 m => exact .refl _
  | case3 name behind n rest ih =>
      simp only [ofMembers, Members.bare, Node.json_bare]
      refine (Agree.refl n.json).andThen fun j => ?_
      split
      · exact (Agree.refl _).andThen fun a => ih.andThen fun l => .refl _
      · exact (Agree.refl _).andThen fun _ => ih

theorem readAll_placeFree : PlaceFree readAll := by
  intro n
  cases n with
  | null stop => exact .refl _
  | object start members => exact ofMembers_agree members
  | array start items => exact Node.itemsOf_agree ofItem_placeFree items
  | _ =>
      simp only [readAll, Node.bare]
      exact Node.wrongType_agree _ _ _

end Assignment

theorem TimelineEvent.read_placeFree : PlaceFree read := by
  refine RecordShape.read_placeFree recordShape (fun name found n => ?_)
    RecordShape.ignoreOther_placeFree
  simp only [recordShape, readField]
  split
  case h_4 => exact Assignment.readAll_placeFree.bind _ n
  all_goals exact .of_eq (by simp)

theorem Annotation.read_placeFree : PlaceFree read := by
  refine RecordShape.read_placeFree recordShape (fun name found n => ?_)
    RecordShape.ignoreOther_placeFree
  simp only [recordShape, readField]
  split
  case h_1 => exact Node.text_placeFree.bind _ n
  all_goals exact .of_eq (by simp)

theorem Definition.read_placeFree : PlaceFree read := by
  refine RecordShape.read_placeFree recordShape (fun name found n => ?_)
    RecordShape.ignoreOther_placeFree
  simp only [recordShape, readField]
  split
  case h_4 => exact (Node.list_placeFree ActorDefinition.read_placeFree).bind _ n
  case h_5 => exact CameraDefinition.readOptional_placeFree.bind _ n
  case h_6 => exact (Node.list_placeFree TimelineEvent.read_placeFree).bind _ n
  case h_7 => exact (Node.list_placeFree Annotation.read_placeFree).bind _ n
  all_goals exact .of_eq (by simp)

end Diorama
