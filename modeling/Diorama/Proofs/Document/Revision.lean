import Diorama.Proofs.Document.Source

namespace Diorama

deriving instance DecidableEq for Node, Items, Members

variable {α β : Type}

-- Changes to a tree: a member is given another value or left out, or an item is changed.

def Members.alter (name : String) (f : Node → Option (Option Node)) : Members → Option Members
  | .member key behind n rest =>
    if key = name then
      (f n).map fun
        | some n' => .member key behind n' rest
        | none => rest
    else (alter name f rest).map (.member key behind n)
  | _ => none
termination_by structural members => members

def Items.alter (f : Node → Option Node) : Nat → Items → Option Items
  | 0, .item start n rest => (f n).map (.item start · rest)
  | index + 1, .item start n rest => (alter f index rest).map (.item start n)
  | _, _ => none

def Node.alterMember (name : String) (f : Node → Option (Option Node)) : Node → Option Node
  | .object start members => (members.alter name f).map (.object start)
  | _ => none

def Node.alterItem (index : Nat) (f : Node → Option Node) : Node → Option Node
  | .array start items => (items.alter f index).map (.array start)
  | _ => none

namespace Reading

theorem isOk_ofShape (m : Except ShapeFault α) : (ofShape m).result.isOk = m.isOk := by
  cases m <;> rfl

end Reading

namespace RecordShape

variable {shape : RecordShape α} {name : String} {g : α → α}

-- A change of a record that has to do with one member only: it does not matter whether it is made
-- before another member is read or after.
structure Confined (shape : RecordShape α) (name : String) (g : α → α) : Prop where
  field : ∀ other, other ≠ name → ∀ n found,
    (shape.field other n (g found)).result = (shape.field other n found).result.map g
  other : ∀ other n found,
    (shape.other other n (g found)).result = (shape.other other n found).result.map g

theorem Confined.field_ok (h : shape.Confined name g) {key : String} (hne : key ≠ name) {n : Node}
    {found next : α} (hread : (shape.field key n found).result = .ok next) :
    (shape.field key n (g found)).result = .ok (g next) := by
  rw [h.field key hne, hread]
  rfl

theorem Confined.other_ok (h : shape.Confined name g) {key : String} {n : Node} {found next : α}
    (hread : (shape.other key n found).result = .ok next) :
    (shape.other key n (g found)).result = .ok (g next) := by
  rw [h.other, hread]
  rfl

-- Once the member was read, the change can wait until the end.
theorem Confined.readMembers_ok (h : shape.Confined name g) :
    ∀ (members : Members) {seen : List String} {found a : α}, name ∈ seen →
      (shape.readMembers seen found members).result = .ok a →
        (shape.readMembers seen (g found) members).result = .ok (g a)
  | .close stop, seen, found, a, _, hread => by
      obtain ⟨rfl, hall⟩ := readMembers_close_ok hread
      exact readMembers_close hall (g a) stop
  | .broken _, _, _, _, _, hread => by simp [readMembers, Reading.fail] at hread
  | .member key behind n rest, seen, found, a, hseen, hread => by
      rcases readMembers_member_ok hread with
        ⟨hknown, hnew, next, hnext, hrest⟩ | ⟨hknown, next, hnext, hrest⟩
      · have hne : key ≠ name := fun heq => hnew (heq ▸ hseen)
        rw [readMembers_field hknown hnew (h.field_ok hne hnext)]
        exact h.readMembers_ok rest (List.mem_cons_of_mem _ hseen) hrest
      · rw [readMembers_other hknown (h.other_ok hnext)]
        exact h.readMembers_ok rest hseen hrest

-- A member that may be missing need not have been there.
theorem readMembers_unseen (hfree : name ∉ shape.required) :
    ∀ (members : Members) {seen seen' : List String} {found a : α},
      (∀ other, other ∈ seen' ↔ other = name ∨ other ∈ seen) →
      (shape.readMembers seen' found members).result = .ok a →
        (shape.readMembers seen found members).result = .ok a
  | .close stop, seen, seen', found, a, hseen, hread => by
      obtain ⟨rfl, hall⟩ := readMembers_close_ok hread
      refine readMembers_close (fun required hrequired => ?_) a stop
      have hne : required ≠ name := fun heq => hfree (heq ▸ hrequired)
      exact ((hseen required).mp (hall required hrequired)).resolve_left hne
  | .broken _, _, _, _, _, _, hread => by simp [readMembers, Reading.fail] at hread
  | .member key behind n rest, seen, seen', found, a, hseen, hread => by
      rcases readMembers_member_ok hread with
        ⟨hknown, hnew, next, hnext, hrest⟩ | ⟨hknown, next, hnext, hrest⟩
      · have hnew' : key ∉ seen := fun hmem => hnew ((hseen key).mpr (.inr hmem))
        rw [readMembers_field hknown hnew' hnext]
        refine readMembers_unseen hfree rest (fun other => ?_) hrest
        rw [List.mem_cons, List.mem_cons, hseen other, or_left_comm]
      · rw [readMembers_other hknown hnext]
        exact readMembers_unseen hfree rest hseen hrest

-- What an alteration of a member does to the record: another value changes what was read for it,
-- and without a value it is as if nothing had been read.
structure Alters (shape : RecordShape α) (name : String) (f : Node → Option (Option Node))
    (g : α → α) : Prop where
  confined : shape.Confined name g
  known : shape.isField name = true
  blank : g shape.blank = shape.blank
  put : ∀ n n', f n = some (some n') → ∀ found a, (shape.field name n found).result = .ok a →
    (shape.field name n' found).result = .ok (g a)
  drop : ∀ n, f n = some none → name ∉ shape.required ∧
    ∀ found a, (shape.field name n found).result = .ok a → g a = g found

variable {f : Node → Option (Option Node)}

theorem Alters.readMembers (h : shape.Alters name f g) :
    ∀ (members : Members) {members' : Members} {seen : List String} {found a : α},
      name ∉ seen → g found = found → members.alter name f = some members' →
      (shape.readMembers seen found members).result = .ok a →
        (shape.readMembers seen found members').result = .ok (g a)
  | .close _, _, _, _, _, _, _, halter, _ => by simp [Members.alter] at halter
  | .broken _, _, _, _, _, _, _, halter, _ => by simp [Members.alter] at halter
  | .member key behind n rest, members', seen, found, a, hseen, hfound, halter, hread => by
      rw [Members.alter] at halter
      rcases readMembers_member_ok hread with
        ⟨hknown, hnew, next, hnext, hrest⟩ | ⟨hknown, next, hnext, hrest⟩
      · by_cases hkey : key = name
        · subst hkey
          rw [if_pos rfl] at halter
          have hlast := h.confined.readMembers_ok rest (List.mem_cons_self (l := seen)) hrest
          obtain ⟨edit, hedit, rfl⟩ := Option.map_eq_some_iff.mp halter
          cases edit with
          | some n' => exact (readMembers_field hknown hnew (h.put n n' hedit found next hnext)
              behind rest).trans hlast
          | none =>
              -- nothing of the member is left, so it is read as if it had not been there
              obtain ⟨hfree, hforget⟩ := h.drop n hedit
              rw [hforget found next hnext, hfound] at hlast
              exact readMembers_unseen hfree rest (fun other => List.mem_cons) hlast
        · rw [if_neg hkey] at halter
          obtain ⟨rest', halter', rfl⟩ := Option.map_eq_some_iff.mp halter
          have hsame := h.confined.field_ok hkey hnext
          rw [hfound, hnext] at hsame
          have hseen' : name ∉ key :: seen := by
            rw [List.mem_cons, not_or]
            exact ⟨fun heq => hkey heq.symm, hseen⟩
          rw [readMembers_field hknown hnew hnext]
          exact h.readMembers rest hseen' (Except.ok.inj hsame).symm halter' hrest
      · have hkey : key ≠ name := by
          rintro rfl
          simp [h.known] at hknown
        rw [if_neg hkey] at halter
        obtain ⟨rest', halter', rfl⟩ := Option.map_eq_some_iff.mp halter
        have hsame := h.confined.other_ok hnext
        rw [hfound, hnext] at hsame
        rw [readMembers_other hknown hnext]
        exact h.readMembers rest hseen (Except.ok.inj hsame).symm halter' hrest

theorem Alters.read (h : shape.Alters name f g) {n n' : Node} {a : α}
    (halter : n.alterMember name f = some n') (hread : (shape.read n).result = .ok a) :
    (shape.read n').result = .ok (g a) := by
  cases n with
  | object start members =>
      obtain ⟨members', hmembers, rfl⟩ := Option.map_eq_some_iff.mp halter
      exact h.readMembers members List.not_mem_nil h.blank hmembers hread
  | _ => simp [Node.alterMember] at halter

end RecordShape

namespace Node

theorem itemsOf_item_ok {read : Node → Reading α} {start : Option Place} {n : Node} {rest : Items}
    {all : List α} (h : (itemsOf read (.item start n rest)).result = .ok all) :
    ∃ a others, (read n).result = .ok a ∧ (itemsOf read rest).result = .ok others ∧
      all = a :: others := by
  rw [itemsOf] at h
  obtain ⟨a, ha, h⟩ := Reading.andThen_ok h
  obtain ⟨others, hothers, h⟩ := Reading.andThen_ok h
  exact ⟨a, others, ha, hothers, (Except.ok.inj h).symm⟩

theorem result_itemsOf_item {read : Node → Reading α} {n : Node} {rest : Items} {a : α}
    {others : List α} (ha : (read n).result = .ok a)
    (hothers : (itemsOf read rest).result = .ok others) (start : Option Place) :
    (itemsOf read (.item start n rest)).result = .ok (a :: others) := by
  rw [itemsOf, Reading.result_andThen ha, Reading.result_andThen hothers]
  rfl

theorem itemsOf_alter {read : Node → Reading α} {f : Node → Option Node} {g : α → α}
    (hf : ∀ n n' a, f n = some n' → (read n).result = .ok a → (read n').result = .ok (g a)) :
    ∀ (index : Nat) (items : Items) {items' : Items} {all : List α},
      items.alter f index = some items' → (itemsOf read items).result = .ok all →
        (itemsOf read items').result = .ok (all.modify index g)
  | _, .close _, _, _, halter, _ => by simp [Items.alter] at halter
  | _, .broken _, _, _, halter, _ => by simp [Items.alter] at halter
  | 0, .item start n rest, _, _, halter, hread => by
      obtain ⟨a, others, ha, hothers, rfl⟩ := itemsOf_item_ok hread
      obtain ⟨n', hn', rfl⟩ := Option.map_eq_some_iff.mp halter
      exact result_itemsOf_item (hf n n' a hn' ha) hothers start
  | index + 1, .item start n rest, _, _, halter, hread => by
      obtain ⟨a, others, ha, hothers, rfl⟩ := itemsOf_item_ok hread
      obtain ⟨rest', hrest', rfl⟩ := Option.map_eq_some_iff.mp halter
      exact result_itemsOf_item ha (itemsOf_alter hf index rest hrest' hothers) start

theorem list_alter {read : Node → Reading α} {f : Node → Option Node} {g : α → α}
    (hf : ∀ n n' a, f n = some n' → (read n).result = .ok a → (read n').result = .ok (g a))
    {index : Nat} {n n' : Node} {all : List α} (halter : n.alterItem index f = some n')
    (hread : (n.list read).result = .ok all) :
    (n'.list read).result = .ok (all.modify index g) := by
  cases n with
  | array start items =>
      obtain ⟨items', hitems, rfl⟩ := Option.map_eq_some_iff.mp halter
      exact itemsOf_alter hf index items hitems hread
  | _ => simp [alterItem] at halter

end Node

-- What a member that may be given anything is taken for. Texts of colors, easings and kinds are
-- never refused, whatever they say.
inductive Sense where
  | text
  | flag
  | number
  | point
  | scale
  | points
  | color
  | style

-- Whether the reader of such a member can do something with a value.
def Sense.accepts : Sense → Json → Bool
  | .text => fun j => j.text?.isOk
  | .flag => fun j => j.bool?.isOk
  | .number => fun j => ((Node.numberOf j).bind fun x => Node.finite? (narrow x)).isSome
  | .point => fun j => (Vec3.pointOfJson j).isOk
  | .scale => fun j => (Vec3.scaleOfJson j).isOk
  | .points => fun j => (Vec3.pointsOfJson j).isOk
  | .color => fun j => (Color.ofLooseJson j).result.isOk
  | .style => fun j => Annotation.styleOfJson j |>.isOk

theorem Sense.accepts_null (sense : Sense) : sense.accepts .null = false := by
  cases sense <;> rfl

-- Nothing is said, or something that the reader can do nothing with.
def Sense.Refuses (sense : Sense) (edit : Option Node) : Prop :=
  ∀ n, edit = some n → ∃ j, n.value = .ok j ∧ sense.accepts j = false

namespace Node

variable {n : Node} {j : Json}

-- What is refused is read as nothing.

theorem lenient_refused {read : Json → Reading α} (hj : n.value = .ok j)
    (h : (read j).result.isOk = false) : (n.lenient read).result = .ok none := by
  rw [lenient, json, hj, Reading.ofText, Reading.ok_andThen]
  split
  · rfl
  · cases hread : (read j).result with
    | error fault => simp only [hread]
    | ok a => simp [hread, Except.isOk, Except.toBool] at h

theorem lenient_shape_refused {read : Json → Except ShapeFault α} (hj : n.value = .ok j)
    (h : (read j).isOk = false) : (n.lenient fun j => .ofShape (read j)).result = .ok none :=
  lenient_refused hj ((Reading.isOk_ofShape (read j)).trans h)

theorem optionalNumber_refused (hj : n.value = .ok j) (h : Sense.number.accepts j = false) :
    n.optionalNumber.result = .ok none := by
  rw [optionalNumber, json, hj, Reading.ofText, Reading.ok_andThen]
  split
  · rfl
  · have hnone := Option.not_isSome_iff_eq_none.mp (Bool.eq_false_iff.mp h)
    rw [hnone]

theorem easing_refused (hj : n.value = .ok j) (h : Sense.text.accepts j = false) :
    n.easing.result = .ok none := by
  refine lenient_refused hj ?_
  cases j with
  | string s => simp [Sense.accepts, Json.text?, Except.isOk, Except.toBool] at h
  | _ => rfl

end Node

namespace RecordShape

-- The members of a record that may be given anything, and the record without one of them: what is
-- refused counts as nothing, and then everything else is as it was.
structure Lenient (shape : RecordShape α) (members : List (String × Sense))
    (without : String → α → α) : Prop where
  confined : ∀ name, shape.Confined name (without name)
  known : ∀ entry ∈ members, shape.isField entry.1 = true
  free : ∀ entry ∈ members, entry.1 ∉ shape.required
  blank : ∀ name, without name shape.blank = shape.blank
  forgets : ∀ name sense, (name, sense) ∈ members → ∀ n found a,
    (shape.field name n found).result = .ok a → without name a = without name found
  refuses : ∀ name sense, (name, sense) ∈ members → ∀ n j found, n.value = .ok j →
    sense.accepts j = false → (shape.field name n found).result = .ok (without name found)

theorem Lenient.alters {shape : RecordShape α} {members : List (String × Sense)}
    {without : String → α → α} (h : shape.Lenient members without) {name : String} {sense : Sense}
    (hmember : (name, sense) ∈ members) {edit : Option Node} (hedit : sense.Refuses edit) :
    shape.Alters name (fun _ => some edit) (without name) where
  confined := h.confined name
  known := h.known _ hmember
  blank := h.blank name
  put n n' hput found a hread := by
    obtain ⟨j, hj, hrefused⟩ := hedit n' (Option.some.inj hput)
    rw [h.refuses name sense hmember n' j found hj hrefused, h.forgets name sense hmember n found a
      hread]
  drop n _ := ⟨h.free _ hmember, h.forgets name sense hmember n⟩

end RecordShape

end Diorama
