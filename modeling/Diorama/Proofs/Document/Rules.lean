import Diorama.Proofs.Document.Success

namespace Diorama

variable {α β : Type}

-- Conditions on a tree, part by part.

def Members.holds (q : String → Node → Bool) : Members → Bool
  | .member name _ n rest => q name n && rest.holds q
  | _ => true
termination_by structural members => members

def Items.holds (q : Node → Bool) : Items → Bool
  | .item _ n rest => q n && rest.holds q
  | _ => true
termination_by structural items => items

def Items.holdsFor (q : String → Node → Bool) : List String → Items → Bool
  | name :: names, .item _ n rest => q name n && holdsFor q names rest
  | _, _ => true

theorem Members.holds_of_forall {q : String → Node → Bool} (h : ∀ name n, q name n = true)
    (members : Members) : members.holds q = true := by
  cases members with
  | member name behind n rest => rw [holds, h name n, holds_of_forall h rest, Bool.and_self]
  | _ => rfl
termination_by structural members

theorem Items.holds_of_forall {q : Node → Bool} (h : ∀ n, q n = true) (items : Items) :
    items.holds q = true := by
  cases items with
  | item start n rest => rw [holds, h n, holds_of_forall h rest, Bool.and_self]
  | _ => rfl
termination_by structural items

theorem Items.holdsFor_of_forall {q : String → Node → Bool} (h : ∀ name n, q name n = true) :
    ∀ (names : List String) (items : Items), items.holdsFor q names = true
  | [], _ => by simp [holdsFor]
  | _ :: _, .close _ => by simp [holdsFor]
  | _ :: _, .broken _ => by simp [holdsFor]
  | name :: names, .item _ n rest => by
      rw [holdsFor, h name n, holdsFor_of_forall h names rest, Bool.and_self]

namespace Node

def holdsEach (q : Node → Bool) : Node → Bool
  | .array _ items => items.holds q
  | _ => true

def valueHolds (q : Json → Bool) (n : Node) : Bool := n.value.toOption.all q

theorem holdsEach_of_forall {q : Node → Bool} (h : ∀ n, q n = true) (n : Node) :
    n.holdsEach q = true := by
  cases n with
  | array start items => exact Items.holds_of_forall h items
  | _ => rfl

theorem valueHolds_of_forall {q : Json → Bool} (h : ∀ j, q j = true) (n : Node) :
    n.valueHolds q = true := by
  rw [valueHolds]
  cases n.value with
  | error m => rfl
  | ok j => exact h j

theorem itemsOf_all {read : Node → Reading β} {fine : β → Bool} {q : Node → Bool}
    (hread : ∀ n a, (read n).result = .ok a → fine a = q n) :
    ∀ (items : Items) {all : List β}, (itemsOf read items).result = .ok all →
      all.all fine = items.holds q
  | .close _, all, h => by
      cases h
      rfl
  | .broken _, _, h => by cases h
  | .item start n rest, all, h => by
      rw [itemsOf] at h
      obtain ⟨a, ha, h⟩ := Reading.andThen_ok h
      obtain ⟨others, hothers, h⟩ := Reading.andThen_ok h
      cases h
      rw [List.all_cons, hread n a ha, itemsOf_all hread rest hothers, Items.holds]

theorem list_all {read : Node → Reading β} {fine : β → Bool} {q : Node → Bool}
    (hread : ∀ n a, (read n).result = .ok a → fine a = q n) {n : Node} {all : List β}
    (h : (n.list read).result = .ok all) : all.all fine = n.holdsEach q := by
  cases n with
  | null stop =>
      cases h
      rfl
  | array start items => exact itemsOf_all hread items h
  | _ => cases h

end Node

namespace RecordShape

variable {shape : RecordShape α} {fine : String → α → Bool} {q : String → Node → Bool}

theorem isField_iff {name : String} :
    shape.isField name = true ↔ name ∈ shape.fields.map (·.1) := by
  simp only [isField, List.any_eq_true, List.mem_map, beq_iff_eq]

-- Only members that the record knows count.
def holds (shape : RecordShape α) (q : String → Node → Bool) : Node → Bool
  | .object _ members => members.holds fun name n => !shape.isField name || q name n
  | .array _ items => items.holdsFor q (shape.fields.map (·.1))
  | _ => true

theorem holds_of_forall (h : ∀ name n, q name n = true) (n : Node) : shape.holds q n = true := by
  cases n with
  | object start members =>
      exact Members.holds_of_forall (fun name n => by rw [h name n, Bool.or_true]) members
  | array start items => exact Items.holdsFor_of_forall h _ items
  | _ => rfl

-- What comes from a member is fine if its value is, and a member touches nothing else.
structure Ruled (shape : RecordShape α) (fine : String → α → Bool) (q : String → Node → Bool) :
    Prop where
  blank : ∀ name, fine name shape.blank = true
  nodup : (shape.fields.map (·.1)).Nodup
  field : ∀ name, shape.isField name = true → ∀ n found a,
    (shape.field name n found).result = .ok a →
      fine name a = q name n ∧ ∀ other, other ≠ name → fine other a = fine other found
  other : ∀ name n found a, (shape.other name n found).result = .ok a →
    ∀ other, fine other a = fine other found

theorem Ruled.field_iff (h : shape.Ruled fine q) {name : String}
    (hknown : shape.isField name = true) {n : Node} {found a : α}
    (hfound : fine name found = true) (hread : (shape.field name n found).result = .ok a) :
    (∀ other, fine other a = true) ↔
      (∀ other, fine other found = true) ∧ q name n = true := by
  obtain ⟨hname, hkeep⟩ := h.field name hknown n found a hread
  constructor
  · intro hall
    refine ⟨fun other => ?_, hname ▸ hall name⟩
    by_cases heq : other = name
    · exact heq ▸ hfound
    · exact hkeep other heq ▸ hall other
  · rintro ⟨hall, hq⟩ other
    by_cases heq : other = name
    · exact heq ▸ hname.trans hq
    · exact (hkeep other heq).trans (hall other)

theorem Ruled.readMembers (h : shape.Ruled fine q) :
    ∀ (members : Members) {seen : List String} {found a : α},
      (∀ name, name ∉ seen → fine name found = true) →
      (shape.readMembers seen found members).result = .ok a →
        ((∀ name, fine name a = true) ↔
          (∀ name, fine name found = true) ∧
            members.holds (fun name n => !shape.isField name || q name n) = true)
  | .close _, seen, found, a, _, hread => by
      obtain ⟨rfl, -⟩ := readMembers_close_ok hread
      simp [Members.holds]
  | .broken _, _, _, _, _, hread => by simp [RecordShape.readMembers, Reading.fail] at hread
  | .member name behind n rest, seen, found, a, hseen, hread => by
      rw [Members.holds, Bool.and_eq_true]
      rcases readMembers_member_ok hread with
        ⟨hknown, hnew, next, hnext, hrest⟩ | ⟨hknown, next, hnext, hrest⟩
      · have hseen' : ∀ other, other ∉ name :: seen → fine other next = true := by
          intro other hother
          rw [List.mem_cons, not_or] at hother
          rw [(h.field name hknown n found next hnext).2 other hother.1]
          exact hseen other hother.2
        rw [h.readMembers rest hseen' hrest, h.field_iff hknown (hseen name hnew) hnext,
          and_assoc, hknown, Bool.not_true, Bool.false_or]
      · have hkeep := h.other name n found next hnext
        have hseen' : ∀ other, other ∉ seen → fine other next = true := fun other hother =>
          (hkeep other).trans (hseen other hother)
        simp [h.readMembers rest hseen' hrest, hkeep, hknown]

theorem ignoreOther_ok (name : String) {n : Node} {found a : α}
    (h : (ignoreOther name n found).result = .ok a) : a = found := by
  obtain ⟨_, -, h⟩ := Reading.andThen_ok h
  exact (Except.ok.inj h).symm

theorem readEnd_ok {items : Items} {taken : Nat} {found a : α}
    (h : (readEnd taken found items).result = .ok a) : a = found := by
  cases items with
  | close stop =>
      cases h
      rfl
  | broken m =>
      rw [readEnd] at h
      split at h <;> cases h
  | item start n rest => cases start <;> cases h

theorem Ruled.readPositions (h : shape.Ruled fine q) {names : List String} (hnodup : names.Nodup)
    (hknown : ∀ name ∈ names, shape.isField name = true) {items : Items} {index : Nat}
    {found a : α} (hnames : ∀ name ∈ names, fine name found = true)
    (hread : (shape.readPositions index found names items).result = .ok a) :
    (∀ name, fine name a = true) ↔
      (∀ name, fine name found = true) ∧ items.holdsFor q names = true := by
  induction names generalizing items index found with
  | nil =>
      rw [RecordShape.readPositions] at hread
      rw [readEnd_ok hread]
      simp [Items.holdsFor]
  | cons name names ih =>
      obtain ⟨hfree, hnodup'⟩ := List.nodup_cons.mp hnodup
      cases items with
      | item start n rest =>
          rw [RecordShape.readPositions] at hread
          obtain ⟨next, hnext, hrest⟩ := Reading.andThen_ok hread
          have hname := hknown name List.mem_cons_self
          have hnames' : ∀ other ∈ names, fine other next = true := by
            intro other hother
            have hne : other ≠ name := fun heq => hfree (heq ▸ hother)
            rw [(h.field name hname n found next hnext).2 other hne]
            exact hnames other (List.mem_cons_of_mem _ hother)
          rw [ih hnodup' (fun other hother => hknown other (List.mem_cons_of_mem _ hother)) hnames'
            hrest, h.field_iff hname (hnames name List.mem_cons_self) hnext, Items.holdsFor,
            Bool.and_eq_true, and_assoc]
      | broken m => cases hread
      | close stop =>
          rw [RecordShape.readPositions] at hread
          split at hread
          · cases hread
          · cases hread
            simp [Items.holdsFor]

-- A record is fine if everything that was said for it is.
theorem Ruled.read (h : shape.Ruled fine q) {n : Node} {a : α}
    (hread : (shape.read n).result = .ok a) :
    (∀ name, fine name a = true) ↔ shape.holds q n = true := by
  cases n with
  | object start members =>
      rw [h.readMembers members (fun name _ => h.blank name) hread, holds]
      exact and_iff_right h.blank
  | array start items =>
      rw [RecordShape.read] at hread
      split at hread
      · rw [h.readPositions h.nodup (fun _ => isField_iff.mpr) (fun name _ => h.blank name) hread,
          holds]
        exact and_iff_right h.blank
      · cases hread
  | _ => cases hread

theorem Ruled.read_eq (h : shape.Ruled fine q) {passes : α → Bool}
    (hpasses : ∀ a, (∀ name, fine name a = true) ↔ passes a = true) {n : Node} {a : α}
    (hread : (shape.read n).result = .ok a) : passes a = shape.holds q n := by
  rw [Bool.eq_iff_iff, ← hpasses]
  exact h.read hread

end RecordShape

end Diorama
