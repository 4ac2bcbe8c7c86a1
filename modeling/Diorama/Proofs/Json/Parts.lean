import Mathlib.Data.List.Nodup
import Diorama.Json.Value
import Diorama.Table

namespace Diorama

theorem lookup_eq_some_iff {α : Type} {entries : List (String × α)} (h : (entries.map (·.1)).Nodup)
    {name : String} {a : α} : entries.lookup name = some a ↔ (name, a) ∈ entries := by
  induction entries with
  | nil => simp
  | cons head rest ih =>
      obtain ⟨key, b⟩ := head
      obtain ⟨hfree, hrest⟩ := List.nodup_cons.mp h
      rw [Table.lookup_cons_eq]
      by_cases hkey : name = key
      · subst hkey
        have hnot : (name, a) ∉ rest := fun hmem => hfree (List.mem_map.mpr ⟨_, hmem, rfl⟩)
        simp [hnot, eq_comm]
      · simpa [hkey] using ih hrest

namespace Json

def isArray : Json → Bool
  | .array _ => true
  | _ => false

def isObject : Json → Bool
  | .object _ => true
  | _ => false

def isText : Json → Bool
  | .string _ => true
  | _ => false

-- An array of such items.
def listOf (p : Json → Bool) : Json → Bool
  | .array items => items.all p
  | _ => false

-- A member of a value, if it is an object.
def memberAt? (name : String) : Json → Option Json
  | .object members => member? name members
  | _ => none

-- What may be given for a member that may be absent or `null`.
def orNull (p : Json → Bool) (j : Option Json) : Bool := j.elim true fun j => j.isNull || p j

-- An object that has a text under a name.
def hasText (name : String) (j : Json) : Bool := (j.memberAt? name).elim false isText

-- The items of a member that is a list.
def itemsAt (name : String) (j : Json) : List Json :=
  match j.memberAt? name with
  | some (.array items) => items
  | _ => []

theorem isObject_and_hasText (name : String) (j : Json) :
    (j.isObject && j.hasText name) = j.hasText name := by
  cases j <;> rfl

theorem memberAt?_eq {members : List (String × Json)} (h : (members.map (·.1)).Nodup)
    {member : String × Json} (hmem : member ∈ members) :
    (Json.object members).memberAt? member.1 = some member.2 :=
  (lookup_eq_some_iff h).mpr hmem

theorem mem_itemsAt {members : List (String × Json)} (h : (members.map (·.1)).Nodup)
    {member : String × Json} (hmem : member ∈ members) {items : List Json}
    (hitems : member.2 = .array items) {item : Json} (hitem : item ∈ items) :
    item ∈ (Json.object members).itemsAt member.1 := by
  rw [itemsAt, memberAt?_eq h hmem, hitems]
  exact hitem

-- Whether two values are the same, number by number and member by member in their order.

mutual

def same : Json → Json → Bool
  | .null, .null => true
  | .bool b, .bool b' => b == b'
  | .number n, .number n' => decide (n = n')
  | .string s, .string s' => s == s'
  | .array items, .array items' => sameItems items items'
  | .object members, .object members' => sameMembers members members'
  | _, _ => false
termination_by structural j => j

def sameItems : List Json → List Json → Bool
  | [], [] => true
  | j :: rest, j' :: rest' => j.same j' && sameItems rest rest'
  | _, _ => false
termination_by structural items => items

def sameMembers : List (String × Json) → List (String × Json) → Bool
  | [], [] => true
  | (name, j) :: rest, (name', j') :: rest' => name == name' && j.same j' && sameMembers rest rest'
  | _, _ => false
termination_by structural members => members

end

mutual

theorem same_iff : ∀ j j' : Json, j.same j' = true ↔ j = j'
  | .null, j' => by cases j' <;> simp [same]
  | .bool _, j' => by cases j' <;> simp [same]
  | .number _, j' => by cases j' <;> simp [same]
  | .string _, j' => by cases j' <;> simp [same]
  | .array items, j' => by cases j' <;> simp [same, sameItems_iff items]
  | .object members, j' => by cases j' <;> simp [same, sameMembers_iff members]

theorem sameItems_iff : ∀ items items' : List Json, sameItems items items' = true ↔ items = items'
  | [], items' => by cases items' <;> simp [sameItems]
  | j :: rest, items' => by
      cases items' <;> simp [sameItems, same_iff j, sameItems_iff rest]

theorem sameMembers_iff : ∀ members members' : List (String × Json),
    sameMembers members members' = true ↔ members = members'
  | [], members' => by cases members' <;> simp [sameMembers]
  | (name, j) :: rest, members' => by
      cases members' with
      | nil => simp [sameMembers]
      | cons head rest' =>
          obtain ⟨name', j'⟩ := head
          simp [sameMembers, same_iff j, sameMembers_iff rest]

end

instance : DecidableEq Json := fun j j' => decidable_of_iff _ (same_iff j j')

end Json

end Diorama
