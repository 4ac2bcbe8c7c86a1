import Mathlib.Tactic.SplitIfs
import Diorama.Json.Reader

namespace Diorama

-- A tree apart from where its parts stand.

mutual

def Node.bare : Node → Node
  | .null _ => .null none
  | .bool b _ => .bool b none
  | .number n _ => .number n none
  | .string s _ => .string s none
  | .array _ items => .array none items.bare
  | .object _ members => .object none members.bare
  | .skipped => .skipped
  | .broken m => .broken m
termination_by structural n => n

def Items.bare : Items → Items
  | .close _ => .close none
  | .broken m => .broken m
  | .item _ n rest => .item none n.bare rest.bare
termination_by structural items => items

def Members.bare : Members → Members
  | .close _ => .close none
  | .broken m => .broken m
  | .member name _ n rest => .member name none n.bare rest.bare
termination_by structural members => members

end

def Members.names : Members → List String
  | .member name _ _ rest => name :: rest.names
  | _ => []

-- Whether no object in the tree repeats a name.

mutual

def Node.distinct : Node → Bool
  | .array _ items => items.distinct
  | .object _ members => members.distinct
  | _ => true
termination_by structural n => n

def Items.distinct : Items → Bool
  | .item _ n rest => n.distinct && rest.distinct
  | _ => true
termination_by structural items => items

def Members.distinct : Members → Bool
  | .member name _ n rest => !rest.names.contains name && n.distinct && rest.distinct
  | _ => true
termination_by structural members => members

end

-- Whether everything in the tree was asked for.

mutual

def Node.asked : Node → Bool
  | .array _ items => items.asked
  | .object _ members => members.asked
  | .skipped => false
  | _ => true
termination_by structural n => n

def Items.asked : Items → Bool
  | .item _ n rest => n.asked && rest.asked
  | _ => true
termination_by structural items => items

def Members.asked : Members → Bool
  | .member _ _ n rest => n.asked && rest.asked
  | _ => true
termination_by structural members => members

end

@[simp] theorem Members.names_bare : ∀ members : Members, members.bare.names = members.names
  | .close _ => rfl
  | .broken _ => rfl
  | .member name _ _ rest => congrArg (name :: ·) (names_bare rest)

-- Values do not depend on places.

mutual

@[simp] theorem Node.value_bare : ∀ n : Node, n.bare.value = n.value
  | .null _ => rfl
  | .bool _ _ => rfl
  | .number _ _ => rfl
  | .string _ _ => rfl
  | .array _ items => by simp only [bare, value, values_bare items]
  | .object _ members => by simp only [bare, value, memberValues_bare members]
  | .skipped => rfl
  | .broken _ => rfl

theorem Node.values_bare : ∀ items : Items, values items.bare = values items
  | .close _ => rfl
  | .broken _ => rfl
  | .item _ n rest => by simp only [Items.bare, values, value_bare n, values_bare rest]

theorem Node.memberValues_bare : ∀ (members : Members) (found : List (String × Json)),
    memberValues members.bare found = memberValues members found
  | .close _, _ => rfl
  | .broken _, _ => rfl
  | .member _ _ n rest, found => by
      simp only [Members.bare, memberValues, value_bare n, memberValues_bare rest]

end

mutual

@[simp] theorem Node.distinct_bare : ∀ n : Node, n.bare.distinct = n.distinct
  | .null _ => rfl
  | .bool _ _ => rfl
  | .number _ _ => rfl
  | .string _ _ => rfl
  | .array _ items => Items.distinct_bare items
  | .object _ members => Members.distinct_bare members
  | .skipped => rfl
  | .broken _ => rfl

theorem Items.distinct_bare : ∀ items : Items, items.bare.distinct = items.distinct
  | .close _ => rfl
  | .broken _ => rfl
  | .item _ n rest => by
      simp only [Items.bare, Items.distinct, Node.distinct_bare n, Items.distinct_bare rest]

theorem Members.distinct_bare : ∀ members : Members, members.bare.distinct = members.distinct
  | .close _ => rfl
  | .broken _ => rfl
  | .member _ _ n rest => by
      simp only [Members.bare, Members.distinct, Members.names_bare, Node.distinct_bare n,
        Members.distinct_bare rest]

end

theorem Json.put_of_notMem {name : String} {found : List (String × Json)}
    (h : name ∉ found.map (·.1)) (j : Json) : put name j found = found ++ [(name, j)] := by
  induction found with
  | nil => rfl
  | cons head rest ih =>
      obtain ⟨key, old⟩ := head
      simp only [List.map_cons, List.mem_cons, not_or] at h
      rw [put, if_neg fun heq => h.1 heq.symm, ih h.2, List.cons_append]

-- Where nothing is repeated and nothing was passed over, the value says all that the tree does.

mutual

theorem Node.bare_eq_node : ∀ (n : Node) {j : Json}, n.value = .ok j → n.distinct = true →
    n.asked = true → n.bare = j.node
  | .null _, _, h, _, _ => by cases h; rfl
  | .bool _ _, _, h, _, _ => by cases h; rfl
  | .number _ _, _, h, _, _ => by cases h; rfl
  | .string _ _, _, h, _, _ => by cases h; rfl
  | .array _ items, j, h, hdistinct, hasked => by
      cases hvalues : values items with
      | error m => simp [value, hvalues, Except.map] at h
      | ok js =>
          obtain rfl : .array js = j := by simpa [value, hvalues, Except.map] using h
          rw [bare, Json.node, bare_eq_itemNodes items hvalues hdistinct hasked]
  | .object _ members, j, h, hdistinct, hasked => by
      cases hvalues : memberValues members [] with
      | error m => simp [value, hvalues, Except.map] at h
      | ok all =>
          obtain rfl : .object all = j := by simpa [value, hvalues, Except.map] using h
          obtain ⟨pairs, rfl, hbare⟩ :=
            bare_eq_memberNodes members hvalues hdistinct hasked (by simp)
          rw [bare, Json.node, hbare]
  | .skipped, _, _, _, hasked => by cases hasked
  | .broken _, _, h, _, _ => by cases h

theorem Node.bare_eq_itemNodes : ∀ (items : Items) {js : List Json}, values items = .ok js →
    items.distinct = true → items.asked = true → items.bare = Json.itemNodes js
  | .close _, _, h, _, _ => by cases h; rfl
  | .broken _, _, h, _, _ => by cases h
  | .item _ n rest, js, h, hdistinct, hasked => by
      simp only [Items.distinct, Items.asked, Bool.and_eq_true] at hdistinct hasked
      cases hvalue : n.value with
      | error m => simp [values, hvalue] at h
      | ok j =>
          cases hvalues : values rest with
          | error m => simp [values, hvalue, hvalues, Except.map] at h
          | ok others =>
              obtain rfl : j :: others = js := by
                simpa [values, hvalue, hvalues, Except.map] using h
              rw [Items.bare, Json.itemNodes, bare_eq_node n hvalue hdistinct.1 hasked.1,
                bare_eq_itemNodes rest hvalues hdistinct.2 hasked.2]

theorem Node.bare_eq_memberNodes : ∀ (members : Members) {found all : List (String × Json)},
    memberValues members found = .ok all → members.distinct = true → members.asked = true →
    (∀ name ∈ members.names, name ∉ found.map (·.1)) →
    ∃ pairs, all = found ++ pairs ∧ members.bare = Json.memberNodes pairs
  | .close _, _, _, h, _, _, _ => by
      cases h
      exact ⟨[], (List.append_nil _).symm, rfl⟩
  | .broken _, _, _, h, _, _, _ => by cases h
  | .member name _ n rest, found, all, h, hdistinct, hasked, hnew => by
      simp only [Members.distinct, Members.asked, Bool.and_eq_true, Bool.not_eq_true',
        List.contains_eq_mem, decide_eq_false_iff_not] at hdistinct hasked
      cases hvalue : n.value with
      | error m => simp [memberValues, hvalue] at h
      | ok j =>
          have hrest : memberValues rest (found ++ [(name, j)]) = .ok all := by
            rw [← Json.put_of_notMem (hnew name (by simp [Members.names])) j]
            simpa [memberValues, hvalue] using h
          have hnew' : ∀ other ∈ rest.names, other ∉ (found ++ [(name, j)]).map (·.1) := by
            intro other hother
            have hfree := hnew other (by simp [Members.names, hother])
            have hne : other ≠ name := fun heq => hdistinct.1.1 (heq ▸ hother)
            simp only [List.map_append, List.map_cons, List.map_nil, List.mem_append,
              List.mem_singleton, not_or]
            exact ⟨hfree, hne⟩
          obtain ⟨pairs, rfl, hbare⟩ :=
            bare_eq_memberNodes rest hrest hdistinct.2 hasked.2 hnew'
          refine ⟨(name, j) :: pairs, by simp, ?_⟩
          rw [Members.bare, Json.memberNodes, bare_eq_node n hvalue hdistinct.1.2 hasked.1, hbare]

end

namespace Json

theorem scalar_asked {tree : Option Place → Node} (htree : ∀ stop, (tree stop).asked = true)
    (read : Except Misread Cursor) : (Reached.scalar tree read).tree.asked = true := by
  cases read with
  | error m => rfl
  | ok c => exact htree _

theorem ofStep_asked {α : Type} {tree : α → Option Place → Node}
    (htree : ∀ a stop, (tree a stop).asked = true) (step : Step α) :
    (Reached.ofStep tree step).tree.asked = true := by
  cases step with
  | error m => rfl
  | ok reached => exact htree _ _

-- A member and those behind it.
theorem member_asked {name : String} {place : Option Place} {found : Reached Node}
    {others : Cursor → Reached Members} (hfound : found.tree.asked = true)
    (hothers : ∀ c, (others c).tree.asked = true) :
    (match found.next with
      | .error m => (⟨.member name place found.tree (.broken m), .error m⟩ : Reached Members)
      | .ok behind =>
        ⟨.member name place found.tree (others behind).tree, (others behind).next⟩).tree.asked =
      true := by
  cases found.next with
  | error m => simp [Members.asked, hfound]
  | ok behind => simp [Members.asked, hfound, hothers]

-- A reader that wants everything passes nothing over.
theorem readIn_asked (steps : Nat) :
    (∀ depth c, (readValueIn steps depth .whole c).tree.asked = true) ∧
      (∀ depth index c, (readItemsIn steps depth .whole index c).tree.asked = true) ∧
      ∀ depth first c, (readMembersIn steps depth .whole first c).tree.asked = true := by
  induction steps with
  | zero => exact ⟨fun _ _ => rfl, fun _ _ _ => rfl, fun _ _ _ => rfl⟩
  | succ steps ih =>
      obtain ⟨hvalue, hitems, hmembers⟩ := ih
      have hwhole : ∀ index, Outline.whole.item index = .whole := fun _ => rfl
      have hmember : ∀ name, Outline.whole.member name = some .whole := fun _ => rfl
      refine ⟨fun depth c => ?_, fun depth index c => ?_, fun depth first c => ?_⟩
      · simp only [readValueIn]
        split
        · rfl
        · split_ifs
          · exact scalar_asked (fun _ => rfl) _
          · exact scalar_asked (fun _ => rfl) _
          · exact scalar_asked (fun _ => rfl) _
          · exact ofStep_asked (fun _ _ => rfl) _
          · exact ofStep_asked (fun _ _ => rfl) _
          · exact ofStep_asked (fun _ _ => rfl) _
          · rfl
          · exact hitems _ _ _
          · rfl
          · exact hmembers _ _ _
          · rfl
      · simp only [readItemsIn, hwhole]
        split
        · rfl
        · split_ifs
          · rfl
          · split <;> simp [Items.asked, hvalue, hitems]
          · split
            · rfl
            · rfl
            · split <;> simp [Items.asked, hvalue, hitems]
          · rfl
      · simp only [readMembersIn, hmember]
        split
        · rfl
        · split_ifs
          · rfl
          · split
            · rfl
            · exact member_asked (by split <;> simp [Reached.fail, Node.asked, hvalue]) (hmembers _ _)
          · rfl
          · split
            · rfl
            · split
              · rfl
              · exact member_asked (by split <;> simp [Reached.fail, Node.asked, hvalue])
                  (hmembers _ _)
            · rfl
            · rfl
          · rfl

theorem readText_asked (text : String) : (readText .whole text).root.asked = true := by
  have hroot := (readIn_asked (2 * (Cursor.ofText text).rest.length + 2)).1 depthLimit
    (Cursor.ofText text)
  rw [readText]
  split <;> exact hroot

theorem root_value_of_parse {text : String} {j : Json} (h : parse text = .ok j) :
    (readText .whole text).root.value = .ok j ∧ (readText .whole text).tail = none := by
  rw [parse, Draft.value] at h
  split at h
  · cases h
  · cases h
  · rename_i hvalue htail
    exact ⟨hvalue.trans h, htail⟩

-- A text that repeats no name says nothing but its value, apart from where it says it.
theorem root_bare_of_parse {text : String} {j : Json} (h : parse text = .ok j)
    (hdistinct : (readText .whole text).root.distinct = true) :
    (readText .whole text).root.bare = j.node :=
  Node.bare_eq_node _ (root_value_of_parse h).1 hdistinct (readText_asked text)

end Json

end Diorama
