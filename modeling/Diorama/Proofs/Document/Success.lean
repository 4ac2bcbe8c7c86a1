import Diorama.Proofs.Document.Places
import Diorama.Proofs.Json.Parts

namespace Diorama

variable {α β : Type}

namespace Reading

theorem isOk_andThen {r : Reading α} {f : α → Reading β} (hf : ∀ a, (f a).result.isOk = true) :
    (r.andThen f).result.isOk = r.result.isOk := by
  obtain ⟨notices, result⟩ := r
  cases result with
  | error fault => rfl
  | ok a => exact hf a

theorem result_andThen {r : Reading α} {f : α → Reading β} {a : α} (h : r.result = .ok a) :
    (r.andThen f).result = (f a).result := by
  simp [andThen, h]

theorem andThen_ok {r : Reading α} {f : α → Reading β} {b : β}
    (h : (r.andThen f).result = .ok b) : ∃ a, r.result = .ok a ∧ (f a).result = .ok b := by
  cases hr : r.result with
  | error fault => simp [andThen, hr] at h
  | ok a => exact ⟨a, rfl, by simpa [andThen, hr] using h⟩

theorem result_bind_pure (r : Reading α) (f : α → β) :
    (r >>= fun a => pure (f a)).result = r.result.map f := by
  obtain ⟨notices, result⟩ := r
  cases result <;> rfl

theorem bind_pure_map {r : Reading β} {f f' : β → α} {g : α → α} (h : ∀ b, f' b = g (f b)) :
    (r >>= fun b => pure (f' b)).result = (r >>= fun b => pure (f b)).result.map g := by
  rw [result_bind_pure, result_bind_pure]
  cases r.result with
  | error fault => rfl
  | ok b => exact congrArg Except.ok (h b)

theorem bind_pure_ok {r : Reading β} {f : β → α} {a : α}
    (h : (r >>= fun b => pure (f b)).result = .ok a) : ∃ b, r.result = .ok b ∧ a = f b := by
  obtain ⟨b, hr, hb⟩ := andThen_ok h
  exact ⟨b, hr, (Except.ok.inj hb).symm⟩

theorem bind_pure_of_ok {r : Reading β} {b : β} (h : r.result = .ok b) (f : β → α) :
    (r >>= fun b => pure (f b)).result = .ok (f b) := by
  rw [result_bind_pure, h]
  rfl

@[simp] theorem isOk_pure (a : α) : (pure a : Reading α).result.isOk = true := rfl

@[simp] theorem isOk_bind_pure (r : Reading α) (f : α → β) :
    (r >>= fun a => pure (f a)).result.isOk = r.result.isOk := isOk_andThen fun _ => rfl

end Reading

namespace Json

-- A value that stands nowhere is a sound text.

mutual

theorem node_value_isOk : ∀ j : Json, ∃ j', j.node.value = .ok j'
  | .null => ⟨_, rfl⟩
  | .bool _ => ⟨_, rfl⟩
  | .number _ => ⟨_, rfl⟩
  | .string _ => ⟨_, rfl⟩
  | .array items => by
      obtain ⟨js, hjs⟩ := itemNodes_values_isOk items
      exact ⟨.array js, by simp [node, Node.value, hjs, Except.map]⟩
  | .object members => by
      obtain ⟨all, hall⟩ := memberNodes_values_isOk members []
      exact ⟨.object all, by simp [node, Node.value, hall, Except.map]⟩

theorem itemNodes_values_isOk : ∀ items : List Json, ∃ js, Node.values (itemNodes items) = .ok js
  | [] => ⟨[], rfl⟩
  | j :: rest => by
      obtain ⟨j', hj⟩ := node_value_isOk j
      obtain ⟨js, hjs⟩ := itemNodes_values_isOk rest
      exact ⟨j' :: js, by simp [itemNodes, Node.values, hj, hjs, Except.map]⟩

theorem memberNodes_values_isOk : ∀ (members found : List (String × Json)),
    ∃ all, Node.memberValues (memberNodes members) found = .ok all
  | [], found => ⟨found, rfl⟩
  | (name, j) :: rest, found => by
      obtain ⟨j', hj⟩ := node_value_isOk j
      obtain ⟨all, hall⟩ := memberNodes_values_isOk rest (put name j' found)
      exact ⟨all, by simp [memberNodes, Node.memberValues, hj, hall]⟩

end

theorem json_isOk (j : Json) : j.node.json.result.isOk = true := by
  obtain ⟨j', hj⟩ := node_value_isOk j
  rw [Node.json, hj]
  rfl

-- A lenient reader reads everything.

@[simp] theorem lenient_isOk (read : Json → Reading α) (j : Json) :
    (j.node.lenient read).result.isOk = true := by
  rw [Node.lenient, Reading.isOk_andThen, json_isOk]
  intro j
  split
  · rfl
  · simp only
    split <;> rfl

@[simp] theorem optionalNumber_isOk (j : Json) : j.node.optionalNumber.result.isOk = true := by
  rw [Node.optionalNumber, Reading.isOk_andThen, json_isOk]
  intro j
  split
  · rfl
  · split <;> rfl

@[simp] theorem optionalText_isOk (j : Json) : j.node.optionalText.result.isOk = true :=
  lenient_isOk _ j

@[simp] theorem optionalBool_isOk (j : Json) : j.node.optionalBool.result.isOk = true :=
  lenient_isOk _ j

@[simp] theorem point_isOk (j : Json) : j.node.point.result.isOk = true := lenient_isOk _ j

@[simp] theorem scale_isOk (j : Json) : j.node.scale.result.isOk = true := lenient_isOk _ j

@[simp] theorem points_isOk (j : Json) : j.node.points.result.isOk = true := lenient_isOk _ j

@[simp] theorem color_isOk (j : Json) : j.node.color.result.isOk = true := lenient_isOk _ j

@[simp] theorem easing_isOk (j : Json) : j.node.easing.result.isOk = true := lenient_isOk _ j

@[simp] theorem text_isOk (j : Json) : j.node.text.result.isOk = j.isText := by
  cases j <;> rfl

@[simp] theorem ignore_isOk (j : Json) : j.node.ignore.result.isOk = true := by
  cases j <;> rfl

theorem itemsOf_isOk {read : Node → Reading α} {p : Json → Bool} {items : List Json}
    (h : ∀ j ∈ items, (read j.node).result.isOk = p j) :
    (Node.itemsOf read (itemNodes items)).result.isOk = items.all p := by
  induction items with
  | nil => rfl
  | cons j rest ih =>
      rw [List.all_cons, ← ih fun j hj => h j (List.mem_cons_of_mem _ hj),
        ← h j List.mem_cons_self, itemNodes, Node.itemsOf]
      obtain ⟨notices, result⟩ := read j.node
      cases result with
      | error fault => rfl
      | ok a => exact Reading.isOk_andThen (f := fun l => .ok (a :: l)) fun _ => rfl

theorem list_isOk {read : Node → Reading α} {p : Json → Bool} {j : Json}
    (h : ∀ items, j = .array items → ∀ item ∈ items, (read item.node).result.isOk = p item) :
    (Node.list read j.node).result.isOk = (j.isNull || j.listOf p) := by
  cases j with
  | array items => exact itemsOf_isOk (h items rfl)
  | _ => rfl

theorem itemNodes_distinct_iff (items : List Json) :
    (itemNodes items).distinct = true ↔ ∀ j ∈ items, j.node.distinct = true := by
  induction items with
  | nil => simp [itemNodes, Items.distinct]
  | cons j rest ih => simp [itemNodes, Items.distinct, ih]

theorem memberNodes_names (members : List (String × Json)) :
    (memberNodes members).names = members.map (·.1) := by
  induction members with
  | nil => rfl
  | cons head rest ih => simp [memberNodes, Members.names, ih]

theorem memberNodes_distinct_iff (members : List (String × Json)) :
    (memberNodes members).distinct = true ↔
      (members.map (·.1)).Nodup ∧ ∀ member ∈ members, member.2.node.distinct = true := by
  induction members with
  | nil => simp [memberNodes, Members.distinct]
  | cons head rest ih =>
      simp only [memberNodes, Members.distinct, memberNodes_names, Bool.and_eq_true,
        Bool.not_eq_true', List.contains_eq_mem, decide_eq_false_iff_not, ih, List.map_cons,
        List.nodup_cons, List.forall_mem_cons]
      exact and_and_and_comm

-- The parts of a value that repeats no name.

theorem distinct_of_mem_items {items : List Json} (h : (Json.array items).node.distinct = true)
    {j : Json} (hmem : j ∈ items) : j.node.distinct = true :=
  (itemNodes_distinct_iff items).mp h j hmem

theorem names_nodup {members : List (String × Json)}
    (h : (Json.object members).node.distinct = true) : (members.map (·.1)).Nodup :=
  ((memberNodes_distinct_iff members).mp h).1

theorem distinct_of_mem_members {members : List (String × Json)}
    (h : (Json.object members).node.distinct = true) {member : String × Json}
    (hmem : member ∈ members) : member.2.node.distinct = true :=
  ((memberNodes_distinct_iff members).mp h).2 member hmem

end Json

namespace RecordShape

variable {shape : RecordShape α}

theorem readMembers_close_isOk_iff (seen : List String) (found : α) (stop : Option Place) :
    (shape.readMembers seen found (.close stop)).result.isOk = true ↔
      ∀ name ∈ shape.required, name ∈ seen := by
  rw [readMembers]
  cases habsent : shape.absent? seen with
  | none => simpa [absent?, Reading.ok, Except.isOk, Except.toBool] using habsent
  | some name =>
      have hname := List.find?_some habsent
      have hmem := List.mem_of_find?_eq_some habsent
      simp only [Bool.not_eq_true', List.contains_eq_mem, decide_eq_false_iff_not] at hname
      simp only [Reading.fail, Except.isOk, Except.toBool, Bool.false_eq_true, false_iff]
      exact fun hall => hname (hall name hmem)

section

-- One step through the members of a record, and the end.

theorem readMembers_close_ok {seen : List String} {found a : α} {stop : Option Place}
    (h : (shape.readMembers seen found (.close stop)).result = .ok a) :
    a = found ∧ ∀ name ∈ shape.required, name ∈ seen := by
  have hall := (readMembers_close_isOk_iff seen found stop).mp (by rw [h]; rfl)
  rw [readMembers] at h
  split at h
  · cases h
  · cases h
    exact ⟨rfl, hall⟩

theorem readMembers_close {seen : List String} (hall : ∀ name ∈ shape.required, name ∈ seen)
    (found : α) (stop : Option Place) :
    (shape.readMembers seen found (.close stop)).result = .ok found := by
  have habsent : shape.absent? seen = none := by
    rw [absent?, List.find?_eq_none]
    intro name hname
    simpa using hall name hname
  rw [readMembers, habsent]
  rfl

variable {seen : List String} {found next a : α} {name : String} {behind : Option Place} {n : Node}
  {rest : Members}

theorem readMembers_member_ok
    (h : (shape.readMembers seen found (.member name behind n rest)).result = .ok a) :
    (shape.isField name = true ∧ name ∉ seen ∧ ∃ next,
      (shape.field name n found).result = .ok next ∧
        (shape.readMembers (name :: seen) next rest).result = .ok a) ∨
      (shape.isField name = false ∧ ∃ next, (shape.other name n found).result = .ok next ∧
        (shape.readMembers seen next rest).result = .ok a) := by
  rw [readMembers] at h
  by_cases hknown : shape.isField name = true
  · rw [if_pos hknown] at h
    by_cases hagain : seen.contains name = true
    · rw [if_pos hagain] at h
      cases h
    · rw [if_neg hagain] at h
      exact .inl ⟨hknown, by simpa using hagain, Reading.andThen_ok h⟩
  · rw [if_neg hknown] at h
    exact .inr ⟨Bool.eq_false_iff.mpr hknown, Reading.andThen_ok h⟩

theorem readMembers_field (hknown : shape.isField name = true) (hnew : name ∉ seen)
    (hnext : (shape.field name n found).result = .ok next) (behind : Option Place)
    (rest : Members) :
    (shape.readMembers seen found (.member name behind n rest)).result =
      (shape.readMembers (name :: seen) next rest).result := by
  have hagain : ¬seen.contains name = true := by simpa using hnew
  rw [readMembers, if_pos hknown, if_neg hagain, Reading.result_andThen hnext]

theorem readMembers_other (hknown : shape.isField name = false)
    (hnext : (shape.other name n found).result = .ok next) (behind : Option Place)
    (rest : Members) :
    (shape.readMembers seen found (.member name behind n rest)).result =
      (shape.readMembers seen next rest).result := by
  rw [readMembers, if_neg (Bool.eq_false_iff.mp hknown), Reading.result_andThen hnext]

end

-- A record is read if every member that it knows is read, whatever was found before it, and none is
-- missing.
theorem readMembers_isOk_iff (accepts : String → Json → Bool)
    (hother : ∀ name (j : Json) found, (shape.other name j.node found).result.isOk = true)
    (hrequired : ∀ name ∈ shape.required, shape.isField name = true)
    {members : List (String × Json)} {seen : List String} {found : α}
    (hnodup : (members.map (·.1)).Nodup) (hseen : ∀ name ∈ members.map (·.1), name ∉ seen)
    (hfield : ∀ member ∈ members, ∀ found,
      (shape.field member.1 member.2.node found).result.isOk = accepts member.1 member.2) :
    (shape.readMembers seen found (Json.memberNodes members)).result.isOk = true ↔
      (∀ member ∈ members, shape.isField member.1 = true → accepts member.1 member.2 = true) ∧
        ∀ name ∈ shape.required, name ∈ seen ∨ name ∈ members.map (·.1) := by
  induction members generalizing seen found with
  | nil =>
      rw [Json.memberNodes, readMembers_close_isOk_iff]
      simp
  | cons member rest ih =>
      obtain ⟨name, j⟩ := member
      obtain ⟨hfree, hrest⟩ := List.nodup_cons.mp hnodup
      have htail := fun member hmem => hfield member (List.mem_cons_of_mem _ hmem)
      have hbehind : ∀ other ∈ rest.map (·.1), other ∉ seen := fun other hmem =>
        hseen other (List.mem_cons_of_mem _ hmem)
      rw [Json.memberNodes, readMembers]
      by_cases hknown : shape.isField name = true
      · have hhead := hfield (name, j) List.mem_cons_self found
        have hnew : ¬seen.contains name = true := by simpa using hseen name List.mem_cons_self
        rw [if_pos hknown, if_neg hnew]
        cases hresult : (shape.field name j.node found).result with
        | error fault =>
            have hno : accepts name j = false := by
              rw [← hhead, hresult]
              rfl
            refine iff_of_false ?_ fun hall => ?_
            · simp [Reading.andThen, hresult, Except.isOk, Except.toBool]
            · exact absurd (hno.symm.trans (hall.1 _ List.mem_cons_self hknown)) (by decide)
        | ok next =>
            have hyes : accepts name j = true := by
              rw [← hhead, hresult]
              rfl
            have hseen' : ∀ other ∈ rest.map (·.1), other ∉ name :: seen := by
              intro other hmem
              rw [List.mem_cons, not_or]
              exact ⟨fun heq => hfree (heq ▸ hmem), hbehind other hmem⟩
            rw [Reading.result_andThen hresult, ih hrest hseen' htail, List.forall_mem_cons]
            simp only [hyes, implies_true, true_and, List.mem_cons, List.map_cons, or_assoc,
              or_left_comm]
      · cases hresult : (shape.other name j.node found).result with
        | error fault =>
            have hread := hother name j found
            simp [hresult, Except.isOk, Except.toBool] at hread
        | ok next =>
            have hne : ∀ required ∈ shape.required, required ≠ name := fun required hmem heq =>
              hknown (heq ▸ hrequired required hmem)
            rw [if_neg hknown, Reading.result_andThen hresult, ih hrest hbehind htail,
              List.forall_mem_cons]
            simp only [hknown, Bool.false_eq_true, false_implies, true_and, List.map_cons,
              List.mem_cons]
            refine and_congr_right fun _ => forall₂_congr fun required hmem => ?_
            rw [or_iff_right (hne required hmem)]

theorem ignoreOther_isOk (name : String) (j : Json) (found : α) :
    (ignoreOther name j.node found).result.isOk = true := by
  rw [ignoreOther, Reading.isOk_andThen fun _ => rfl, Json.ignore_isOk]

-- The members whose values matter to a record, with what they have to be. All required ones are
-- among them.
structure Strict (shape : RecordShape α) (strict : List (String × (Json → Bool))) : Prop where
  other : ∀ name (j : Json) found, (shape.other name j.node found).result.isOk = true
  isField : ∀ entry ∈ strict, shape.isField entry.1 = true
  required : ∀ name ∈ shape.required, name ∈ strict.map (·.1)
  nodup : (strict.map (·.1)).Nodup

theorem Strict.readMembers_isOk {strict : List (String × (Json → Bool))} (h : shape.Strict strict)
    {members : List (String × Json)} {found : α} (hnodup : (members.map (·.1)).Nodup)
    (hfield : ∀ member ∈ members, ∀ found, (shape.field member.1 member.2.node found).result.isOk =
      (strict.lookup member.1).elim true (· member.2)) :
    (shape.readMembers [] found (Json.memberNodes members)).result.isOk =
      strict.all fun entry =>
        (Json.member? entry.1 members).elim (!shape.required.contains entry.1) entry.2 := by
  have hknown : ∀ name ∈ shape.required, shape.isField name = true := by
    intro name hname
    obtain ⟨entry, hentry, rfl⟩ := List.mem_map.mp (h.required name hname)
    exact h.isField entry hentry
  rw [Bool.eq_iff_iff, List.all_eq_true,
    readMembers_isOk_iff (fun name j => (strict.lookup name).elim true (· j)) h.other
      hknown hnodup (by simp) hfield]
  constructor
  · rintro ⟨hread, hthere⟩ ⟨name, p⟩ hentry
    cases hmember : Json.member? name members with
    | none =>
        have habsent : name ∉ shape.required := by
          intro hname
          obtain ⟨⟨_, j⟩, hmem, rfl⟩ := List.mem_map.mp ((hthere name hname).resolve_left (by simp))
          have hsome := (lookup_eq_some_iff hnodup).mpr hmem
          exact absurd (hmember.symm.trans hsome) (by simp)
        simpa using habsent
    | some j =>
        have hmem := (lookup_eq_some_iff hnodup).mp hmember
        have hp := hread (name, j) hmem (h.isField _ hentry)
        rw [(lookup_eq_some_iff h.nodup).mpr hentry] at hp
        exact hp
  · intro hall
    refine ⟨fun member hmem _ => ?_, fun name hname => .inr ?_⟩
    · obtain ⟨name, j⟩ := member
      cases hstrict : strict.lookup name with
      | none => rfl
      | some p =>
          have hp := hall _ ((lookup_eq_some_iff h.nodup).mp hstrict)
          rw [show Json.member? name members = some j from (lookup_eq_some_iff hnodup).mpr hmem] at hp
          exact hp
    · obtain ⟨entry, hentry, rfl⟩ := List.mem_map.mp (h.required name hname)
      have hp := hall entry hentry
      cases hmember : Json.member? entry.1 members with
      | none => simp [hmember, hname] at hp
      | some j => exact List.mem_map.mpr ⟨_, (lookup_eq_some_iff hnodup).mp hmember, rfl⟩

theorem Strict.read_isOk {strict : List (String × (Json → Bool))} (h : shape.Strict strict)
    {j : Json} (hdistinct : j.node.distinct = true)
    (harray : j.isArray = true → shape.positional = false)
    (hfield : ∀ members, j = .object members → ∀ member ∈ members, ∀ found,
      (shape.field member.1 member.2.node found).result.isOk =
        (strict.lookup member.1).elim true (· member.2)) :
    (shape.read j.node).result.isOk = (j.isObject && strict.all fun entry =>
      (j.memberAt? entry.1).elim (!shape.required.contains entry.1) entry.2) := by
  cases j with
  | object members => exact h.readMembers_isOk (Json.names_nodup hdistinct) (hfield members rfl)
  | array items =>
      simp only [Json.node, read, harray rfl]
      rfl
  | _ => rfl

end RecordShape

end Diorama
