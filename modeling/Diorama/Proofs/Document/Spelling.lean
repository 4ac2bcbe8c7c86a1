import Diorama.Proofs.Document.Acceptance

namespace Diorama

namespace PropertyKey

-- Both parts are there, and the actor holds no separator: the key can be told from its text.
structure Plain (k : PropertyKey) : Prop where
  actor_ne : k.actor ≠ ""
  separator_notMem : separator ∉ k.actor.toList
  property_ne : k.property ≠ ""

instance : DecidablePred Plain := fun k =>
  decidable_of_iff (k.actor ≠ "" ∧ separator ∉ k.actor.toList ∧ k.property ≠ "")
    ⟨fun ⟨hactor, hseparator, hproperty⟩ => ⟨hactor, hseparator, hproperty⟩,
      fun h => ⟨h.actor_ne, h.separator_notMem, h.property_ne⟩⟩

theorem splitFirst_append {before : List Char} (h : separator ∉ before) (behind : List Char) :
    splitFirst (before ++ separator :: behind) = some (before, behind) := by
  induction before with
  | nil => simp [splitFirst]
  | cons c before ih =>
      rw [List.mem_cons, not_or] at h
      rw [List.cons_append, splitFirst, if_neg (Ne.symm h.1), ih h.2]
      rfl

theorem eq_of_splitFirst {l before behind : List Char} (h : splitFirst l = some (before, behind)) :
    l = before ++ separator :: behind ∧ separator ∉ before := by
  induction l generalizing before with
  | nil => cases h
  | cons c rest ih =>
      rw [splitFirst] at h
      by_cases hc : c = separator
      · rw [if_pos hc, Option.some.injEq, Prod.mk.injEq] at h
        obtain ⟨rfl, rfl⟩ := h
        exact ⟨congrArg (· :: rest) hc, List.not_mem_nil⟩
      · rw [if_neg hc, Option.map_eq_some_iff] at h
        obtain ⟨⟨front, back⟩, hrest, heq⟩ := h
        obtain ⟨rfl, rfl⟩ : c :: front = before ∧ back = behind := Prod.mk.inj heq
        obtain ⟨rfl, hfront⟩ := ih hrest
        exact ⟨rfl, by simpa [Ne.symm hc] using hfront⟩

theorem toList_text (k : PropertyKey) :
    k.text.toList = k.actor.toList ++ separator :: k.property.toList := by
  simp [text]

theorem parse?_eq_some_iff {name : String} {k : PropertyKey} :
    parse? name = some k ↔ k.text = name ∧ k.Plain := by
  constructor
  · intro h
    rw [parse?] at h
    split at h
    · rename_i actor property hsplit
      obtain ⟨hname, hactor⟩ := eq_of_splitFirst hsplit
      by_cases hempty : actor.isEmpty || property.isEmpty
      · simp [hempty] at h
      · rw [if_neg hempty, Option.some.injEq] at h
        subst h
        simp only [Bool.or_eq_true, List.isEmpty_iff, not_or] at hempty
        refine ⟨String.toList_injective ?_, ?_, ?_, ?_⟩
        · rw [toList_text, hname, String.toList_ofList, String.toList_ofList]
        · simpa using hempty.1
        · rwa [String.toList_ofList]
        · simpa using hempty.2
    · cases h
  · rintro ⟨rfl, hactor, hseparator, hproperty⟩
    rw [parse?, toList_text, splitFirst_append hseparator]
    have hactor' : k.actor.toList.isEmpty = false := by simpa using hactor
    have hproperty' : k.property.toList.isEmpty = false := by simpa using hproperty
    simp [hactor', hproperty']

-- A text that is the text of a key: something stands on each side of its first separator.
def IsText (name : String) : Prop := ∃ k : PropertyKey, k.text = name ∧ k.Plain

theorem isSome_parse?_iff (name : String) : (parse? name).isSome ↔ IsText name := by
  rw [Option.isSome_iff_exists]
  exact exists_congr fun k => parse?_eq_some_iff

instance : DecidablePred IsText := fun name => decidable_of_iff _ (isSome_parse?_iff name)

theorem parse?_text_eq_some_iff (k : PropertyKey) : parse? k.text = some k ↔ k.Plain := by
  rw [parse?_eq_some_iff]
  exact and_iff_right rfl

-- Keys go into text and come back exactly if both parts are there and the actor holds no separator.
-- So what is read says the text it was read from, and no two such keys have the same text.
theorem keys_round_trip :
    (∀ name k, parse? name = some k →
        k.text = name ∧ k.actor ≠ "" ∧ '_' ∉ k.actor.toList ∧ k.property ≠ "") ∧
      (∀ k, parse? k.text = some k ↔
        k.actor ≠ "" ∧ '_' ∉ k.actor.toList ∧ k.property ≠ "") ∧
      ∀ k k' : PropertyKey, k.Plain → k'.Plain → k.text = k'.text → k = k' := by
  refine ⟨fun name k h => ?_, fun k => ?_, fun k k' h h' htext => ?_⟩
  · obtain ⟨htext, hplain⟩ := parse?_eq_some_iff.mp h
    exact ⟨htext, hplain.actor_ne, hplain.separator_notMem, hplain.property_ne⟩
  · rw [parse?_text_eq_some_iff]
    exact ⟨fun h => ⟨h.actor_ne, h.separator_notMem, h.property_ne⟩,
      fun ⟨hactor, hseparator, hproperty⟩ => ⟨hactor, hseparator, hproperty⟩⟩
  · have hread := (parse?_text_eq_some_iff k).mpr h
    have hread' := (parse?_text_eq_some_iff k').mpr h'
    rw [htext, hread'] at hread
    exact (Option.some.inj hread).symm

-- An actor whose id holds the separator is not reached by the text of its key.
example : parse? (text ⟨"red_ball", "position"⟩) = some ⟨"red", "ball_position"⟩ := by decide

end PropertyKey

-- What the text of an object has as members, each with its value, if nothing is wrong with it.
inductive Members.Spells : Members → List (String × Json) → Prop where
  | close (stop : Option Place) : Spells (.close stop) []
  | member {name : String} {behind : Option Place} {n : Node} {rest : Members} {j : Json}
      {entries : List (String × Json)} (hvalue : n.value = .ok j) (hrest : rest.Spells entries) :
      Spells (.member name behind n rest) ((name, j) :: entries)

-- What the text of a list has as items, one by one.
inductive Items.Spells {α : Type} (spells : Node → α → Prop) : Items → List α → Prop where
  | close (stop : Option Place) : Spells spells (.close stop) []
  | item {start : Option Place} {n : Node} {rest : Items} {a : α} {l : List α} (hitem : spells n a)
      (hrest : rest.Spells spells l) : Spells spells (.item start n rest) (a :: l)

def Members.lookup (name : String) : Members → Option Node
  | .member key _ n rest => if key = name then some n else rest.lookup name
  | _ => none

namespace Node

variable {n : Node} {j : Json}

theorem json_result (h : n.value = .ok j) : n.json.result = .ok j := by
  rw [json, h]
  rfl

theorem text_result {s : String} (h : n.value = .ok (.string s)) : n.text.result = .ok s := by
  cases n with
  | string =>
      cases h
      rfl
  | array _ items => cases hitems : values items <;> simp [value, hitems, Except.map] at h
  | object _ members =>
      cases hmembers : memberValues members [] <;> simp [value, hmembers, Except.map] at h
  | _ => cases h

theorem ignore_result (h : n.value = .ok j) : n.ignore.result = .ok () := by
  cases n <;> first | rfl | cases h

-- A lenient reader reads everything.

theorem exists_lenient_result {α : Type} (read : Json → Reading α) (h : n.value = .ok j) :
    ∃ o, (n.lenient read).result = .ok o := by
  rw [lenient, Reading.result_andThen (json_result h)]
  split
  · exact ⟨none, rfl⟩
  · cases hread : (read j).result with
    | ok a => exact ⟨some a, by simp [hread]⟩
    | error fault => exact ⟨none, by simp [hread]⟩

theorem exists_optionalNumber_result (h : n.value = .ok j) :
    ∃ o, n.optionalNumber.result = .ok o := by
  rw [optionalNumber, Reading.result_andThen (json_result h)]
  split
  · exact ⟨none, rfl⟩
  · split
    · exact ⟨_, rfl⟩
    · exact ⟨none, rfl⟩

theorem itemsOf_result {α β : Type} {read : Node → Reading β} {spells : Node → α → Prop}
    {f : α → β} (hread : ∀ n a, spells n a → (read n).result = .ok (f a)) {items : Items}
    {l : List α} (h : items.Spells spells l) : (itemsOf read items).result = .ok (l.map f) := by
  induction h with
  | close => rfl
  | item hitem _ ih =>
      rw [itemsOf, Reading.result_andThen (hread _ _ hitem), Reading.result_andThen ih]
      rfl

end Node

-- Names that are new to a record, each once.
structure RecordShape.Fresh (seen names : List String) : Prop where
  nodup : names.Nodup
  unseen : ∀ name ∈ names, name ∉ seen

namespace RecordShape.Fresh

variable {seen names : List String} {name : String}

theorem of_nodup (h : names.Nodup) : Fresh [] names := ⟨h, fun _ _ => List.not_mem_nil⟩

theorem head_unseen (h : Fresh seen (name :: names)) : name ∉ seen :=
  h.unseen name List.mem_cons_self

theorem head_notMem (h : Fresh seen (name :: names)) : name ∉ names :=
  (List.nodup_cons.mp h.nodup).1

theorem tail (h : Fresh seen (name :: names)) : Fresh seen names :=
  ⟨(List.nodup_cons.mp h.nodup).2, fun other hmem => h.unseen other (List.mem_cons_of_mem _ hmem)⟩

theorem next (h : Fresh seen (name :: names)) : Fresh (name :: seen) names := by
  refine ⟨h.tail.nodup, fun other hmem => ?_⟩
  rw [List.mem_cons, not_or]
  exact ⟨fun heq => h.head_notMem (heq ▸ hmem), h.tail.unseen other hmem⟩

end RecordShape.Fresh

namespace Assignment

-- The assignment of a value, whatever the value is.
def ofKey (key : PropertyKey) (j : Json) : Assignment :=
  ⟨key, (PropertyChange.ofValue? key.property j).getD .ignored⟩

theorem ofValue_result (key : PropertyKey) (j : Json) :
    (ofValue key j).result = .ok (ofKey key j) := by
  rw [ofValue, ofKey]
  by_cases hsupported : PropertyChange.isSupported key.property = true
  · rw [if_pos hsupported]
    cases PropertyChange.ofValue? key.property j <;> rfl
  · have hnone : PropertyChange.ofValue? key.property j = none := by
      simp only [PropertyChange.isSupported, Bool.or_eq_true, beq_iff_eq, not_or] at hsupported
      obtain ⟨⟨horbit, hrotation⟩, hposition⟩ := hsupported
      rw [PropertyChange.ofValue?, if_neg horbit, if_neg hrotation, if_neg hposition]
    rw [if_neg hsupported, hnone]
    rfl

theorem ofMembers_result {members : Members} {entries : List (String × Json)}
    (h : members.Spells entries) :
    (ofMembers members).result = .ok (entries.filterMap fun entry =>
      (PropertyKey.parse? entry.1).map (ofKey · entry.2)) := by
  induction h with
  | close => rfl
  | @member name behind n rest j entries hvalue _ ih =>
      rw [ofMembers, Reading.result_andThen (Node.json_result hvalue), List.filterMap_cons]
      cases PropertyKey.parse? name with
      | none => exact (Reading.result_andThen rfl).trans ih
      | some key =>
          simp only [Option.map_some]
          rw [Reading.result_andThen (ofValue_result key j), Reading.result_andThen ih]
          rfl

namespace Parts

def key (p : Parts) : PropertyKey := ⟨p.actor, p.property⟩

-- As a member of an object: the text of the key, and the value.
def entry (p : Parts) : String × Json := (p.key.text, p.value)

-- As the members of an object of its own, in any order. A value that is not there is null.
structure SpeltBy (p : Parts) (entries : List (String × Json)) : Prop where
  nodup : (entries.map (·.1)).Nodup
  actor : entries.lookup "actor" = some (.string p.actor)
  property : entries.lookup "property" = some (.string p.property)
  value : (entries.lookup "value").getD .null = p.value

-- A text that an assignment has to have: it was read before, or it is still to come.
def Due (seen : List String) (name : String) (entries : List (String × Json))
    (found wanted : String) : Prop :=
  name ∈ seen ∧ found = wanted ∨ entries.lookup name = some (.string wanted)

namespace Due

variable {seen : List String} {name other found wanted : String} {j : Json}
  {entries : List (String × Json)}

theorem eq_string (h : Due seen name ((name, j) :: entries) found wanted) (hnew : name ∉ seen) :
    j = .string wanted := by
  have hlookup := h.resolve_left fun hread => hnew hread.1
  rwa [Table.lookup_cons_eq, if_pos rfl, Option.some.injEq] at hlookup

theorem next (h : Due seen name ((other, j) :: entries) found wanted) (hne : other ≠ name) :
    Due seen name entries found wanted := by
  rwa [Due, Table.lookup_cons_eq, if_neg hne.symm] at h

theorem read (h : Due seen name entries found wanted) (other : String) :
    Due (other :: seen) name entries found wanted :=
  h.imp_left (And.imp_left (List.mem_cons_of_mem other))

theorem of_read : Due (name :: seen) name entries wanted wanted := .inl ⟨List.mem_cons_self, rfl⟩

end Due

theorem readMembers_result {ms : Members} {entries : List (String × Json)} (h : ms.Spells entries)
    {seen : List String} (hfresh : RecordShape.Fresh seen (entries.map (·.1))) {p q : Parts}
    (hactor : Due seen "actor" entries p.actor q.actor)
    (hproperty : Due seen "property" entries p.property q.property)
    (hvalue : (entries.lookup "value").getD p.value = q.value) :
    (recordShape.readMembers seen p ms).result = .ok q := by
  induction h generalizing seen p with
  | close stop =>
      obtain ⟨hactor, hactor'⟩ := hactor.resolve_right (by simp)
      obtain ⟨hproperty, hproperty'⟩ := hproperty.resolve_right (by simp)
      have hpq : p = q := by
        cases p
        cases q
        simp_all
      rw [hpq]
      refine RecordShape.readMembers_close (fun name hname => ?_) q stop
      rcases List.mem_pair.mp hname with rfl | rfl
      · exact hactor
      · exact hproperty
  | @member name behind n rest j entries hn _ ih =>
      replace hfresh : RecordShape.Fresh seen (name :: entries.map (·.1)) := hfresh
      have hnew := hfresh.head_unseen
      rw [Table.lookup_cons_eq] at hvalue
      by_cases ha : name = "actor"
      · subst ha
        obtain rfl := hactor.eq_string hnew
        rw [RecordShape.readMembers_field (by decide) hnew
          (Reading.bind_pure_of_ok (Node.text_result hn) fun s => { p with actor := s })]
        exact ih hfresh.next .of_read ((hproperty.next (by decide)).read _) hvalue
      by_cases hp : name = "property"
      · subst hp
        obtain rfl := hproperty.eq_string hnew
        rw [RecordShape.readMembers_field (by decide) hnew
          (Reading.bind_pure_of_ok (Node.text_result hn) fun s => { p with property := s })]
        exact ih hfresh.next ((hactor.next ha).read _) .of_read hvalue
      by_cases hv : name = "value"
      · subst hv
        have hnone : entries.lookup "value" = none := by
          rw [List.lookup_eq_none_iff]
          intro entry hentry
          have hne : entry.1 ≠ "value" := fun heq =>
            hfresh.head_notMem (heq ▸ List.mem_map_of_mem hentry)
          simpa using hne.symm
        rw [if_pos rfl, Option.getD_some] at hvalue
        rw [RecordShape.readMembers_field (by decide) hnew
          (Reading.bind_pure_of_ok (Node.json_result hn) fun j => { p with value := j })]
        exact ih hfresh.next ((hactor.next ha).read _) ((hproperty.next hp).read _) (by rwa [hnone])
      · rw [if_neg (Ne.symm hv)] at hvalue
        have hother : recordShape.isField name = false := by
          simp [RecordShape.isField, recordShape, Ne.symm ha, Ne.symm hp, Ne.symm hv]
        rw [RecordShape.readMembers_other hother (Reading.result_andThen (Node.ignore_result hn))]
        exact ih hfresh.tail (hactor.next ha) (hproperty.next hp) hvalue

-- An item of a list that spells out an assignment.
def Itemized (n : Node) (p : Parts) : Prop :=
  ∃ start ms entries, n = .object start ms ∧ ms.Spells entries ∧ p.SpeltBy entries

theorem ofItem_result {n : Node} {p : Parts} (h : Itemized n p) :
    (ofItem n).result = .ok (ofKey p.key p.value) := by
  obtain ⟨start, ms, entries, rfl, hspells, hp⟩ := h
  have hread : (recordShape.read (.object start ms)).result = .ok p :=
    readMembers_result hspells (.of_nodup hp.nodup) (.inr hp.actor) (.inr hp.property) hp.value
  rw [ofItem, Reading.result_andThen hread]
  exact ofValue_result p.key p.value

end Parts

-- Members whose names are keys make an assignment each.
theorem filterMap_entries {parts : List Parts} (h : ∀ p ∈ parts, p.key.Plain) :
    ((parts.map Parts.entry).filterMap fun entry =>
      (PropertyKey.parse? entry.1).map (ofKey · entry.2)) =
      parts.map fun p => ofKey p.key p.value := by
  rw [List.filterMap_map, ← List.filterMap_eq_map]
  apply List.filterMap_congr
  intro p hp
  have hkey := PropertyKey.parse?_eq_some_iff.mpr ⟨rfl, h p hp⟩
  simp [Parts.entry, hkey]

theorem forall₂_filterMap (entries : List (String × Json)) :
    List.Forall₂ (fun entry a => a.key.text = entry.1 ∧ a.key.Plain ∧ a = ofKey a.key entry.2)
      (entries.filter fun entry => PropertyKey.IsText entry.1)
      (entries.filterMap fun entry => (PropertyKey.parse? entry.1).map (ofKey · entry.2)) := by
  induction entries with
  | nil => exact .nil
  | cons entry rest ih =>
      have hname := PropertyKey.isSome_parse?_iff entry.1
      rw [List.filter_cons, List.filterMap_cons]
      cases hparse : PropertyKey.parse? entry.1 with
      | none =>
          have hno : ¬PropertyKey.IsText entry.1 := by simp [← hname, hparse]
          rw [if_neg (by simpa using hno)]
          exact ih
      | some key =>
          have hyes : PropertyKey.IsText entry.1 := by simp [← hname, hparse]
          obtain ⟨htext, hplain⟩ := PropertyKey.parse?_eq_some_iff.mp hparse
          rw [if_pos (decide_eq_true hyes)]
          exact .cons ⟨htext, hplain, rfl⟩ ih

end Assignment

namespace TimelineEvent

theorem readField_properties {n : Node} {l : List Assignment}
    (h : (Assignment.readAll n).result = .ok l) (e : TimelineEvent) :
    (readField "properties" n e).result = .ok { e with properties := l } := by
  have hbind := Reading.bind_pure_of_ok h fun l => { e with properties := l }
  exact hbind

-- The other members of an event are read whatever their values are, and leave the properties alone.
theorem readField_of_ne {name : String} (hname : name ≠ "properties") {n : Node} {j : Json}
    (h : n.value = .ok j) (e : TimelineEvent) :
    ∃ e', (readField name n e).result = .ok e' ∧ e'.properties = e.properties := by
  obtain ⟨number, hnumber⟩ := Node.exists_optionalNumber_result h
  obtain ⟨easing, heasing⟩ : ∃ o, n.easing.result = .ok o := Node.exists_lenient_result _ h
  unfold readField
  split
  · exact ⟨_, Reading.bind_pure_of_ok hnumber _, rfl⟩
  · exact ⟨_, Reading.bind_pure_of_ok hnumber _, rfl⟩
  · exact ⟨_, Reading.bind_pure_of_ok heasing _, rfl⟩
  · exact absurd rfl hname
  · exact ⟨e, rfl, rfl⟩

theorem readMembers_properties {ms : Members} {entries : List (String × Json)}
    (h : ms.Spells entries) {seen : List String}
    (hfresh : RecordShape.Fresh seen (entries.map (·.1))) {l : List Assignment} {e : TimelineEvent}
    (hproperties : "properties" ∈ seen ∧ e.properties = l ∨
      ∃ n, ms.lookup "properties" = some n ∧ (Assignment.readAll n).result = .ok l) :
    ∃ e', (recordShape.readMembers seen e ms).result = .ok e' ∧ e'.properties = l := by
  induction h generalizing seen e with
  | close stop =>
      have hdone := hproperties.resolve_right fun ⟨_, hlookup, _⟩ => nomatch hlookup
      exact ⟨e, RecordShape.readMembers_close (by simp [recordShape]) e stop, hdone.2⟩
  | @member name behind n rest j entries hn _ ih =>
      replace hfresh : RecordShape.Fresh seen (name :: entries.map (·.1)) := hfresh
      have hnew := hfresh.head_unseen
      rw [Members.lookup] at hproperties
      by_cases hname : name = "properties"
      · subst hname
        obtain ⟨_, hlookup, hread⟩ := hproperties.resolve_left fun h => hnew h.1
        rw [if_pos rfl, Option.some.injEq] at hlookup
        subst hlookup
        rw [RecordShape.readMembers_field (by decide) hnew (readField_properties hread e)]
        exact ih hfresh.next (.inl ⟨List.mem_cons_self, rfl⟩)
      · rw [if_neg hname] at hproperties
        by_cases hfield : recordShape.isField name = true
        · obtain ⟨e', hread, hsame⟩ := readField_of_ne hname hn e
          rw [RecordShape.readMembers_field hfield hnew hread]
          exact ih hfresh.next (hproperties.imp_left fun h =>
            ⟨List.mem_cons_of_mem _ h.1, hsame.trans h.2⟩)
        · rw [RecordShape.readMembers_other (Bool.eq_false_iff.mpr hfield)
            (Reading.result_andThen (Node.ignore_result hn))]
          exact ih hfresh.tail hproperties

-- An event in a text, with what stands there for its properties. The text is in order, and no
-- member comes twice.
def WrittenWith (event properties : Node) : Prop :=
  ∃ start ms entries, event = .object start ms ∧ ms.Spells entries ∧
    (entries.map (·.1)).Nodup ∧ ms.lookup "properties" = some properties

theorem read_writtenWith {event properties : Node} (h : WrittenWith event properties)
    {l : List Assignment} (hread : (Assignment.readAll properties).result = .ok l) :
    ∃ e, (read event).result = .ok e ∧ e.properties = l := by
  obtain ⟨start, ms, entries, rfl, hspells, hnodup, hlookup⟩ := h
  exact readMembers_properties hspells (.of_nodup hnodup) (.inr ⟨properties, hlookup, hread⟩)

-- The two spellings of the properties of an event mean the same, whatever else the event has and
-- whatever the values are. In an object every member makes one assignment whose name has something
-- on each side of its first separator, and no other does.
theorem spellings_agree :
    (∀ (parts : List Assignment.Parts) (flat : Members) (items : Items),
      (∀ p ∈ parts, p.key.Plain) → flat.Spells (parts.map Assignment.Parts.entry) →
      items.Spells Assignment.Parts.Itemized parts →
      ∀ (start start' : Option Place) (event event' : Node),
        WrittenWith event (.object start flat) → WrittenWith event' (.array start' items) →
        ∃ e e', (read event).result = .ok e ∧ (read event').result = .ok e' ∧
          e.properties = e'.properties ∧
          e.properties = parts.map fun p => Assignment.ofKey p.key p.value) ∧
    ∀ (members : Members) (entries : List (String × Json)), members.Spells entries →
      ∀ (start : Option Place) (event : Node), WrittenWith event (.object start members) →
        ∃ e, (read event).result = .ok e ∧
          List.Forall₂ (fun entry a => a.key.text = entry.1 ∧ a.key.Plain ∧
              a = Assignment.ofKey a.key entry.2)
            (entries.filter fun entry => PropertyKey.IsText entry.1) e.properties := by
  refine ⟨fun parts flat items hplain hflat hitems start start' event event' hevent hevent' => ?_,
    fun members entries hmembers start event hevent => ?_⟩
  · have hread := Assignment.ofMembers_result hflat
    rw [Assignment.filterMap_entries hplain] at hread
    obtain ⟨e, he, hproperties⟩ := read_writtenWith hevent hread
    obtain ⟨e', he', hproperties'⟩ := read_writtenWith hevent'
      (Node.itemsOf_result (f := fun p => Assignment.ofKey p.key p.value)
        (fun _ _ h => Assignment.Parts.ofItem_result h) hitems)
    exact ⟨e, e', he, he', hproperties.trans hproperties'.symm, hproperties⟩
  · obtain ⟨e, he, hproperties⟩ := read_writtenWith hevent (Assignment.ofMembers_result hmembers)
    exact ⟨e, he, hproperties ▸ Assignment.forall₂_filterMap entries⟩

-- Three assignments in both spellings, one of them without a value in the list, and an object with
-- one member that makes an assignment among others that do not.
theorem earth_moon_spellings_agree :
    let target : Json := .array [.number (.integer 1), .number (.integer 2), .number (.integer 3)]
    let event : Json := .object [("time", .number (.integer 1)), ("properties", .object
      [("earth_orbit", .number (.integer 90)), ("moon_spin_rate", .null),
        ("earth_position", target)])]
    let event' : Json := .object [("properties", .array
      [.object [("actor", .string "earth"), ("property", .string "orbit"),
          ("value", .number (.integer 90))],
        .object [("property", .string "spin_rate"), ("actor", .string "moon")],
        .object [("actor", .string "earth"), ("property", .string "position"),
          ("value", target)]])]
    let mixed : Json := .object [("properties", .object
      [("_orbit", target), ("earth_", target), ("orbit", target), ("earth_orbit_speed", target)])]
    (∃ e e', (read event.node).result = .ok e ∧ (read event'.node).result = .ok e' ∧
      e.properties = e'.properties ∧
      e.properties = [⟨⟨"earth", "orbit"⟩, .orbit 90⟩, ⟨⟨"moon", "spin_rate"⟩, .ignored⟩,
        ⟨⟨"earth", "position"⟩, .position ⟨1, 2, 3⟩⟩]) ∧
      ∃ e, (read mixed.node).result = .ok e ∧
        ∃ a, e.properties = [a] ∧ a.key.text = "earth_orbit_speed" := by
  intro target event event' mixed
  let parts : List Assignment.Parts := [⟨"earth", "orbit", .number (.integer 90)⟩,
    ⟨"moon", "spin_rate", .null⟩, ⟨"earth", "position", target⟩]
  have hplain : ∀ p ∈ parts, p.key.Plain := by decide
  have hentries : parts.map Assignment.Parts.entry = [("earth_orbit", .number (.integer 90)),
      ("moon_spin_rate", .null), ("earth_position", target)] := by
    decide +kernel
  have hmade : (parts.map fun p => Assignment.ofKey p.key p.value) =
      [⟨⟨"earth", "orbit"⟩, .orbit 90⟩, ⟨⟨"moon", "spin_rate"⟩, .ignored⟩,
        ⟨⟨"earth", "position"⟩, .position ⟨1, 2, 3⟩⟩] := by
    decide +kernel
  have hflat : (Json.memberNodes [("earth_orbit", .number (.integer 90)), ("moon_spin_rate", .null),
      ("earth_position", target)]).Spells (parts.map Assignment.Parts.entry) := by
    rw [hentries]
    exact .member rfl (.member rfl (.member rfl (.close none)))
  have hevent : WrittenWith event.node (.object none _) :=
    ⟨none, _, _, rfl, .member rfl (.member rfl (.close none)), by decide, rfl⟩
  have hevent' : WrittenWith event'.node (.array none _) :=
    ⟨none, _, _, rfl, .member rfl (.close none), by decide, rfl⟩
  have horbit : Assignment.Parts.Itemized (Json.object [("actor", .string "earth"),
      ("property", .string "orbit"), ("value", .number (.integer 90))]).node
      ⟨"earth", "orbit", .number (.integer 90)⟩ :=
    ⟨none, _, _, rfl, .member rfl (.member rfl (.member rfl (.close none))), by decide, rfl, rfl,
      rfl⟩
  have hspin : Assignment.Parts.Itemized (Json.object [("property", .string "spin_rate"),
      ("actor", .string "moon")]).node ⟨"moon", "spin_rate", .null⟩ :=
    ⟨none, _, _, rfl, .member rfl (.member rfl (.close none)), by decide, rfl, rfl, rfl⟩
  have hposition : Assignment.Parts.Itemized (Json.object [("actor", .string "earth"),
      ("property", .string "position"), ("value", target)]).node ⟨"earth", "position", target⟩ :=
    ⟨none, _, _, rfl, .member rfl (.member rfl (.member rfl (.close none))), by decide, rfl, rfl,
      rfl⟩
  obtain ⟨e, e', he, he', hsame, hproperties⟩ := spellings_agree.1 parts _ _ hplain hflat
    (.item horbit (.item hspin (.item hposition (.close none)))) none none _ _ hevent hevent'
  obtain ⟨e'', he'', hkept⟩ := spellings_agree.2 _ _
    (.member rfl (.member rfl (.member rfl (.member rfl (.close none))))) none mixed.node
    ⟨none, _, _, rfl, .member rfl (.close none), by decide, rfl⟩
  have hone : [("_orbit", target), ("earth_", target), ("orbit", target),
      ("earth_orbit_speed", target)].filter (fun entry => PropertyKey.IsText entry.1) =
      [("earth_orbit_speed", target)] := by
    decide +kernel
  rw [hone] at hkept
  obtain ⟨a, rest, ⟨htext, -, -⟩, hnone, hlist⟩ := List.forall₂_cons_left_iff.mp hkept
  rw [List.forall₂_nil_left_iff.mp hnone] at hlist
  exact ⟨⟨e, e', he, he', hsame, hproperties.trans hmade⟩, e'', he'', a, hlist, htext⟩

end TimelineEvent

end Diorama
