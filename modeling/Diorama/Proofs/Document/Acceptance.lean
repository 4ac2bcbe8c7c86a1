import Mathlib.Control.Monad.Basic
import Diorama.Proofs.Document.Envelope
import Diorama.Proofs.Document.Success

namespace Diorama

-- Which values can be read. Nothing else about them matters.

def Assignment.loadable : Json → Bool
  | .object _ => true
  | .array items => items.all fun j => j.hasText "actor" && j.hasText "property"
  | _ => false

def TimelineEvent.loadable (j : Json) : Bool :=
  j.isObject && Json.orNull Assignment.loadable (j.memberAt? "properties")

def Definition.loadable (j : Json) : Bool :=
  j.isObject && Json.orNull (Json.listOf (Json.hasText "id")) (j.memberAt? "actors") &&
    Json.orNull Json.isObject (j.memberAt? "camera") &&
    Json.orNull (Json.listOf TimelineEvent.loadable) (j.memberAt? "timeline") &&
    Json.orNull (Json.listOf (Json.hasText "text")) (j.memberAt? "annotations")

-- Whether no record is written as an array of its members.

def TimelineEvent.spelledOut (j : Json) : Bool :=
  !j.isArray && (j.itemsAt "properties").all (!·.isArray)

def Definition.spelledOut (j : Json) : Bool :=
  !j.isArray && (j.memberAt? "camera").all (!·.isArray) &&
    (j.itemsAt "timeline").all TimelineEvent.spelledOut &&
    (j.itemsAt "annotations").all (!·.isArray)

-- What each record can be read from.

def Annotation.strictMembers : List (String × (Json → Bool)) := [("text", Json.isText)]

theorem Annotation.readField_isOk (name : String) (j : Json) (a : Annotation) :
    (readField name j.node a).result.isOk =
      (strictMembers.lookup name).elim true (· j) := by
  unfold readField
  split <;> simp_all [strictMembers, Table.lookup_cons_eq]

theorem Annotation.strict : recordShape.Strict strictMembers :=
  ⟨RecordShape.ignoreOther_isOk, by decide, by decide, by decide⟩

theorem Annotation.read_isOk {j : Json} (h : j.node.distinct = true) (harray : j.isArray = false) :
    (read j.node).result.isOk = j.hasText "text" := by
  rw [← Json.isObject_and_hasText]
  refine (strict.read_isOk h (by simp [harray]) fun _ _ member _ a =>
    readField_isOk member.1 member.2 a).trans ?_
  simp [strictMembers, recordShape, Json.hasText]

def ActorDefinition.strictMembers : List (String × (Json → Bool)) := [("id", Json.isText)]

theorem ActorDefinition.readField_isOk (name : String) (j : Json) (d : ActorDefinition) :
    (readField name j.node d).result.isOk =
      (strictMembers.lookup name).elim true (· j) := by
  unfold readField
  split <;> simp_all [strictMembers, Table.lookup_cons_eq]

theorem ActorDefinition.strict : recordShape.Strict strictMembers where
  other _ j _ := (Reading.isOk_andThen fun _ => rfl).trans j.json_isOk
  isField := by decide
  required := by decide
  nodup := by decide

theorem ActorDefinition.read_isOk {j : Json} (h : j.node.distinct = true) :
    (read j.node).result.isOk = j.hasText "id" := by
  rw [← Json.isObject_and_hasText]
  refine (strict.read_isOk h (fun _ => rfl) fun _ _ member _ d =>
    readField_isOk member.1 member.2 d).trans ?_
  simp [strictMembers, recordShape, Json.hasText]

theorem CameraDefinition.readField_isOk (name : String) (j : Json) (c : CameraDefinition) :
    (readField name j.node c).result.isOk = true := by
  unfold readField
  split <;> simp

theorem CameraDefinition.strict : recordShape.Strict [] :=
  ⟨RecordShape.ignoreOther_isOk, by decide, by decide, by decide⟩

theorem CameraDefinition.read_isOk {j : Json} (h : j.node.distinct = true)
    (harray : j.isArray = false) : (read j.node).result.isOk = j.isObject :=
  (strict.read_isOk h (by simp [harray]) fun _ _ member _ c =>
    readField_isOk member.1 member.2 c).trans (Bool.and_true _)

theorem CameraDefinition.readOptional_isOk {j : Json} (h : j.node.distinct = true)
    (harray : j.isArray = false) : (readOptional j.node).result.isOk = (j.isNull || j.isObject) := by
  rw [← read_isOk h harray]
  cases j with
  | null => rfl
  | _ => exact Reading.isOk_andThen fun _ => rfl

namespace Assignment

def Parts.strictMembers : List (String × (Json → Bool)) :=
  [("actor", Json.isText), ("property", Json.isText)]

theorem Parts.readField_isOk (name : String) (j : Json) (p : Parts) :
    (readField name j.node p).result.isOk =
      (strictMembers.lookup name).elim true (· j) := by
  unfold readField
  split <;> simp_all [strictMembers, Table.lookup_cons_eq, Json.json_isOk]

theorem Parts.strict : recordShape.Strict strictMembers :=
  ⟨RecordShape.ignoreOther_isOk, by decide, by decide, by decide⟩

theorem ofValue_isOk (key : PropertyKey) (j : Json) : (ofValue key j).result.isOk = true := by
  rw [ofValue]
  split
  · split <;> rfl
  · rfl

theorem ofItem_isOk {j : Json} (h : j.node.distinct = true) (harray : j.isArray = false) :
    (ofItem j.node).result.isOk = (j.hasText "actor" && j.hasText "property") := by
  rw [ofItem, Reading.isOk_andThen fun p => ofValue_isOk _ _, ← Json.isObject_and_hasText "actor",
    Bool.and_assoc]
  refine (Parts.strict.read_isOk h (by simp [harray]) fun _ _ member _ p =>
    Parts.readField_isOk member.1 member.2 p).trans ?_
  simp [Parts.strictMembers, Parts.recordShape, Json.hasText]

theorem ofMembers_isOk (members : List (String × Json)) :
    (ofMembers (Json.memberNodes members)).result.isOk = true := by
  induction members with
  | nil => rfl
  | cons head rest ih =>
      obtain ⟨name, j⟩ := head
      rw [Json.memberNodes, ofMembers, Reading.isOk_andThen, Json.json_isOk]
      intro j
      split
      · rw [Reading.isOk_andThen, ofValue_isOk]
        intro a
        rw [Reading.isOk_andThen fun _ => rfl, ih]
      · exact (Reading.isOk_andThen fun _ => ih).trans rfl

theorem readAll_isOk {j : Json} (h : j.node.distinct = true)
    (harray : ∀ items, j = .array items → ∀ item ∈ items, item.isArray = false) :
    (readAll j.node).result.isOk = (j.isNull || loadable j) := by
  cases j with
  | object members => exact ofMembers_isOk members
  | array items =>
      exact Json.itemsOf_isOk fun item hitem =>
        ofItem_isOk (Json.distinct_of_mem_items h hitem) (harray items rfl item hitem)
  | _ => rfl

end Assignment

def TimelineEvent.strictMembers : List (String × (Json → Bool)) :=
  [("properties", fun j => j.isNull || Assignment.loadable j)]

theorem TimelineEvent.readField_isOk (name : String) (j : Json) (e : TimelineEvent)
    (hproperties : name = "properties" →
      (Assignment.readAll j.node).result.isOk = (j.isNull || Assignment.loadable j)) :
    (readField name j.node e).result.isOk = (strictMembers.lookup name).elim true (· j) := by
  unfold readField
  split <;> simp_all [strictMembers, Table.lookup_cons_eq]

theorem TimelineEvent.strict : recordShape.Strict strictMembers :=
  ⟨RecordShape.ignoreOther_isOk, by decide, by decide, by decide⟩

theorem TimelineEvent.read_isOk {j : Json} (h : j.node.distinct = true)
    (hspelled : spelledOut j = true) : (read j.node).result.isOk = loadable j := by
  simp only [spelledOut, Bool.and_eq_true, Bool.not_eq_true', List.all_eq_true] at hspelled
  refine (strict.read_isOk h (by simp [hspelled.1]) ?_).trans ?_
  · rintro members rfl member hmember e
    refine readField_isOk member.1 member.2 e fun hname => ?_
    refine Assignment.readAll_isOk (Json.distinct_of_mem_members h hmember) ?_
    intro items hitems item hitem
    exact hspelled.2 item (hname ▸ Json.mem_itemsAt (Json.names_nodup h) hmember hitems hitem)
  · simp [strictMembers, recordShape, loadable, Json.orNull]

def Definition.strictMembers : List (String × (Json → Bool)) :=
  [("actors", fun j => j.isNull || j.listOf (Json.hasText "id")),
    ("camera", fun j => j.isNull || j.isObject),
    ("timeline", fun j => j.isNull || j.listOf TimelineEvent.loadable),
    ("annotations", fun j => j.isNull || j.listOf (Json.hasText "text"))]

theorem Definition.readField_isOk (name : String) (j : Json) (d : Definition)
    (hactors : name = "actors" → (j.node.list ActorDefinition.read).result.isOk =
      (j.isNull || j.listOf (Json.hasText "id")))
    (hcamera : name = "camera" →
      (CameraDefinition.readOptional j.node).result.isOk = (j.isNull || j.isObject))
    (htimeline : name = "timeline" → (j.node.list TimelineEvent.read).result.isOk =
      (j.isNull || j.listOf TimelineEvent.loadable))
    (hannotations : name = "annotations" → (j.node.list Annotation.read).result.isOk =
      (j.isNull || j.listOf (Json.hasText "text"))) :
    (readField name j.node d).result.isOk = (strictMembers.lookup name).elim true (· j) := by
  unfold readField
  split <;> simp_all [strictMembers, Table.lookup_cons_eq]

theorem Definition.strict : recordShape.Strict strictMembers :=
  ⟨RecordShape.ignoreOther_isOk, by decide, by decide, by decide⟩

namespace Definition

theorem sanitize_isOk (d : Definition) : d.sanitize.result.isOk = true := by
  rw [sanitize]
  split <;> rfl

theorem read_isOk {j : Json} (h : j.node.distinct = true) (hspelled : spelledOut j = true) :
    (read j.node).result.isOk = loadable j := by
  simp only [spelledOut, Bool.and_eq_true, Bool.not_eq_true', List.all_eq_true] at hspelled
  obtain ⟨⟨⟨harray, hcamera⟩, htimeline⟩, hannotations⟩ := hspelled
  refine (strict.read_isOk h (by simp [harray]) ?_).trans ?_
  · rintro members rfl member hmember d
    have hnodup := Json.names_nodup h
    have hmemberDistinct := Json.distinct_of_mem_members h hmember
    refine readField_isOk member.1 member.2 d (fun hname => ?_) (fun hname => ?_)
      (fun hname => ?_) fun hname => ?_
    · refine Json.list_isOk fun items hitems item hitem => ActorDefinition.read_isOk ?_
      exact Json.distinct_of_mem_items (hitems ▸ hmemberDistinct) hitem
    · rw [← hname, Json.memberAt?_eq hnodup hmember] at hcamera
      exact CameraDefinition.readOptional_isOk hmemberDistinct (by simpa using hcamera)
    · refine Json.list_isOk fun items hitems item hitem => TimelineEvent.read_isOk ?_ ?_
      · exact Json.distinct_of_mem_items (hitems ▸ hmemberDistinct) hitem
      · exact htimeline item (hname ▸ Json.mem_itemsAt hnodup hmember hitems hitem)
    · refine Json.list_isOk fun items hitems item hitem => Annotation.read_isOk ?_ ?_
      · exact Json.distinct_of_mem_items (hitems ▸ hmemberDistinct) hitem
      · exact hannotations item (hname ▸ Json.mem_itemsAt hnodup hmember hitems hitem)
  · simp [strictMembers, recordShape, loadable, Json.orNull, Bool.and_assoc]

-- Which texts a definition can be read from, among those that say a value, repeat no name and spell
-- out their records.
theorem ofText_isOk_iff {text : String} {j : Json} (hparse : Json.parse text = .ok j)
    (hdistinct : (Json.readText .whole text).root.distinct = true)
    (hbare : j.memberAt? envelopeMember = none) (hspelled : spelledOut j = true) :
    (ofText text).result.isOk = true ↔ loadable j = true := by
  have hnode : j.node.distinct = true := by
    rw [← Json.root_bare_of_parse hparse hdistinct, Node.distinct_bare, hdistinct]
  rw [(ofText_agree hparse hdistinct hbare).isOk_eq, Reading.isOk_andThen sanitize_isOk,
    read_isOk hnode hspelled]

-- Nonsense in members that do not matter, and then a missing id.
theorem nonsense_loads :
    let text := "\x7b\"loop\":\x7b\x7d,\"actors\":[\x7b\"id\":\"a\",\"color\":[1]\x7d]," ++
      "\"timeline\":[\x7b\"properties\":[\x7b\"actor\":\"\",\"property\":\"\"\x7d]\x7d]\x7d"
    let j : Json := .object [("loop", .object []),
      ("actors", .array [.object [("id", .string "a"),
        ("color", .array [.number (.integer 1)])]]),
      ("timeline", .array [.object [("properties", .array [.object [("actor", .string ""),
        ("property", .string "")]])]])]
    let bad := "\x7b\"actors\":[\x7b\"ID\":\"a\"\x7d]\x7d"
    let k : Json := .object [("actors", .array [.object [("ID", .string "a")]])]
    Json.parse text = .ok j ∧ (Json.readText .whole text).root.distinct = true ∧
      j.memberAt? envelopeMember = none ∧ spelledOut j = true ∧ loadable j = true ∧
      (ofText text).result.isOk = true ∧
      Json.parse bad = .ok k ∧ loadable k = false ∧ (ofText bad).result.isOk = false := by
  intro text j bad k
  have hparse : Json.parse text = .ok j := by decide +kernel
  have hdistinct : (Json.readText .whole text).root.distinct = true := by decide +kernel
  have hbare : j.memberAt? envelopeMember = none := by decide +kernel
  have hspelled : spelledOut j = true := by decide +kernel
  have hload : loadable j = true := by decide +kernel
  have hparse' : Json.parse bad = .ok k := by decide +kernel
  have hload' : loadable k = false := by decide +kernel
  have hiff := ofText_isOk_iff hparse hdistinct hbare hspelled
  have hiff' := ofText_isOk_iff hparse' (by decide +kernel) (by decide +kernel) (by decide +kernel)
  refine ⟨hparse, hdistinct, hbare, hspelled, hload, hiff.mpr hload, hparse', hload', ?_⟩
  rw [Bool.eq_false_iff, ne_eq, hiff', hload']
  exact Bool.false_ne_true

end Definition

end Diorama
