import Diorama.Notice
import Diorama.Json.Reader

-- Reading what a document says. A reading either gives a result or a fault, and in both cases it
-- tells what was remarked on up to there, in the order of the document.

namespace Diorama

structure Reading (α : Type) where
  notices : List Notice
  result : Except DocumentFault α

namespace Reading

def ok (a : α) : Reading α := ⟨[], .ok a⟩

def fail (fault : DocumentFault) : Reading α := ⟨[], .error fault⟩

def remark (notice : Notice) : Reading Unit := ⟨[notice], .ok ()⟩

-- What comes later is read only if nothing was wrong so far.
def andThen (r : Reading α) (f : α → Reading β) : Reading β :=
  match r.result with
  | .error fault => ⟨r.notices, .error fault⟩
  | .ok a => ⟨r.notices ++ (f a).notices, (f a).result⟩

instance : Monad Reading where
  pure := ok
  bind := andThen

def ofText (m : Except Misread α) : Reading α :=
  match m with
  | .ok a => ok a
  | .error m => fail m.toDocumentFault

-- A shape without a place: what is wrong with a value that was already read.
def ofShape (m : Except ShapeFault α) : Reading α :=
  match m with
  | .ok a => ok a
  | .error fault => fail (.shape fault none)

end Reading

def Json.found : Json → Found
  | .null => .null
  | .bool b => .bool b
  | .number n => .number n
  | .string s => .string s
  | .array _ => .sequence
  | .object _ => .map

namespace Node

-- The complaint about a value of the wrong type. It points behind a scalar and in front of a
-- container; a value whose text is faulty has that fault instead.
def wrongType (expected : String) : Node → Reading α
  | .null stop => .fail (.shape (.wrongType .null expected) stop)
  | .bool b stop => .fail (.shape (.wrongType (.bool b) expected) stop)
  | .number n stop => .fail (.shape (.wrongType (.number n) expected) stop)
  | .string s stop => .fail (.shape (.wrongType (.string s) expected) stop)
  | .array start _ => .fail (.shape (.wrongType .sequence expected) start)
  | .object start _ => .fail (.shape (.wrongType .map expected) start)
  | .skipped => .fail (.shape (.wrongType .null expected) none)
  | .broken m => .fail m.toDocumentFault

def json (n : Node) : Reading Json := .ofText n.value

def text : Node → Reading String
  | .string s _ => .ok s
  | n => n.wrongType "a string"

-- A value that nobody needs; only its text has to be right.
def ignore : Node → Reading Unit
  | .broken m => .fail m.toDocumentFault
  | _ => .ok ()

def itemsOf (read : Node → Reading α) : Items → Reading (List α)
  | .close _ => .ok []
  | .broken m => .fail m.toDocumentFault
  | .item _ n rest => (read n).andThen fun a => (itemsOf read rest).andThen fun l => .ok (a :: l)
termination_by structural items => items

-- The same, where `null` stands for an empty list.
def list (read : Node → Reading α) : Node → Reading (List α)
  | .null _ => .ok []
  | .array _ items => itemsOf read items
  | n => n.wrongType "a sequence"

-- A value that may be anything: `null` and whatever cannot be read stand for nothing, the latter
-- with a remark. Only a fault of the text gets through.
def lenient (read : Json → Reading α) (n : Node) : Reading (Option α) :=
  n.json.andThen fun j =>
    if j.isNull then .ok none
    else
      let r := read j
      match r.result with
      | .ok a => ⟨r.notices, .ok (some a)⟩
      | .error fault => ⟨r.notices ++ [.malformedValue j fault], .ok none⟩

-- The number that a value stands for: texts of numbers count.
def numberOf : Json → Option Float
  | .number n => some n.toDouble
  | .string s => Numeral.read? (Text.trim s)
  | _ => none

def finite? (x : Float32) : Option Float32 := if x.isFinite then some x else none

-- A number, or nothing. What is not finite as a single is remarked on like any other nonsense.
def optionalNumber (n : Node) : Reading (Option Float32) :=
  n.json.andThen fun j =>
    if j.isNull then .ok none
    else
      match (numberOf j).bind fun x => finite? (narrow x) with
      | some x => .ok (some x)
      | none => ⟨[.malformedNumber j], .ok none⟩

end Node

-- A record: named members, each read in its own way into a value that starts out blank. Where
-- `positional` says so, an array of the members in their order will do.
structure RecordShape (α : Type) where
  name : String
  fields : List (String × Outline)
  required : List String
  positional : Bool
  blank : α
  field : String → Node → α → Reading α
  other : String → Node → α → Reading α

namespace RecordShape

variable {α : Type} (shape : RecordShape α)

def label : String := "struct " ++ shape.name

def outline : Outline := .record shape.fields

def isField (name : String) : Bool := shape.fields.any (·.1 == name)

def absent? (seen : List String) : Option String := shape.required.find? (!seen.contains ·)

-- Members in the order of the document. A member may come only once.
def readMembers (seen : List String) (found : α) : Members → Reading α
  | .close stop =>
    match shape.absent? seen with
    | some name => .fail (.shape (.missing name) stop)
    | none => .ok found
  | .broken m => .fail m.toDocumentFault
  | .member name behind n rest =>
    if shape.isField name then
      if seen.contains name then .fail (.shape (.repeated name) behind)
      else (shape.field name n found).andThen fun found => readMembers (name :: seen) found rest
    else (shape.other name n found).andThen fun found => readMembers seen found rest
termination_by structural members => members

-- What is left in an array when every member has been read.
def readEnd (taken : Nat) (found : α) : Items → Reading α
  | .close _ => .ok found
  | .broken m =>
    match m.fault with
    | .endInList | .trailingComma => .fail m.toDocumentFault
    | _ => .fail (.text .trailingCharacters m.place)
  | .item (some start) _ _ => .fail (.text .trailingCharacters start)
  | .item none _ rest => .fail (.shape (.tooLong (taken + 1 + rest.length)) none)

def lengthLabel : String := shape.label ++ " with " ++ toString shape.fields.length ++ " elements"

-- Members by position; those that are missing at the end keep their blanks if they may.
def readPositions (index : Nat) (found : α) : List String → Items → Reading α
  | [], items => readEnd index found items
  | name :: names, .item _ n rest =>
    (shape.field name n found).andThen fun found => readPositions (index + 1) found names rest
  | _ :: _, .broken m => .fail m.toDocumentFault
  | name :: names, .close stop =>
    match (name :: names).findIdx? shape.required.contains with
    | some ahead => .fail (.shape (.tooShort (index + ahead) shape.lengthLabel) stop)
    | none => .ok found

def read : Node → Reading α
  | .object _ members => shape.readMembers [] shape.blank members
  | .array start items =>
    if shape.positional then shape.readPositions 0 shape.blank (shape.fields.map (·.1)) items
    else (Node.array start items).wrongType shape.label
  | n => n.wrongType shape.label

end RecordShape

def RecordShape.ignoreOther (_ : String) (n : Node) (found : α) : Reading α :=
  n.ignore.andThen fun _ => .ok found

-- A whole text that holds one value and nothing else.
def Reading.document (o : Outline) (read : Node → Reading α) (text : String) : Reading α :=
  let draft := Json.readText o text
  (read draft.root).andThen fun a =>
    match draft.tail with
    | some m => .fail m.toDocumentFault
    | none => .ok a

end Diorama
