import Diorama.Json.Node
import Diorama.Json.Skip

-- Reading a text into a tree. The reader is told which members are wanted: the others are passed
-- over. Containers may be nested one less than the depth limit.

namespace Diorama

-- Which parts of a document are wanted.
inductive Outline where
  | whole
  | list (item : Outline)
  -- an object of which only these members are wanted, or an array of their values in this order
  | record (members : List (String × Outline))
deriving Inhabited

namespace Outline

def item (index : Nat) : Outline → Outline
  | .whole => .whole
  | .list o => o
  | .record members => ((members[index]?).map (·.2)).getD .whole

def member (name : String) : Outline → Option Outline
  | .record members => members.lookup name
  | _ => some .whole

end Outline

namespace Json

-- A part of the tree and the cursor behind it, or the fault where reading stopped.
structure Reached (α : Type) where
  tree : α
  next : Except Misread Cursor

def Reached.fail (m : Misread) : Reached Node := ⟨.broken m, .error m⟩

def Reached.scalar (tree : Option Place → Node) : Except Misread Cursor → Reached Node
  | .error m => .fail m
  | .ok c => ⟨tree (some c.place), .ok c⟩

def Reached.ofStep (tree : α → Option Place → Node) : Step α → Reached Node
  | .error m => .fail m
  | .ok (a, c) => ⟨tree a (some c.place), .ok c⟩

-- The place behind a name, blanks and a closing brace: there a repeated name is complained about.
def placeBehindName (c : Cursor) : Place :=
  let c := c.skipBlanks
  match c.rest with
  | '\x7d' :: _ => c.inside
  | _ => c.place

def depthLimit : Nat := 128

mutual

-- `depth` is how deep the value may go, counting itself when it is a container. No step leaves the
-- text as long as it was twice in a row, so the number of steps is bounded by its length.
def readValueIn : Nat → Nat → Outline → Cursor → Reached Node
  | 0, _, _, c => .fail ⟨.endInValue, c.place⟩
  | steps + 1, depth, o, c =>
    let c := c.skipBlanks
    let deep : Misread := ⟨.tooDeep, c.inside⟩
    match c.rest with
    | [] => .fail ⟨.endInValue, c.place⟩
    | x :: rest =>
      let behind : Cursor := ⟨rest, c.place.after x⟩
      if x = 'n' then .scalar .null (readWord ['u', 'l', 'l'] behind)
      else if x = 't' then .scalar (.bool true) (readWord ['r', 'u', 'e'] behind)
      else if x = 'f' then .scalar (.bool false) (readWord ['a', 'l', 's', 'e'] behind)
      else if x = '-' then .ofStep .number (readNumber true behind)
      else if x.isDigit then .ofStep .number (readNumber false c)
      else if x = '"' then .ofStep .string (readString behind)
      else if x = '[' then
        if depth ≤ 1 then ⟨.array (some c.place) (.broken deep), .error deep⟩
        else
          let inner := readItemsIn steps (depth - 1) o 0 behind
          ⟨.array (some c.place) inner.tree, inner.next⟩
      else if x = '\x7b' then
        if depth ≤ 1 then ⟨.object (some c.place) (.broken deep), .error deep⟩
        else
          let inner := readMembersIn steps (depth - 1) o true behind
          ⟨.object (some c.place) inner.tree, inner.next⟩
      else .fail ⟨.valueExpected, c.inside⟩
termination_by structural steps => steps

def readItemsIn : Nat → Nat → Outline → Nat → Cursor → Reached Items
  | 0, _, _, _, c => ⟨.broken ⟨.endInList, c.place⟩, .error ⟨.endInList, c.place⟩⟩
  | steps + 1, depth, o, index, c =>
    let c := c.skipBlanks
    let stop (m : Misread) : Reached Items := ⟨.broken m, .error m⟩
    let item (c : Cursor) : Reached Items :=
      let first := readValueIn steps depth (o.item index) c
      match first.next with
      | .error m => ⟨.item (some c.inside) first.tree (.broken m), .error m⟩
      | .ok behind =>
        let others := readItemsIn steps depth o (index + 1) behind
        ⟨.item (some c.inside) first.tree others.tree, others.next⟩
    match c.rest with
    | [] => stop ⟨.endInList, c.place⟩
    | x :: rest =>
      let behind : Cursor := ⟨rest, c.place.after x⟩
      if x = ']' then ⟨.close (some behind.place), .ok behind⟩
      else if index = 0 then item c
      else if x = ',' then
        let c := behind.skipBlanks
        match c.rest with
        | [] => stop ⟨.endInValue, c.place⟩
        | ']' :: _ => stop ⟨.trailingComma, c.inside⟩
        | _ => item c
      else stop ⟨.listCommaExpected, c.inside⟩
termination_by structural steps => steps

def readMembersIn : Nat → Nat → Outline → Bool → Cursor → Reached Members
  | 0, _, _, _, c => ⟨.broken ⟨.endInObject, c.place⟩, .error ⟨.endInObject, c.place⟩⟩
  | steps + 1, depth, o, first, c =>
    let c := c.skipBlanks
    let stop (m : Misread) : Reached Members := ⟨.broken m, .error m⟩
    -- from behind the quotation mark that opens a name
    let member (c : Cursor) : Reached Members :=
      match readString c with
      | .error m => stop m
      | .ok (name, c) =>
        let place := some (placeBehindName c)
        let c := c.skipBlanks
        let found : Reached Node :=
          match c.rest with
          | [] => .fail ⟨.endInObject, c.place⟩
          | ':' :: rest =>
            let behind : Cursor := ⟨rest, c.place.after ':'⟩
            match o.member name with
            | some o => readValueIn steps depth o behind
            | none =>
              match skipValue behind with
              | .error m => .fail m
              | .ok behind => ⟨.skipped, .ok behind⟩
          | _ => .fail ⟨.colonExpected, c.inside⟩
        match found.next with
        | .error m => ⟨.member name place found.tree (.broken m), .error m⟩
        | .ok behind =>
          let others := readMembersIn steps depth o false behind
          ⟨.member name place found.tree others.tree, others.next⟩
    match c.rest with
    | [] => stop ⟨.endInObject, c.place⟩
    | x :: rest =>
      let behind : Cursor := ⟨rest, c.place.after x⟩
      if x = '\x7d' then ⟨.close (some behind.place), .ok behind⟩
      else if first then
        if x = '"' then member behind else stop ⟨.nameExpected, c.inside⟩
      else if x = ',' then
        let c := behind.skipBlanks
        match c.rest with
        | [] => stop ⟨.endInValue, c.place⟩
        | '"' :: rest => member ⟨rest, c.place.after '"'⟩
        | '\x7d' :: _ => stop ⟨.trailingComma, c.inside⟩
        | _ => stop ⟨.nameExpected, c.inside⟩
      else stop ⟨.objectCommaExpected, c.inside⟩
termination_by structural steps => steps

end

-- A whole text: the tree of its value, and the fault behind it, if something follows.
structure Draft where
  root : Node
  tail : Option Misread

def readText (o : Outline) (text : String) : Draft :=
  let c := Cursor.ofText text
  let reached := readValueIn (2 * c.rest.length + 2) depthLimit o c
  match reached.next with
  | .error _ => ⟨reached.tree, none⟩
  | .ok c =>
    let c := c.skipBlanks
    ⟨reached.tree, if c.rest.isEmpty then none else some ⟨.trailingCharacters, c.inside⟩⟩

def Draft.value (d : Draft) : Except Misread Json :=
  match d.root.value, d.tail with
  | .error m, _ => .error m
  | .ok _, some m => .error m
  | .ok j, none => .ok j

def parse (text : String) : Except Misread Json := (readText .whole text).value

end Json

end Diorama
