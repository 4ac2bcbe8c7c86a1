import Diorama.Json.Fault

-- A document as it is met from left to right. The tree keeps where its parts stand, every member in
-- its order with repeated names, and the fault of the text at the spot where reading stopped: a
-- reader of shapes walks the tree and meets the two kinds of faults in the order of the text.

namespace Diorama

mutual

inductive Node where
  | null (stop : Option Place)
  | bool (value : Bool) (stop : Option Place)
  | number (value : Json.Number) (stop : Option Place)
  | string (value : String) (stop : Option Place)
  | array (start : Option Place) (items : Items)
  | object (start : Option Place) (members : Members)
  -- a member that nobody asked for
  | skipped
  | broken (fault : Misread)

-- Items with the place just into each of them, and how the list ends.
inductive Items where
  | close (stop : Option Place)
  | broken (fault : Misread)
  | item (start : Option Place) (value : Node) (rest : Items)

-- Members with the place behind each name, and how the object ends.
inductive Members where
  | close (stop : Option Place)
  | broken (fault : Misread)
  | member (name : String) (behind : Option Place) (value : Node) (rest : Members)

end

instance : Inhabited Node := ⟨.skipped⟩

def Items.length : Items → Nat
  | .item _ _ rest => rest.length + 1
  | _ => 0

namespace Node

mutual

-- The value of a tree, unless the text is faulty somewhere in it. Of a repeated name the first
-- place and the last value count.
def value : Node → Except Misread Json
  | .null _ => .ok .null
  | .bool b _ => .ok (.bool b)
  | .number n _ => .ok (.number n)
  | .string s _ => .ok (.string s)
  | .array _ items => (values items).map .array
  | .object _ members => (memberValues members []).map .object
  | .skipped => .ok .null
  | .broken fault => .error fault
termination_by structural n => n

def values : Items → Except Misread (List Json)
  | .close _ => .ok []
  | .broken fault => .error fault
  | .item _ n rest =>
    match n.value with
    | .error fault => .error fault
    | .ok j => (values rest).map (j :: ·)
termination_by structural l => l

def memberValues : Members → List (String × Json) → Except Misread (List (String × Json))
  | .close _, found => .ok found
  | .broken fault, _ => .error fault
  | .member name _ n rest, found =>
    match n.value with
    | .error fault => .error fault
    | .ok j => memberValues rest (Json.put name j found)
termination_by structural l => l

end

end Node

namespace Json

mutual

-- A value as a tree that stands nowhere.
def node : Json → Node
  | .null => .null none
  | .bool b => .bool b none
  | .number n => .number n none
  | .string s => .string s none
  | .array items => .array none (itemNodes items)
  | .object members => .object none (memberNodes members)
termination_by structural j => j

def itemNodes : List Json → Items
  | [] => .close none
  | j :: rest => .item none j.node (itemNodes rest)
termination_by structural l => l

def memberNodes : List (String × Json) → Members
  | [] => .close none
  | (name, j) :: rest => .member name none j.node (memberNodes rest)
termination_by structural l => l

end

end Json

end Diorama
