import Diorama.Document.Reading
import Diorama.Vector
import Diorama.Color
import Diorama.Easing

-- Values that documents spell in several ways: points and scales, colors and easings.

namespace Diorama

def Json.wrongType (expected : String) (j : Json) : ShapeFault := .wrongType j.found expected

-- A number rounded once, straight to a single.
def Json.single : Json → Except ShapeFault Float32
  | .number n => .ok n.toSingle
  | j => .error (j.wrongType "f32")

def Json.text? : Json → Except ShapeFault String
  | .string s => .ok s
  | j => .error (j.wrongType "a string")

def Json.bool? : Json → Except ShapeFault Bool
  | .bool b => .ok b
  | j => .error (j.wrongType "a boolean")

namespace Vec3

-- The first three items replace the components in turn; the others only have to be numbers.
def ofItems : Nat → Vec3 → List Json → Except ShapeFault Vec3
  | _, v, [] => .ok v
  | index, v, j :: rest =>
    match j.single with
    | .error fault => .error fault
    | .ok c =>
      let v : Vec3 := match index with
        | 0 => { v with x := c }
        | 1 => { v with y := c }
        | 2 => { v with z := c }
        | _ => v
      ofItems (index + 1) v rest

-- Members named like a component replace it; the others do not matter.
def ofMembers : Vec3 → List (String × Json) → Except ShapeFault Vec3
  | v, [] => .ok v
  | v, (name, j) :: rest =>
    if name = "x" ∨ name = "y" ∨ name = "z" then
      match j.single with
      | .error fault => .error fault
      | .ok c =>
        let v : Vec3 :=
          if name = "x" then { v with x := c }
          else if name = "y" then { v with y := c }
          else { v with z := c }
        ofMembers v rest
    else ofMembers v rest

-- A number for all components, an array of them or an object; what is missing is the fill.
def ofJson (fill : Float32) : Json → Except ShapeFault Vec3
  | .number n => .ok (splat n.toSingle)
  | .array items => ofItems 0 (splat fill) items
  | .object members => ofMembers (splat fill) members
  | j =>
    .error (j.wrongType "a number, an array of up to three numbers, or an \x7bx, y, z\x7d object")

def pointOfJson (j : Json) : Except ShapeFault Vec3 := ofJson 0 j

def scaleOfJson (j : Json) : Except ShapeFault Vec3 := ofJson 1 j

def pointsOfItems : List Json → Except ShapeFault (List Vec3)
  | [] => .ok []
  | j :: rest =>
    match pointOfJson j with
    | .error fault => .error fault
    | .ok v => (pointsOfItems rest).map (v :: ·)

def pointsOfJson : Json → Except ShapeFault (List Vec3)
  | .array items => pointsOfItems items
  | j => .error (j.wrongType "a sequence")

end Vec3

namespace Node

def point (n : Node) : Reading (Option Vec3) := n.lenient fun j => .ofShape (Vec3.pointOfJson j)

def scale (n : Node) : Reading (Option Vec3) := n.lenient fun j => .ofShape (Vec3.scaleOfJson j)

def points (n : Node) : Reading (Option (List Vec3)) :=
  n.lenient fun j => .ofShape (Vec3.pointsOfJson j)

def optionalText (n : Node) : Reading (Option String) := n.lenient fun j => .ofShape j.text?

def optionalBool (n : Node) : Reading (Option Bool) := n.lenient fun j => .ofShape j.bool?

end Node

namespace Color

-- One of the three parts: an integer that fits a byte.
def byte? : Json → Option UInt8
  | .number (.integer n) => if 0 ≤ n ∧ n < 256 then some (UInt8.ofNat n.toNat) else none
  | _ => none

def once? (name : String) (members : List (String × Json)) : Option Json :=
  match members.filter (·.1 == name) with
  | [(_, j)] => some j
  | _ => none

def ofParts? (members : List (String × Json)) : Option Color := do
  let r ← byte? (← once? "r" members)
  let g ← byte? (← once? "g" members)
  let b ← byte? (← once? "b" members)
  some (.rgb r g b)

-- A single member with the name of a color and no value, or else the three parts.
def ofMembers? (members : List (String × Json)) : Option Color :=
  match members with
  | [(name, .null)] => (NamedColor.ofName? name).map .named
  | members => ofParts? members

def ofJson : Json → Except ShapeFault Color
  | .string s =>
    match NamedColor.ofName? s with
    | some name => .ok (.named name)
    | none => .error .noColor
  | .object members =>
    match ofMembers? members with
    | some color => .ok color
    | none => .error .noColor
  | _ => .error .noColor

-- A color in a definition: any text is one, white with a remark if it has no meaning.
def ofLooseJson (j : Json) : Reading Color :=
  match j with
  | .string s =>
    match Color.parse? s with
    | some color => .ok color
    | none => ⟨[.unknownColor s], .ok white⟩
  | .object _ => .ofShape (ofJson j)
  | j => .ofShape (.error (j.wrongType "a color string or an \x7br, g, b\x7d object"))

end Color

-- The members of an object with repeated names.
def Node.everyMember : Members → Except Misread (List (String × Json))
  | .close _ => .ok []
  | .broken m => .error m
  | .member name _ n rest =>
    match n.value with
    | .error m => .error m
    | .ok j => (everyMember rest).map ((name, j) :: ·)
termination_by structural members => members

-- A color in full, straight from a text: a part that is given twice does not count.
def Node.fullColor : Node → Reading Color
  | .object _ members =>
    (Reading.ofText (everyMember members)).andThen fun all => .ofShape (Color.ofJson (.object all))
  | n => n.json.andThen fun j => .ofShape (Color.ofJson j)

def Node.color (n : Node) : Reading (Option Color) := n.lenient Color.ofLooseJson

-- The easing with a name; a name that is not known eases linearly, with a remark.
def Easing.ofText (name : String) : Reading Easing :=
  match Easing.ofName? name with
  | some e => .ok e
  | none => ⟨[.unknownEasing name], .ok .linear⟩

def Node.easing (n : Node) : Reading (Option Easing) :=
  n.lenient fun j => (Reading.ofShape j.text?).andThen Easing.ofText

end Diorama
