import Diorama.Json.Sheet

-- JSON values. Members keep the order in which their names first appeared, and no name appears
-- twice in a value built by `Json.put`.

namespace Diorama

-- Integers of up to 64 bits are kept exactly, all other numbers as the nearest double.
inductive Json.Number where
  | integer (value : Int)
  | real (value : Float)
deriving DecidableEq

inductive Json where
  | null
  | bool (value : Bool)
  | number (value : Json.Number)
  | string (value : String)
  | array (items : List Json)
  | object (members : List (String × Json))
deriving Inhabited

namespace Json

namespace Number

def toDouble : Number → Float
  | .integer n => Float.ofInt n
  | .real x => x

-- A single straight from the number as it was written, rounded once.
def toSingle : Number → Float32
  | .integer n => Float32.ofInt n
  | .real x => narrow x

def text : Number → String
  | .integer n => toString n
  | .real x => Layout.double.writeDouble x

end Number

-- A member under a name: a name that is there keeps its place and takes the new value.
def put (name : String) (value : Json) : List (String × Json) → List (String × Json)
  | [] => [(name, value)]
  | (key, old) :: rest =>
    if key = name then (key, value) :: rest else (key, old) :: put name value rest

def member? (name : String) (members : List (String × Json)) : Option Json :=
  members.lookup name

def isNull : Json → Bool
  | .null => true
  | _ => false

mutual

def sheet : Json → Sheet
  | .null => .null
  | .bool value => .bool value
  | .number n => .number n.text
  | .string value => .string value
  | .array items => .list (sheets items)
  | .object members => .record (memberSheets members)
termination_by structural j => j

def sheets : List Json → List Sheet
  | [] => []
  | j :: rest => j.sheet :: sheets rest
termination_by structural l => l

def memberSheets : List (String × Json) → List (String × Sheet)
  | [] => []
  | (name, j) :: rest => (name, j.sheet) :: memberSheets rest
termination_by structural l => l

end

def text (j : Json) : String := j.sheet.text

end Json

end Diorama
