import Diorama.Text.Quoted
import Diorama.Number.Layout

-- What is written out: a JSON document whose numbers are already laid out as text, written without
-- blanks and with its members in their own order.

namespace Diorama

inductive Sheet where
  | null
  | bool (value : Bool)
  | number (text : String)
  | string (value : String)
  | list (items : List Sheet)
  | record (members : List (String × Sheet))

namespace Sheet

def nat (n : Nat) : Sheet := .number (toString n)

def option (f : α → Sheet) : Option α → Sheet
  | some a => f a
  | none => .null

-- A single in a document; what is not finite is written as `null`.
def single (x : Float32) : Sheet :=
  if x.isFinite then .number (Layout.single.writeSingle x) else .null

mutual

def text : Sheet → String
  | .null => "null"
  | .bool value => if value then "true" else "false"
  | .number t => t
  | .string value => Text.quoteDocument value
  | .list items => "[" ++ String.intercalate "," (texts items) ++ "]"
  | .record members => "\x7b" ++ String.intercalate "," (memberTexts members) ++ "\x7d"
termination_by structural s => s

def texts : List Sheet → List String
  | [] => []
  | s :: rest => s.text :: texts rest
termination_by structural l => l

def memberTexts : List (String × Sheet) → List String
  | [] => []
  | (name, s) :: rest => (Text.quoteDocument name ++ ":" ++ s.text) :: memberTexts rest
termination_by structural l => l

end

end Sheet

end Diorama
