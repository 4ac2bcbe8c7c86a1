import Diorama.Text.Blank
import Diorama.Json.Token

-- Colors: nine names, or red, green and blue.

namespace Diorama

inductive NamedColor where
  | black
  | red
  | green
  | yellow
  | blue
  | magenta
  | cyan
  | white
  | grey
deriving DecidableEq, Inhabited

inductive Color where
  | named (name : NamedColor)
  | rgb (r g b : UInt8)
deriving DecidableEq, Inhabited

namespace NamedColor

def name : NamedColor → String
  | .black => "black"
  | .red => "red"
  | .green => "green"
  | .yellow => "yellow"
  | .blue => "blue"
  | .magenta => "magenta"
  | .cyan => "cyan"
  | .white => "white"
  | .grey => "grey"

def all : List NamedColor := [.black, .red, .green, .yellow, .blue, .magenta, .cyan, .white, .grey]

-- The exact name of a color.
def ofName? (text : String) : Option NamedColor := all.find? (·.name == text)

-- A name in any case; the second spelling of grey counts too.
def parse? (text : String) : Option NamedColor :=
  let folded := String.ofList (text.toList.map Char.toLower)
  if folded = "gray" then some .grey else ofName? folded

end NamedColor

namespace Color

def white : Color := .named .white

instance : Inhabited Color := ⟨white⟩

-- A number in hexadecimal digits. A plus sign in front is allowed.
def hexValue? (digits : List Char) : Option Nat :=
  let digits := match digits with
    | '+' :: rest => rest
    | digits => digits
  if digits.isEmpty then none
  else digits.foldlM (fun n c => (Json.hexDigit? c).map (16 * n + ·)) 0

-- What follows one of the marks of a hexadecimal color.
def splitMark : List Char → Option (List Char)
  | '#' :: rest => some rest
  | '0' :: 'x' :: rest => some rest
  | '0' :: 'X' :: rest => some rest
  | _ => none

-- A single hexadecimal digit stands for the byte that repeats it.
def doubled (digit : Nat) : UInt8 := UInt8.ofNat (digit % 16 * 17)

-- Six bytes of digits are three pairs, three bytes are three digits.
def ofHex? (digits : List Char) : Option Color :=
  let length := Cursor.byteCount digits
  if length = 6 then
    (hexValue? digits).map fun v =>
      .rgb (UInt8.ofNat (v / 65536)) (UInt8.ofNat (v / 256)) (UInt8.ofNat v)
  else if length = 3 then
    (hexValue? digits).map fun v => .rgb (doubled (v / 256)) (doubled (v / 16)) (doubled v)
  else none

-- `#rrggbb`, `#rgb`, either with `0x` for the mark, or a name; blanks around it do not matter.
def parse? (text : String) : Option Color :=
  let chars := Text.trimBlanks text.toList
  match splitMark chars with
  | some digits => ofHex? digits
  | none => (NamedColor.parse? (String.ofList chars)).map .named

end Color

end Diorama
