import Diorama.Canvas.Basic
import Diorama.Number.Layout
import Diorama.Terminal.Menu

-- What is written to a terminal, and the control sequences for it.

namespace Diorama

-- Columns and rows count from zero.
inductive Drawing where
  -- one cell of the canvas; nothing else on the screen changes
  | cell (column row : Nat) (cell : Cell)
  -- the whole screen is set up for an animation, cleared, or given back
  | enter
  | clear
  | leave
  | menuBar (items : List String)
  | statusLine (row : Nat) (text : String)
deriving DecidableEq

namespace Drawing

def escape (code : String) : String := String.singleton (Char.ofNat 27) ++ "[" ++ code

def moveTo (column row : Nat) : String :=
  escape (toString (row + 1) ++ ";" ++ toString (column + 1) ++ "H")

def paletteNumber : NamedColor → Nat
  | .black => 0
  | .red => 9
  | .green => 10
  | .yellow => 11
  | .blue => 12
  | .magenta => 13
  | .cyan => 14
  | .white => 15
  | .grey => 7

def colorCode : Color → String
  | .named name => "5;" ++ toString (paletteNumber name)
  | .rgb r g b =>
    "2;" ++ toString r.toNat ++ ";" ++ toString g.toNat ++ ";" ++ toString b.toNat

-- The character of a cell in its style. Bold and dim are taken back together with the color.
def styled (c : Cell) : String :=
  let before := match c.color with
    | some color => escape ("38;" ++ colorCode color ++ "m")
    | none => ""
  let bold := if c.bold then escape "1m" else ""
  let dim := if c.dim then escape "2m" else ""
  let behind :=
    if c.bold || c.dim then escape "0m" else if c.color.isSome then escape "39m" else ""
  before ++ bold ++ dim ++ String.singleton c.character ++ behind

def menuPart (p : Menu.Part) : String :=
  escape (if p.bold then "1m" else "2m") ++ String.ofList p.text ++ escape "0m"

def menuItem (item : String) : String := String.join ((Menu.parts item).map menuPart)

def text : Drawing → String
  | .cell column row c => moveTo column row ++ styled c
  | .enter => escape "?1049h" ++ escape "?25l" ++ escape "2J"
  | .clear => escape "2J"
  | .leave => escape "?25h" ++ escape "?1049l"
  | .menuBar items =>
    moveTo 0 0 ++ escape "2K" ++ " " ++ String.intercalate "  " (items.map menuItem)
  | .statusLine row line =>
    moveTo 0 row ++ escape "2K" ++ escape "2m" ++ line ++ escape "0m"

end Drawing

end Diorama
