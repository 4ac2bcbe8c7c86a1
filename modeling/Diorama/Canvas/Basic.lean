import Diorama.Color

-- A canvas of character cells. Drawing outside of it is allowed and does nothing.

namespace Diorama

structure Cell where
  character : Char := ' '
  color : Option Color := none
  bold : Bool := false
  dim : Bool := false
deriving DecidableEq

def Cell.blank : Cell := {}

instance : Inhabited Cell := ⟨.blank⟩

-- Rows from top to bottom, and in each row the cells from left to right.
abbrev Canvas (width height : Nat) := Vector (Vector Cell width) height

namespace Canvas

variable {width height : Nat}

def blank (width height : Nat) : Canvas width height :=
  Vector.replicate height (Vector.replicate width .blank)

def cell? (picture : Canvas width height) (x y : Nat) : Option Cell := do
  let row ← picture[y]?
  row[x]?

def put (picture : Canvas width height) (x y : Int) (cell : Cell) : Canvas width height :=
  match x, y with
  | .ofNat x, .ofNat y =>
    if hx : x < width then
      if hy : y < height then picture.set y (picture[y].set x cell) else picture
    else picture
  | _, _ => picture

-- A text from a cell on towards the right.
def putText (c : Canvas width height) (x y : Int) (cell : Cell) : List Char → Canvas width height
  | [] => c
  | ch :: rest => (c.put x y { cell with character := ch }).putText (x + 1) y cell rest

def span (lo hi : Int) : List Int :=
  (List.range (hi - lo + 1).toNat).map fun (n : Nat) => lo + (n : Int)

-- Visits the cells of some rows and columns, row by row.
def sweep {α : Type} (rows columns : List Int) (visit : α → Int → Int → α) (a : α) : α :=
  rows.foldl (fun a y => columns.foldl (fun a x => visit a x y) a) a

end Canvas

end Diorama
