-- Places in a text, and how a reader moves through it.

namespace Diorama

-- Lines count from one; columns count the bytes since the last line break.
structure Place where
  line : Nat
  column : Nat
deriving DecidableEq, Inhabited

def Place.start : Place := ⟨1, 0⟩

def Place.after (p : Place) (c : Char) : Place :=
  if c = '\n' then ⟨p.line + 1, 0⟩ else ⟨p.line, p.column + c.utf8Size⟩

-- What is left of a text, and the place where it begins.
structure Cursor where
  rest : List Char
  place : Place

namespace Cursor

def ofText (text : String) : Cursor := ⟨text.toList, .start⟩

-- The place behind the next byte: a complaint about a character points just into it.
def inside (c : Cursor) : Place :=
  match c.rest with
  | [] => c.place
  | '\n' :: _ => ⟨c.place.line + 1, 0⟩
  | _ => ⟨c.place.line, c.place.column + 1⟩

def skipBlanksFrom : List Char → Place → Cursor
  | [], p => ⟨[], p⟩
  | c :: rest, p =>
    if c = ' ' ∨ c = '\n' ∨ c = '\t' ∨ c = '\r' then skipBlanksFrom rest (p.after c)
    else ⟨c :: rest, p⟩

def skipBlanks (c : Cursor) : Cursor := skipBlanksFrom c.rest c.place

-- The place behind a number of bytes, which may end within a character.
def placeAfterBytes : Nat → List Char → Place → Place
  | _, [], p => p
  | n, c :: rest, p =>
    if n = 0 then p
    else if c.utf8Size ≤ n then placeAfterBytes (n - c.utf8Size) rest (p.after c)
    else ⟨p.line, p.column + n⟩

def endPlace (c : Cursor) : Place := c.rest.foldl Place.after c.place

def byteCount (chars : List Char) : Nat := chars.foldl (fun n c => n + c.utf8Size) 0

end Cursor

end Diorama
