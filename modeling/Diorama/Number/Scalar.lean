import Diorama.Number.Binary

-- Numbers that a formula of the library may be read over. The program reads its formulas over
-- floating point numbers; the same definitions over the rationals say what they compute when
-- nothing is rounded.

namespace Diorama

open Binary (Rounding)

-- Comparisons are computed, and false where one side is no number.
class Scalar (α : Type) extends Add α, Sub α, Mul α, Div α, Neg α where
  ofInt : Int → α
  lt : α → α → Bool
  le : α → α → Bool
  same : α → α → Bool
  toInt : Rounding → (lo hi : Int) → α → Int

namespace Scalar

variable {α : Type} [Scalar α]

def zero : α := ofInt 0

def one : α := ofInt 1

-- The greater of two; what is no number yields to the other.
def max (a b : α) : α :=
  if !same a a then b else if lt a b then b else a

def min (a b : α) : α :=
  if !same a a then b else if lt b a then b else a

-- Into the bounds; what is no number stays what it is.
def clamp (lo hi x : α) : α :=
  let raised := if lt x lo then lo else x
  if lt hi raised then hi else raised

def abs (x : α) : α := if lt x zero then -x else x

end Scalar

instance : Scalar Float32 where
  ofInt := Float32.ofInt
  lt a b := decide (a < b)
  le a b := decide (a ≤ b)
  same a b := a == b
  toInt mode lo hi x := (Binary.ofSingle x).toInt mode lo hi

instance : Scalar Float where
  ofInt := Float.ofInt
  lt a b := decide (a < b)
  le a b := decide (a ≤ b)
  same a b := a == b
  toInt mode lo hi x := (Binary.ofDouble x).toInt mode lo hi

-- Rounding a rational by the same three rules.
def wholeOfRat (mode : Rounding) (x : Rat) : Int :=
  match mode with
  | .nearest => if x < 0 then -(-x + 1 / 2).floor else (x + 1 / 2).floor
  | .up => x.ceil
  | .towardZero => if x < 0 then x.ceil else x.floor

instance : Scalar Rat where
  ofInt := fun n => (n : Rat)
  lt a b := decide (a < b)
  le a b := decide (a ≤ b)
  same a b := decide (a = b)
  toInt mode lo hi x := Binary.clampInt lo hi (wholeOfRat mode x)

end Diorama
