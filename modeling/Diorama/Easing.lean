import Diorama.Number.Scalar

-- Easing curves and the time windows that they run over. The formulas are read over any numbers.

namespace Diorama

inductive Easing where
  | linear
  | easeIn
  | easeOut
  | easeInOut
deriving DecidableEq, Inhabited

namespace Easing

def name : Easing → String
  | .linear => "linear"
  | .easeIn => "ease-in"
  | .easeOut => "ease-out"
  | .easeInOut => "ease-in-out"

-- Kebab, snake and camel spellings name the same curve: separators and case do not count. No
-- character outside ASCII becomes a letter of these names in lower case.
def ofName? (text : String) : Option Easing :=
  let folded := (text.toList.filter fun c => !(c == '-' || c == '_' || c == ' ')).map Char.toLower
  if folded = "linear".toList then some .linear
  else if folded = "easein".toList then some .easeIn
  else if folded = "easeout".toList then some .easeOut
  else if folded = "easeinout".toList then some .easeInOut
  else none

variable {α : Type} [Scalar α]

def curve (e : Easing) (t : α) : α :=
  let one : α := Scalar.one
  let two : α := Scalar.ofInt 2
  let four : α := Scalar.ofInt 4
  match e with
  | .linear => t
  | .easeIn => t * t
  | .easeOut => t * (two - t)
  | .easeInOut => if Scalar.lt t (one / two) then two * t * t else -one + (four - two * t) * t

-- Progress outside the unit interval is clamped.
def apply (e : Easing) (t : α) : α := e.curve (Scalar.clamp Scalar.zero Scalar.one t)

end Easing

-- A stretch of time, both ends included.
structure Window (α : Type) where
  start : α
  length : α

namespace Window

variable {α : Type} [Scalar α]

def contains (w : Window α) (t : α) : Bool :=
  Scalar.le w.start t && Scalar.le t (w.start + w.length)

-- How far through the window a time lies. A window without length is through at once.
def progress (w : Window α) (t : α) : α :=
  if Scalar.le w.length Scalar.zero then Scalar.one else (t - w.start) / w.length

end Window

end Diorama
