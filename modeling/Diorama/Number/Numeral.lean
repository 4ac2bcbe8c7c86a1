-- Decimal numerals in free text: a sign, digits with an optional point among or around them, and
-- an optional power of ten. The value is the nearest double.

namespace Diorama.Numeral

def digit? (c : Char) : Option Nat :=
  if '0' ≤ c ∧ c ≤ '9' then some (c.toNat - 48) else none

-- The longest run of digits at the front, and the rest.
def splitDigits : List Char → List Nat × List Char
  | [] => ([], [])
  | c :: rest =>
    match digit? c with
    | some d => let (digits, tail) := splitDigits rest; (d :: digits, tail)
    | none => ([], c :: rest)

def value (digits : List Nat) : Nat := digits.foldl (fun n d => 10 * n + d) 0

def splitSign : List Char → Bool × List Char
  | '-' :: rest => (true, rest)
  | '+' :: rest => (false, rest)
  | rest => (false, rest)

-- The power of ten behind the digits: nothing, or `e` and at least one digit.
def exponent? : List Char → Option Int
  | [] => some 0
  | c :: rest =>
    if c = 'e' ∨ c = 'E' then
      let (negative, rest) := splitSign rest
      match splitDigits rest with
      | ([], _) => none
      | (digits, []) => some (if negative then -(value digits : Int) else value digits)
      | _ => none
    else none

-- Digits before and after the point; one of the two runs may be empty.
def mantissa? (chars : List Char) : Option (List Nat × List Nat × List Char) :=
  let (whole, rest) := splitDigits chars
  let (fraction, rest) := match rest with
    | '.' :: rest => splitDigits rest
    | rest => ([], rest)
  if whole.isEmpty ∧ fraction.isEmpty then none else some (whole, fraction, rest)

-- `mantissa * 10 ^ exponent`. Outside four hundred orders of magnitude the answer is known without
-- computing the power.
def scaled (mantissa : Nat) (exponent : Int) : Float :=
  let top := exponent + (Nat.toDigits 10 mantissa).length
  if mantissa = 0 ∨ top < -400 then 0
  else if 400 < top then Float.ofScientific 1 false 400
  else Float.ofScientific mantissa (exponent < 0) exponent.natAbs

-- Names of the values that no digits denote, in any case.
def special? (chars : List Char) : Option Float :=
  let name := String.ofList (chars.map Char.toLower)
  if name = "inf" ∨ name = "infinity" then some (1 / 0)
  else if name = "nan" then some (0 / 0)
  else none

def read? (text : String) : Option Float :=
  let (negative, rest) := splitSign text.toList
  let magnitude := match mantissa? rest with
    | some (whole, fraction, tail) =>
      (exponent? tail).map fun e => scaled (value (whole ++ fraction)) (e - fraction.length)
    | none => special? rest
  magnitude.map fun x => if negative then -x else x

-- A count: digits, with an optional plus sign, below the limit.
inductive CountFault where
  | empty
  | invalid
  | tooLarge

def CountFault.message : CountFault → String
  | .empty => "cannot parse integer from empty string"
  | .invalid => "invalid digit found in string"
  | .tooLarge => "number too large to fit in target type"

-- Digits one by one: the first fault on the way from left to right is the one reported.
def countFrom (limit : Nat) (n : Nat) : List Char → Except CountFault Nat
  | [] => .ok n
  | c :: rest =>
    match digit? c with
    | none => .error .invalid
    | some d => if limit ≤ 10 * n + d then .error .tooLarge else countFrom limit (10 * n + d) rest

def count (limit : Nat) (text : String) : Except CountFault Nat :=
  match text.toList with
  | [] => .error .empty
  | ['+'] => .error .invalid
  | '+' :: rest => countFrom limit 0 rest
  | chars => countFrom limit 0 chars

end Diorama.Numeral
