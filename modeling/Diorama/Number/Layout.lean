import Diorama.Number.Shortest

-- How numbers are laid out. Documents and reports use powers of ten for very large and very small
-- numbers and always show that a number is not an integer; messages never do either.

namespace Diorama

-- Exponents between the bounds are written in plain digits; no bound means always.
structure Layout where
  plainFrom : Option Int
  plainUpTo : Option Int
  -- whether a whole number in plain digits ends in `.0`
  wholePoint : Bool

namespace Layout

def single : Layout := ⟨some (-6), some 12, true⟩

def double : Layout := ⟨some (-5), some 15, true⟩

def message : Layout := ⟨none, none, false⟩

def isPlain (l : Layout) (exponent : Int) : Bool :=
  l.plainFrom.all (· ≤ exponent) && l.plainUpTo.all (exponent ≤ ·)

def digitText (digits : List Nat) : String :=
  String.ofList (digits.map fun d => Char.ofNat (48 + d))

def zeros (n : Nat) : String := String.ofList (List.replicate n '0')

-- A point only before digits that follow it.
def withFraction (whole : String) (fraction : List Nat) (wholePoint : Bool) : String :=
  if fraction.isEmpty then (if wholePoint then whole ++ ".0" else whole)
  else whole ++ "." ++ digitText fraction

def plain (l : Layout) (d : Digits) : String :=
  match d.exponent with
  | .ofNat k =>
    withFraction (digitText (d.digits.take (k + 1)) ++ zeros (k + 1 - d.digits.length))
      (d.digits.drop (k + 1)) l.wholePoint
  | .negSucc k => "0." ++ zeros k ++ digitText d.digits

def scientific (d : Digits) : String :=
  withFraction (digitText (d.digits.take 1)) (d.digits.drop 1) false ++ "e" ++
    (if d.exponent < 0 then "-" else "+") ++ toString d.exponent.natAbs

def magnitude (l : Layout) (d : Digits) : String :=
  if l.isPlain d.exponent then l.plain d else scientific d

def write (l : Layout) (f : Binary.Format) : Binary → String
  | .nan => "NaN"
  | .infinite negative => if negative then "-inf" else "inf"
  | .finite negative mantissa exponent =>
    (if negative then "-" else "") ++ l.magnitude (Digits.shortest f mantissa exponent)

def writeSingle (l : Layout) (x : Float32) : String := l.write Binary.single (Binary.ofSingle x)

def writeDouble (l : Layout) (x : Float) : String := l.write Binary.double (Binary.ofDouble x)

end Layout

-- A finite magnitude with a fixed number of places, from its exact value; a tie goes to the even
-- neighbour.
def fixedMagnitude (places mantissa : Nat) (exponent : Int) : String :=
  let (a, b) := Digits.power 2 exponent
  let scaled := Binary.divideEven (mantissa * Nat.pow 10 places * a) b
  let digits := Nat.toDigits 10 scaled
  let all := List.replicate (places + 1 - digits.length) '0' ++ digits
  let whole := all.take (all.length - places)
  String.ofList whole ++ (if places = 0 then "" else "." ++ String.ofList (all.drop whole.length))

def fixed (places : Nat) (x : Float32) : String :=
  match Binary.ofSingle x with
  | .nan => "NaN"
  | .infinite negative => if negative then "-inf" else "inf"
  | .finite negative mantissa exponent =>
    (if negative then "-" else "") ++ fixedMagnitude places mantissa exponent

-- Blanks in front up to the width, counted in characters.
def padLeft (width : Nat) (text : String) : String :=
  String.ofList (List.replicate (width - text.length) ' ') ++ text

-- Blanks behind up to the width, counted in characters.
def padRight (width : Nat) (text : String) : String :=
  text ++ String.ofList (List.replicate (width - text.length) ' ')

end Diorama
