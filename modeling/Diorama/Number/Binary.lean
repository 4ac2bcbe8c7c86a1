-- A binary floating point number taken apart. Everything that has to be exact (rounding to an
-- integer, rounding to a narrower format, printing) starts from the parts, in whole numbers.

namespace Diorama

-- A finite number is `mantissa * 2 ^ exponent`; the sign of zero is kept.
inductive Binary where
  | nan
  | infinite (negative : Bool)
  | finite (negative : Bool) (mantissa : Nat) (exponent : Int)
deriving DecidableEq, Inhabited

-- How the bits of a format are divided: the width of the fraction, the field value of infinities,
-- and the exponent of the least bit of the smallest numbers.
structure Binary.Format where
  fractionBits : Nat
  topField : Nat
  lowest : Int

namespace Binary

def single : Format := ⟨23, 255, -149⟩

def double : Format := ⟨52, 2047, -1074⟩

-- Field zero holds the numbers without a leading one.
def ofBits (f : Format) (bits : Nat) : Binary :=
  let fraction := bits % Nat.pow 2 f.fractionBits
  let field := bits / Nat.pow 2 f.fractionBits % (f.topField + 1)
  let negative := bits / Nat.pow 2 f.fractionBits / (f.topField + 1) % 2 == 1
  if field = f.topField then
    if fraction = 0 then .infinite negative else .nan
  else if field = 0 then .finite negative fraction f.lowest
  else .finite negative (Nat.pow 2 f.fractionBits + fraction) (f.lowest + (field - 1 : Nat))

def ofSingle (x : Float32) : Binary := ofBits single x.toBits.toNat

def ofDouble (x : Float) : Binary := ofBits double x.toBits.toNat

-- The ways from a fraction to a whole number that the library uses. A half goes away from zero.
inductive Rounding where
  | nearest
  | up
  | towardZero

-- The whole number for `mantissa * 2 ^ exponent`, the sign apart: rounding up a negative number
-- is cutting its magnitude.
def wholeMagnitude (mode : Rounding) (negative : Bool) (mantissa : Nat) : Int → Nat
  | .ofNat k => mantissa * Nat.pow 2 k
  | .negSucc k =>
    match mode with
    | .nearest => (mantissa + Nat.pow 2 k) / Nat.pow 2 (k + 1)
    | .up =>
      if negative then mantissa / Nat.pow 2 (k + 1)
      else (mantissa + (Nat.pow 2 (k + 1) - 1)) / Nat.pow 2 (k + 1)
    | .towardZero => mantissa / Nat.pow 2 (k + 1)

def clampInt (lo hi value : Int) : Int := max lo (min hi value)

-- A whole number between the bounds: what lies outside goes to the nearer bound, and what is no
-- number goes to zero.
def toInt (mode : Rounding) (lo hi : Int) : Binary → Int
  | .nan => 0
  | .infinite negative => if negative then lo else hi
  | .finite negative mantissa exponent =>
    let whole : Int := wholeMagnitude mode negative mantissa exponent
    clampInt lo hi (if negative then -whole else whole)

-- Quotient of whole numbers to the nearest, a tie to the even neighbour.
def divideEven (numerator denominator : Nat) : Nat :=
  let quotient := numerator / denominator
  let twice := 2 * (numerator % denominator)
  if twice < denominator then quotient
  else if twice = denominator then quotient + quotient % 2
  else quotient + 1

-- The bits of the nearest number of the format, ties to even. One sum builds field and fraction:
-- a mantissa that rounds up to the next power of two carries into the field by itself.
def toBits (f : Format) : Binary → Nat
  | .nan => f.topField * Nat.pow 2 f.fractionBits + Nat.pow 2 (f.fractionBits - 1)
  | .infinite negative => signBit negative + f.topField * Nat.pow 2 f.fractionBits
  | .finite negative mantissa exponent =>
    let top : Int := exponent + Nat.log2 mantissa
    let unit : Int := max (top - f.fractionBits) f.lowest
    let rounded := match exponent - unit with
      | .ofNat k => mantissa * Nat.pow 2 k
      | .negSucc k => divideEven mantissa (Nat.pow 2 (k + 1))
    let bits := (unit - f.lowest).toNat * Nat.pow 2 f.fractionBits + rounded
    signBit negative + min bits (f.topField * Nat.pow 2 f.fractionBits)
where
  signBit (negative : Bool) : Nat :=
    if negative then (f.topField + 1) * Nat.pow 2 f.fractionBits else 0

def toSingle (b : Binary) : Float32 := Float32.ofBits (UInt32.ofNat (b.toBits single))

end Binary

def narrow (x : Float) : Float32 := (Binary.ofDouble x).toSingle

end Diorama
