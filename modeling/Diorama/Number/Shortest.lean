import Diorama.Number.Binary

-- The fewest decimal digits that read back as the same binary number, and of those the nearest.
-- The search tries one digit, two digits and so on. On each decimal grid only the two neighbours
-- of the value can be the answer, so the first grid on which one of them reads back wins.

namespace Diorama

-- `d.ddd * 10 ^ exponent`, without trailing zeros except for zero itself.
structure Digits where
  digits : List Nat
  exponent : Int
deriving DecidableEq

namespace Digits

def zero : Digits := ⟨[0], 0⟩

-- How many decimal digits a number has; zero has none.
def count (n : Nat) : Nat := if n = 0 then 0 else (Nat.toDigits 10 n).length

-- The exponent `k` with `10 ^ k ≤ numerator / denominator < 10 ^ (k + 1)`.
def magnitude (numerator denominator : Nat) : Int :=
  if denominator ≤ numerator then count (numerator / denominator) - 1
  else -(count ((denominator - 1) / numerator))

-- `n * 10 ^ unit` with its trailing zeros taken off.
def ofGrid (n : Nat) (unit : Int) : Digits :=
  let all := (Nat.toDigits 10 n).map (·.toNat - 48)
  ⟨(all.reverse.dropWhile (· == 0)).reverse, unit + (all.length - 1 : Nat)⟩

def power (base : Nat) : Int → Nat × Nat
  | .ofNat k => (Nat.pow base k, 1)
  | .negSucc k => (1, Nat.pow base (k + 1))

-- The reals that round to the value, in quarters of its last bit: the value itself is `4 * m`,
-- the upper neighbour is four away and the lower one four, or two below a power of two. The ends
-- belong to the interval when the mantissa is even.
structure Interval where
  value : Nat
  low : Nat
  high : Nat
  closed : Bool

def Interval.around (mantissa : Nat) (tightBelow : Bool) : Interval :=
  ⟨4 * mantissa, 4 * mantissa - (if tightBelow then 1 else 2), 4 * mantissa + 2, mantissa % 2 == 0⟩

-- Whether grid point `point` of size `cell` lies in the interval, both sides scaled to integers.
def Interval.holds (i : Interval) (scale cell point : Nat) : Bool :=
  if i.closed then decide (i.low * scale ≤ point * cell ∧ point * cell ≤ i.high * scale)
  else decide (i.low * scale < point * cell ∧ point * cell < i.high * scale)

-- The neighbour of the value on one grid that reads back, if any; of two the nearer, and in a tie
-- the even one.
def Interval.neighbour (i : Interval) (scale cell : Nat) : Option Nat :=
  let below := i.value * scale / cell
  let above := below + 1
  match i.holds scale cell below, i.holds scale cell above with
  | true, true =>
    let down := i.value * scale - below * cell
    let up := above * cell - i.value * scale
    if down < up then some below
    else if up < down then some above
    else some (if below % 2 = 0 then below else above)
  | true, false => some below
  | false, true => some above
  | false, false => none

-- Tries grids with `taken + 1`, `taken + 2`, … digits.
def search (i : Interval) (binary : Int) (top : Int) (taken : Nat) : Nat → Digits
  | 0 => zero
  | tries + 1 =>
    let unit := top - taken
    let (a, b) := power 2 binary
    let (c, d) := power 10 unit
    match i.neighbour (a * d) (c * b) with
    | some point => ofGrid point unit
    | none => search i binary top (taken + 1) tries

-- Seventeen digits tell any two doubles apart, and nine any two singles.
def shortest (f : Binary.Format) (mantissa : Nat) (exponent : Int) : Digits :=
  if mantissa = 0 then zero
  else
    let tightBelow := mantissa == Nat.pow 2 f.fractionBits && f.lowest < exponent
    let i := Interval.around mantissa tightBelow
    let binary := exponent - 2
    let (a, b) := power 2 binary
    search i binary (magnitude (i.value * a) b) 0 18

end Digits

end Diorama
