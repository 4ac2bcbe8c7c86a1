import Diorama.Number.Binary

-- Heights: numbers by which things are laid one over the other. A height keeps all of its bits,
-- since those that are no numbers have their place in the order too.

namespace Diorama

-- Bits that stand for no number have an exponent of ones and a fraction behind it.
def Binary.areNumber (bits : UInt32) : Bool := bits.toNat % Nat.pow 2 31 ≤ 255 * Nat.pow 2 23

-- What is no number, as it is given, and as x86-64 computes it: with the sign bit.
def Binary.quietBits : UInt32 := 0x7fc00000

def Binary.indefiniteBits : UInt32 := 0xffc00000

structure Height where
  number : Float32
  bits : UInt32
  -- what is no number is one and the same, whatever its bits are
  agrees : bits = number.toBits ∨
    Binary.areNumber bits = false ∧ number.toBits = Binary.quietBits
deriving DecidableEq

namespace Height

def ofNumber (x : Float32) : Height := ⟨x, x.toBits, .inl rfl⟩

-- Infinity times zero is computed to be no number; what was none before is passed on.
def product (x y : Float32) : Height where
  number := x * y
  bits :=
    if (x * y).toBits = Binary.quietBits ∧ x.toBits ≠ Binary.quietBits ∧
        y.toBits ≠ Binary.quietBits then Binary.indefiniteBits
    else (x * y).toBits
  agrees := by
    split
    · rename_i h
      exact .inr ⟨rfl, h.1⟩
    · exact .inl rfl

-- The order of all bits: those with the sign by falling magnitude, and then the others.
def key (h : Height) : Int :=
  let bits : Int := h.bits.toNat
  if bits < Nat.pow 2 31 then bits else Int.pow 2 31 - 1 - bits

end Height

end Diorama
