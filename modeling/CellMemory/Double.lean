/-! Floating-point constants are kept as their 64 bits: a sign, eleven bits of exponent and
fifty-two of fraction. -/

namespace CellMemory

structure Double where
  bits : UInt64
  deriving DecidableEq

namespace Double

def negative (d : Double) : Bool := d.bits.toNat.testBit 63

def exponent (d : Double) : Nat := (d.bits.toNat >>> 52) % 0x800

def fraction (d : Double) : Nat := d.bits.toNat % 0x10000000000000

def significand (d : Double) : Nat :=
  if d.exponent = 0 then d.fraction else 0x10000000000000 + d.fraction

/-- The size of a finite number without its fractional part. The significand counts units of
two to the `exponent - 1075`, where exponents zero and one stand for the same unit. -/
def magnitude (d : Double) : Nat :=
  let exponent := max d.exponent 1
  if 1075 ≤ exponent then d.significand <<< (exponent - 1075)
  else d.significand >>> (1075 - exponent)

/-- The number truncated toward zero and held between 0 and the largest 32-bit number; what
is no number becomes 0. -/
def clamped (d : Double) : UInt32 :=
  if d.exponent = 2047 then
    if d.fraction = 0 ∧ d.negative = false then 4294967295 else 0
  else if d.negative then 0
  else UInt32.ofNat (min d.magnitude 4294967295)

end Double

end CellMemory
