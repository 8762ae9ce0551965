import CellMemory.Double

/-! A number as a document writes it. It is an integer only if it is written as one; any number that
is not too large can be read as a double. -/

namespace CellMemory.Document

structure Exponent where
  negative : Bool
  digits : List Nat
  deriving DecidableEq

structure Literal where
  negative : Bool
  whole : List Nat
  fraction : Option (List Nat)
  exponent : Option Exponent
  deriving DecidableEq

def ofDigits (digits : List Nat) : Nat := digits.foldl (fun value digit => value * 10 + digit) 0

namespace Literal

/-- The integer a literal writes, if it fits in 64 bits, signed or not. Minus zero is no
integer. -/
def integer? (literal : Literal) : Option Int :=
  match literal.fraction, literal.exponent with
  | none, none =>
    let size := ofDigits literal.whole
    if literal.negative then
      if 0 < size ∧ size ≤ 0x8000000000000000 then some (-(size : Int)) else none
    else if size < 0x10000000000000000 then some size else none
  | _, _ => none

/-- Appends digits to a number while it fits in 64 bits, and gives the digits left over. -/
def accumulate (value : Nat) : List Nat → Nat × List Nat
  | [] => (value, [])
  | digit :: digits =>
    if value * 10 + digit < 0x10000000000000000 then accumulate (value * 10 + digit) digits
    else (value, digit :: digits)

/-- The leading digits as one 64-bit number, and the power of ten that they are counted in. Whole
digits that no longer fit raise the power; fraction digits that no longer fit are dropped. -/
def significand (literal : Literal) : Nat × Int :=
  let (whole, rest) := accumulate 0 literal.whole
  let fraction := literal.fraction.getD []
  let (value, dropped) := accumulate whole fraction
  (value, (rest.length : Int) - ((fraction.length - dropped.length : Nat) : Int))

def powerOfTen (exponent : Nat) : Float := Float.ofScientific 1 false exponent

/-- Scales a number by one power of ten, in doubles. Powers beyond the range of doubles are divided
off in steps; where they would have to be multiplied, the number is too large. -/
def scale (value : Float) (exponent : Int) : Option Float :=
  if 0 ≤ exponent then
    if exponent ≤ 308 then
      let scaled := value * powerOfTen exponent.toNat
      if scaled.isInf then none else some scaled
    else if value == 0 then some value else none
  else if -308 ≤ exponent then some (value / powerOfTen (-exponent).toNat)
  else if value == 0 then some value
  else scale (value / powerOfTen 308) (exponent + 308)
termination_by (-exponent).toNat

/-- The size of a literal as a double. An exponent beyond 31 bits is taken to leave nothing, or to
be too large. -/
def unsigned? (literal : Literal) : Option Float :=
  let (value, power) := literal.significand
  match literal.exponent with
  | none => scale (UInt64.ofNat value).toFloat power
  | some exponent =>
    let size := ofDigits exponent.digits
    if size < 0x80000000 then
      scale (UInt64.ofNat value).toFloat (if exponent.negative then power - size else power + size)
    else if value = 0 ∨ exponent.negative then some 0
    else none

def double? (literal : Literal) : Option Double :=
  match literal.unsigned? with
  | none => none
  | some size => some ⟨(if literal.negative then -size else size).toBits⟩

end Literal

end CellMemory.Document
