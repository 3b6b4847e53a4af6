/-!
# Single-precision numbers

A `Binary32` is the 32-bit pattern of a single-precision number: a sign bit,
eight exponent bits and 23 fraction bits.  `value?` is the exact rational number
a finite pattern stands for.  `rounded` takes a rational to the nearest number
with a 24-bit significand, a tie going to the even significand, and `ofRat` packs
it into a pattern.  All arithmetic goes through exact rationals, one rounding for
each operation.
-/

namespace Instrument

/-- A single-precision number, given by its bit pattern. -/
structure Binary32 where
  /-- Sign, exponent and fraction bits, from the highest down. -/
  pattern : UInt32
  deriving DecidableEq, Inhabited

namespace Binary32

def fraction (number : Binary32) : Nat := number.pattern.toNat % 0x800000

def exponentBits (number : Binary32) : Nat := number.pattern.toNat / 0x800000 % 0x100

def isNegative (number : Binary32) : Bool := number.pattern.toNat / 0x80000000 == 1

/-- `2` to an integer power. -/
def powerOfTwo (exponent : Int) : Rat :=
  if 0 ≤ exponent then (1 <<< exponent.toNat : Nat) else mkRat 1 (1 <<< (-exponent).toNat)

/-- The exact number a pattern stands for; infinities and not-a-number patterns
stand for none.  A pattern with exponent bits zero has no hidden bit. -/
def value? (number : Binary32) : Option Rat :=
  if number.exponentBits = 255 then
    none
  else
    let hidden := if number.exponentBits = 0 then 0 else 0x800000
    let significand := hidden + number.fraction
    let magnitude := (significand : Rat) * powerOfTwo (max number.exponentBits 1 - 150)
    some (if number.isNegative then -magnitude else magnitude)

/-- The integer nearest to a quotient, the even one of two equally near. -/
def nearestQuotient (numerator denominator : Nat) : Nat :=
  let quotient := numerator / denominator
  let remainder := numerator % denominator
  if 2 * remainder < denominator then quotient
  else if denominator < 2 * remainder then quotient + 1
  else quotient + quotient % 2

/-- The greatest power of two not above a positive quotient, as an exponent. -/
def floorLog2 (numerator denominator : Nat) : Int :=
  let guess : Int := (numerator.log2 : Int) - denominator.log2
  if numerator <<< denominator.log2 < denominator <<< numerator.log2 then guess - 1 else guess

/-- The last place of the significand that represents a positive quotient: 24
bits below its leading one, and never below the smallest positive number. -/
def lastPlace (numerator denominator : Nat) : Int :=
  max (floorLog2 numerator denominator - 23) (-149)

/-- The rounded significand of a positive quotient, in units of its last place. -/
def significandOf (numerator denominator : Nat) : Nat :=
  let place := lastPlace numerator denominator
  if 0 ≤ place then nearestQuotient numerator (denominator <<< place.toNat)
  else nearestQuotient (numerator <<< (-place).toNat) denominator

/-- The nearest number with a 24-bit significand, ties to even, with no upper
bound on its exponent. -/
def rounded (number : Rat) : Rat :=
  if number.num = 0 then
    0
  else
    let magnitude :=
      (significandOf number.num.natAbs number.den : Rat)
        * powerOfTwo (lastPlace number.num.natAbs number.den)
    if number.num < 0 then -magnitude else magnitude

/-- The pattern of the nearest single-precision number; a magnitude past the
largest one becomes an infinity.  A carry out of the significand moves into the
exponent bits by itself. -/
def ofRat (number : Rat) : Binary32 :=
  if number.num = 0 then
    ⟨0⟩
  else
    let place := lastPlace number.num.natAbs number.den
    let significand := significandOf number.num.natAbs number.den
    let magnitude := min ((place + 149).toNat * 0x800000 + significand) 0x7F800000
    ⟨UInt32.ofNat (if number.num < 0 then 0x80000000 + magnitude else magnitude)⟩

/-- Whether a number lies between two integers, each bound rounded to single
precision first.  Not-a-number patterns and infinities never do. -/
def liesBetween (number : Binary32) (low high : Int) : Bool :=
  match number.value? with
  | some value => decide (rounded low ≤ value ∧ value ≤ rounded high)
  | none => false

end Binary32

end Instrument
