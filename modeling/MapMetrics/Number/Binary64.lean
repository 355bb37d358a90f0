/-!
# Binary floating-point numbers

A finite number of the 64-bit format is a sign and a magnitude, a whole number times a power of
two. Reading the magnitude off the bits is exact, so questions about a number, such as whether it
is whole or which integer it equals, become questions about integers.
-/

namespace MapMetrics.Number

/-- The magnitude of a finite number: `mantissa` times two to the power of `exponent`. -/
structure Magnitude where
  /-- Whole factor, below two to the power of 53. -/
  mantissa : Nat
  /-- Power of two, at least -1074. -/
  exponent : Int
  deriving DecidableEq, Repr

/-- Two to a power. -/
def twoTo (k : Nat) : Nat := Nat.pow 2 k

/-- The sign bit. -/
def signBit (x : Float) : Bool :=
  x.toBits >>> 63 == 1

/-- The magnitude that the bits of a finite number stand for. -/
def magnitude (x : Float) : Magnitude :=
  let exponentField := ((x.toBits >>> 52) &&& 0x7FF).toNat
  let fraction := (x.toBits &&& 0xFFFFFFFFFFFFF).toNat
  if exponentField = 0 then ⟨fraction, -1074⟩
  else ⟨twoTo 52 + fraction, (exponentField : Int) - 1075⟩

/-- The whole number that a magnitude is equal to, when it is whole. -/
def Magnitude.toNat? (m : Magnitude) : Option Nat :=
  if 0 ≤ m.exponent then some (m.mantissa * twoTo m.exponent.toNat)
  else
    let divisor := twoTo (-m.exponent).toNat
    if m.mantissa % divisor = 0 then some (m.mantissa / divisor) else none

/-- The integer that a finite number is equal to, when it is whole. -/
def wholeValue? (x : Float) : Option Int :=
  if x.isFinite then
    (magnitude x).toNat?.map fun n => if signBit x then -(n : Int) else n
  else none

/-- The prime that the remainders of numbers are taken by. -/
def modulus : Nat := twoTo 61 - 1

/-- The remainder of a magnitude. Two to the power of 61 leaves one, so powers of two count by the
remainder of their exponents, those below zero too. -/
def Magnitude.remainder (m : Magnitude) : Nat :=
  m.mantissa * twoTo (m.exponent % 61).toNat % modulus

/-- Infinity of a sign. -/
def infinity (negative : Bool) : Float :=
  Float.ofBits (if negative then 0xFFF0000000000000 else 0x7FF0000000000000)

/-- The number that is none. -/
def notANumber : Float :=
  Float.ofBits 0x7FF8000000000000

/-- A number with its sign turned when asked to. -/
def withSign (negative : Bool) (x : Float) : Float :=
  if negative then -x else x

/-- The number nearest to a decimal, `digits` times ten to the power of `exponent`, ties to even.
Decimals that are beyond the range on either side by their length alone are not computed. -/
def ofDecimal (digits : Nat) (exponent : Int) : Float :=
  let length : Int := (Nat.toDigits 10 digits).length
  if digits = 0 || length + exponent < -330 then 0.0
  else if 310 < length + exponent then infinity false
  else Float.ofScientific digits (exponent < 0) exponent.natAbs

/-- The number nearest to an integer, infinite when the integer is beyond the range. -/
def ofInteger (n : Int) : Float :=
  withSign (n < 0) (ofDecimal n.natAbs 0)

end MapMetrics.Number
