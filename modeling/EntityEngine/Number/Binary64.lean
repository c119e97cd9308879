/-!
Doubles as integer multiples of the smallest positive double, and the rounding of exact numbers
to doubles. Comparisons of numbers of any kind are comparisons of integers in these units.
-/

namespace EntityEngine.Number

/-- The leading bit of a significand, two to the power 52. -/
def leadingBit : Nat := 0x10000000000000

/-- How many of the smallest positive doubles make up 1. -/
def unitsInOne : Nat := Nat.pow 2 1074

/-- The bits of the exponent field. -/
def exponentField (x : Float) : Nat := x.toBits.toNat / leadingBit % 2048

/-- The bits of the fraction field. -/
def fractionField (x : Float) : Nat := x.toBits.toNat % leadingBit

def isNegative (x : Float) : Bool := x.toBits.toNat / 0x8000000000000000 == 1

/-- An infinite or undefined double. -/
def isSpecial (x : Float) : Bool := exponentField x == 2047

/-- The whole significand of a finite double, the leading bit included. -/
def significand (x : Float) : Nat :=
  if exponentField x = 0 then fractionField x else leadingBit + fractionField x

/-- A finite double is its significand times two to this power, less 1074. -/
def scale (x : Float) : Nat := exponentField x - 1

/-- How many of the smallest positive doubles make up the magnitude of `x`. An infinite double
counts as the power of two that follows the largest finite one. -/
def magnitude (x : Float) : Nat :=
  if isSpecial x then Nat.pow 2 2098 else significand x * Nat.pow 2 (scale x)

/-- The value of `x` in units of the smallest positive double, 2 to the power −1074. -/
def units (x : Float) : Int := if isNegative x then -(magnitude x : Int) else magnitude x

/-- The value of an integer in the same units. -/
def integerUnits (n : Int) : Int := n * unitsInOne

def infinity (negative : Bool) : Float :=
  Float.ofBits (if negative then 0xfff0000000000000 else 0x7ff0000000000000)

def signed (negative : Bool) (x : Float) : Float := if negative then -x else x

/-- The integer that a double is, if it is one. -/
def toInteger? (x : Float) : Option Int :=
  if isSpecial x then none
  else if magnitude x % unitsInOne = 0 then some (units x / unitsInOne) else none

/-- The double nearest an integer. -/
def ofInteger (n : Int) : Float := Float.ofInt n

/-- The double nearest `digits` times ten to the power `exponent`, and an infinite one past the
largest. Exponents that no digit can bring back into the range are not raised to a power. -/
def ofDecimal (negative : Bool) (digits : Nat) (exponent : Int) : Float :=
  let size : Int := (Nat.toDigits 10 digits).length
  if digits = 0 then signed negative 0
  else if size + exponent > 400 then infinity negative
  else if size + exponent < -400 then signed negative 0
  else signed negative (Float.ofScientific digits (exponent < 0) exponent.natAbs)

end EntityEngine.Number
