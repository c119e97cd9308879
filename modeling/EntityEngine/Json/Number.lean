import EntityEngine.Json.Basic
import EntityEngine.Number.Numeral

/-!
Numbers of JSON text. An integer that fits 64 bits, signed or not, is kept; any other number
becomes a double from a significand of 64 bits, further digits being left out, scaled by a power
of ten. Significand, power and scaled value are rounded one after the other.
-/

namespace EntityEngine.Json

open Number

/-- The largest significand, which is also the largest integer that is kept. -/
def maxSignificand : Nat := 0xffffffffffffffff

/-- Appends the digits that fit the significand, and counts those that do not. Once a digit does
not fit, none after it is taken. -/
def takeDigits (significand : Nat) : List Char → Nat × Nat × Nat
  | [] => (significand, 0, 0)
  | c :: r =>
    let next := 10 * significand + digitValue c
    if next ≤ maxSignificand then
      let (s, taken, left) := takeDigits next r
      (s, taken + 1, left)
    else (significand, 0, r.length + 1)

def powerOfTen (n : Nat) : Float := Float.ofScientific 1 false n

/-- The largest power of ten that is a double. -/
def topPower : Nat := 308

/-- The quotient of `x` by `10 ^ n`, by at most one division more than the fuel. -/
def scaleDown (x : Float) : Nat → Nat → Float
  | n, 0 => x / powerOfTen (min n topPower)
  | n, fuel + 1 =>
    if n ≤ topPower then x / powerOfTen n
    else scaleDown (x / powerOfTen topPower) (n - topPower) fuel

/-- A significand times a power of ten; none if the result is past the largest double. -/
def scaled? (significand : Nat) (exponent : Int) : Option Float :=
  let x := Float.ofNat significand
  if exponent < 0 then
    -- Three divisions by the largest power leave nothing of any significand.
    some (scaleDown x exponent.natAbs 3)
  else if significand = 0 then some x
  else if exponent.toNat ≤ topPower then
    let y := x * powerOfTen exponent.toNat
    if isSpecial y then none else some y
  else none

/-- The parts of a JSON number as written. -/
structure NumberText where
  negative : Bool
  whole : List Char
  fraction : List Char
  exponent : Option (Bool × List Char)
  deriving Repr, DecidableEq

namespace NumberText

/-- A bound above which an exponent's size no longer matters. -/
def exponentBound : Nat := 0x80000000

def exponentValue (t : NumberText) : Int :=
  match t.exponent with
  | none => 0
  | some (negative, digits) =>
    let n := min (ofDigits digits) exponentBound
    if negative then -(n : Int) else n

def real? (t : NumberText) : Option Json :=
  let (s, _, left) := takeDigits 0 t.whole
  let (s, taken, _) := takeDigits s t.fraction
  (scaled? s (left - taken + t.exponentValue)).map fun x => .real (signed t.negative x)

/-- The value of a number; none if it is past the largest double. -/
def value? (t : NumberText) : Option Json :=
  let n := ofDigits t.whole
  if t.fraction.isEmpty && t.exponent.isNone then
    if t.negative then
      if 0 < n && n ≤ 0x8000000000000000 then some (.integer (-(n : Int))) else t.real?
    else if n ≤ maxSignificand then some (.integer n)
    else t.real?
  else t.real?

end NumberText

end EntityEngine.Json
