import EntityEngine.Number.Numeral
import EntityEngine.Number.Shortest

/-!
Numbers with a significand of 64 binary digits, and what becomes of doubles that are read and
written by way of them: they are scaled by powers of ten step by step, and each step rounds. The
double that is read need not be the nearest one to the numeral.
-/

namespace EntityEngine.Number

/-- How many binary digits a number has. -/
def binaryWidth (n : Nat) : Nat := if n = 0 then 0 else Nat.log2 n + 1

/-- A number without its last `k` binary digits, rounded, a half going to the even neighbour. -/
def shortened (n k : Nat) : Nat :=
  let unit := Nat.pow 2 k
  let q := n / unit
  let r := n % unit
  if unit < 2 * r ∨ (unit = 2 * r ∧ q % 2 = 1) then q + 1 else q

/-- The double nearest `n` times two to the power `exponent`, a half going to the even one. -/
def ofBinary (n : Nat) (exponent : Int) : Float :=
  -- The number in units of the smallest positive double, and those of the last digit kept.
  let place := exponent + 1074
  let unit := ((binaryWidth n : Int) + place - 53).toNat
  let kept := if place ≤ unit then shortened n (unit - place).toNat
    else n * Nat.pow 2 (place - unit).toNat
  let bits := unit * leadingBit + kept
  if bits < 0x7ff0000000000000 then Float.ofBits (UInt64.ofNat bits) else infinity false

/-- The number `significand` times two to the power `exponent`. -/
structure Extended where
  significand : Nat
  exponent : Int
  deriving Repr, DecidableEq

namespace Extended

/-- The number of 64 binary digits nearest `n` times two to the power `exponent`. -/
def rounded (n : Nat) (exponent : Int) : Extended :=
  let extra := binaryWidth n - 64
  ⟨shortened n extra, exponent + extra⟩

def multiply (a b : Extended) : Extended :=
  rounded (a.significand * b.significand) (a.exponent + b.exponent)

/-- The number of 64 binary digits nearest a power of ten. -/
def tenTo (k : Int) : Extended :=
  if 0 ≤ k then rounded (Number.tenTo k.toNat) 0
  else
    let divisor := Number.tenTo (-k).toNat
    let shift := binaryWidth divisor + 66
    let dividend := Nat.pow 2 shift
    -- A last digit of one stands for what the quotient leaves.
    let rest := if dividend % divisor = 0 then 0 else 1
    rounded (2 * (dividend / divisor) + rest) (-(shift + 1))

def le (a b : Extended) : Bool :=
  let least := min a.exponent b.exponent
  a.significand * Nat.pow 2 (a.exponent - least).toNat ≤
    b.significand * Nat.pow 2 (b.exponent - least).toNat

/-- The whole part. -/
def floor (a : Extended) : Nat :=
  if 0 ≤ a.exponent then a.significand * Nat.pow 2 a.exponent.toNat
  else a.significand / Nat.pow 2 (-a.exponent).toNat

/-- The magnitude of a finite double. -/
def ofDouble (x : Float) : Extended := ⟨Number.significand x, (scale x : Int) - 1074⟩

/-- The largest finite double. -/
def largestDouble : Extended := ⟨0x1fffffffffffff, 971⟩

/-- The nearest double; infinite past the largest one. -/
def toDouble (a : Extended) : Float :=
  if a.le largestDouble then ofBinary a.significand a.exponent else infinity false

/-- A number multiplied by a power of ten: first by hundreds of powers, then by tens, then by
single ones. -/
def scaled (a : Extended) (power : Int) : Extended :=
  let sign : Int := if 0 ≤ power then 1 else -1
  let n := power.natAbs
  let times (count : Nat) (step : Int) (a : Extended) : Extended :=
    Nat.repeat (fun b => b.multiply (tenTo (sign * step))) count a
  times (n % 10) 1 (times (n % 100 / 10) 10 (times (n / 100) 100 a))

end Extended

/-! ### Reading -/

/-- The largest count of 64 bits, and that from which on it takes no further digit. -/
def maxCount : Nat := 0xffffffffffffffff

def fullCount : Nat := (maxCount - 9) / 10

/-- The count that digits before a point write, and how many digits are left out since it was
full. -/
def countDigits : Nat → List Char → Nat × Nat
  | count, [] => (count, 0)
  | count, c :: cs =>
    let more := 10 * count + digitValue c
    if fullCount ≤ more then (more, cs.length) else countDigits more cs

/-- A count with the digits after a point, and how many of them it took. -/
def countFraction (count : Nat) : List Char → Nat × Nat
  | [] => (count, 0)
  | c :: cs =>
    if count < fullCount then
      let (all, taken) := countFraction (10 * count + digitValue c) cs
      (all, taken + 1)
    else (count, 0)

/-- An exponent as far as it is read: digits past the fifth make it ten thousand. -/
def cappedExponent (digits : List Char) : Nat :=
  digits.foldl (fun n c => if n < 10000 then 10 * n + digitValue c else 10000) 0

/-- A count with a positive exponent, which is lowered as far as the count allows. -/
def raiseCount : Nat → Nat → Nat × Nat
  | count, 0 => (count, 0)
  | count, exponent + 1 =>
    if count < maxCount / 10 then raiseCount (10 * count) exponent else (count, exponent + 1)

/-- A count with a negative exponent, which is lowered as far as the count ends in zeros. -/
def lowerCount : Nat → Nat → Nat × Nat
  | count, 0 => (count, 0)
  | count, exponent + 1 =>
    if count % 10 = 0 then lowerCount (count / 10) exponent else (count, exponent + 1)

/-- The double that a count times a power of ten is read as. -/
def countedDouble (count : Nat) (exponent : Int) : Float :=
  if count = 0 then 0
  else if 0 ≤ exponent then
    let (count, exponent) := raiseCount count exponent.toNat
    if exponent = 0 then ofBinary count 0
    else ((⟨count, 0⟩ : Extended).scaled exponent).toDouble
  else
    let (count, exponent) := lowerCount count (-exponent).toNat
    if exponent = 0 then ofBinary count 0
    else ((⟨count, 0⟩ : Extended).scaled (-exponent)).toDouble

/-- The double that a numeral is read as, step by step. -/
def Numeral.countedDouble (n : Numeral) : Float :=
  let (count, skipped) := countDigits 0 n.whole
  let (count, taken) := countFraction count (n.fraction.getD [])
  let exponent := match n.exponent with
    | some e =>
      let size := cappedExponent (Nat.toDigits 10 e.natAbs)
      if e < 0 then -(size : Int) else size
    | none => 0
  signed n.negative (Number.countedDouble count (exponent + skipped - taken))

/-! ### Writing -/

/-- A number and a power of ten, scaled by a step as long as a condition asks for it, but not more
often than the fuel allows. -/
def scaleWhile (condition : Extended → Bool) (step : Int) :
    Nat → Extended × Int → Extended × Int
  | 0, state => state
  | fuel + 1, (a, power) =>
    if condition a then
      scaleWhile condition step fuel (a.multiply (Extended.tenTo (-step)), power + step)
    else (a, power)

/-- The magnitude of a finite double other than zero as a count of at least seventeen digits, and
the power of ten that the count is to be multiplied with. -/
def countOf (x : Float) : Nat × Int :=
  let isFrom (k : Int) (a : Extended) : Bool := (Extended.tenTo k).le a
  let isBelow (k : Int) (a : Extended) : Bool := !isFrom k a
  let start : Extended × Int := (.ofDouble x, 0)
  -- No double needs more than a dozen steps of a kind.
  let fuel := 20
  let (a, power) :=
    if isFrom 19 start.1 then
      scaleWhile (isFrom 19) 1 fuel
        (scaleWhile (isFrom 29) 10 fuel (scaleWhile (isFrom 119) 100 fuel start))
    else
      scaleWhile (isBelow 17) (-1) fuel
        (scaleWhile (isBelow 7) (-10) fuel (scaleWhile (isBelow (-97)) (-100) fuel start))
  (a.floor, power)

/-- A count of `count` digits at most, rounded by the first digit left out alone. -/
def cutDigits (n : Nat) (power : Int) (count : Nat) : Decimal :=
  let width := decimalWidth n
  if width ≤ count then decimalOf n power
  else
    let step := tenTo (width - count)
    -- The first digit left out is five or more where twice the rest is a whole step.
    decimalOf ((2 * n + step) / (2 * step)) (power + (width - count : Nat))

/-- The magnitude of a finite double other than zero with `count` digits at most. -/
def countedDigits (x : Float) (count : Nat) : Decimal :=
  let (n, power) := countOf x
  cutDigits n power count

end EntityEngine.Number
