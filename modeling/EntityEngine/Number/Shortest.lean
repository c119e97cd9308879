import EntityEngine.Number.Numeral

/-!
The decimal text of doubles: the fewest digits that read back to the same double, and rounding to
a fixed count of digits. Both work on the exact value as a ratio of natural numbers.
-/

namespace EntityEngine.Number

/-- A decimal fraction `0.d₁d₂… · 10 ^ point`, without its sign. -/
structure Decimal where
  digits : List Char
  point : Int
  deriving Repr, DecidableEq

/-- A power of ten. -/
def tenTo (n : Nat) : Nat := Nat.pow 10 n

/-- The count of decimal digits of a natural number. -/
def decimalWidth (n : Nat) : Nat := (Nat.toDigits 10 n).length

/-- The power of ten that is the first above `num / den`, for a positive ratio. -/
def tenAbove (num den : Nat) : Int :=
  let k : Int := (decimalWidth num : Int) - decimalWidth den
  -- The ratio lies between `10 ^ (k - 1)` and `10 ^ (k + 1)`.
  if (if 0 ≤ k then num < den * tenTo k.toNat else num * tenTo (-k).toNat < den) then k else k + 1

/-- The ratio `num / den` counted in steps of `10 ^ step`, as a quotient and a divisor. -/
def inSteps (num den : Nat) (step : Int) : Nat × Nat :=
  if 0 ≤ step then (num, den * tenTo step.toNat) else (num * tenTo (-step).toNat, den)

/-- The digits of a number without the zeros at their end. -/
def trimZeros (digits : List Char) : List Char := (digits.reverse.dropWhile (· == '0')).reverse

def decimalOf (n : Nat) (step : Int) : Decimal :=
  let digits := Nat.toDigits 10 n
  ⟨trimZeros digits, digits.length + step⟩

/-- The exact value of a finite double's magnitude, and half the gap to its neighbours below and
above, all over one denominator: `(value, below, above, denominator)`. -/
def neighbourhood (x : Float) : Nat × Nat × Nat × Nat :=
  let m := significand x
  let q := scale x
  let gap := Nat.pow 2 q
  let below := if m = leadingBit ∧ 0 < q then gap else 2 * gap
  (4 * m * gap, below, 2 * gap, 4 * unitsInOne)

/-- The nearer of the two points of a grid of steps around the value that read back to it. -/
def readsBackAt (x : Float) (step : Int) : Option Nat :=
  let (value, below, above, den) := neighbourhood x
  let even := significand x % 2 = 0
  let (num, unit) := inSteps value den step
  let factor := if 0 ≤ step then 1 else tenTo (-step).toNat
  let floor := num / unit
  let down := num - floor * unit
  let up := (floor + 1) * unit - num
  let downOk := if even then down ≤ below * factor else down < below * factor
  let upOk := if even then up ≤ above * factor else up < above * factor
  if downOk ∧ 0 < floor then
    if upOk ∧ (up < down ∨ (up = down ∧ floor % 2 = 1)) then some (floor + 1) else some floor
  else if upOk then some (floor + 1) else none

/-- The first grid, from coarse to fine, with a point that reads back. -/
def shortestFrom (x : Float) (top : Int) : Nat → Nat → Decimal
  | _, 0 => let (value, _, _, den) := neighbourhood x
            let (num, unit) := inSteps value den (top - 17)
            decimalOf (num / unit) (top - 17)
  | n, fuel + 1 =>
    match readsBackAt x (top - n) with
    | some k => decimalOf k (top - n)
    | none => shortestFrom x top (n + 1) fuel

/-- The fewest digits that read back to a finite double other than zero; of several, the nearest
to its value. Seventeen digits are always enough. -/
def shortest (x : Float) : Decimal :=
  let (value, _, _, den) := neighbourhood x
  shortestFrom x (tenAbove value den) 1 17

/-- The magnitude of a finite double rounded to `count` digits, a half going up. -/
def rounded (x : Float) (count : Nat) : Decimal :=
  let (value, _, _, den) := neighbourhood x
  let step := tenAbove value den - count
  let (num, unit) := inSteps value den step
  decimalOf ((2 * num + unit) / (2 * unit)) step

/-- Digits with the point among them, and at least one digit on either side. -/
def positional (d : Decimal) : List Char :=
  if d.point ≤ 0 then '0' :: '.' :: (List.replicate d.point.natAbs '0' ++ d.digits)
  else
    let n := d.point.toNat
    if d.digits.length ≤ n then d.digits ++ List.replicate (n - d.digits.length) '0' ++ ['.', '0']
    else d.digits.take n ++ '.' :: d.digits.drop n

/-- One digit before the point and the others after it. -/
def leading (d : Decimal) (fractionAlways : Bool) : List Char :=
  match d.digits with
  | [] => ['0']
  | [c] => if fractionAlways then [c, '.', '0'] else [c]
  | c :: r => c :: '.' :: r

end EntityEngine.Number
