import EntityEngine.Number.Binary64

/-!
Decimal numerals in text: an optional sign, digits with an optional point, and an optional
exponent. Reading takes the longest numeral that the text starts with and returns the rest.
-/

namespace EntityEngine.Number

def isDigit (c : Char) : Bool := '0' ≤ c && c ≤ '9'

def digitValue (c : Char) : Nat := c.toNat - '0'.toNat

/-- The number that decimal digits write, the first digit being the highest. -/
def ofDigits (cs : List Char) : Nat := cs.foldl (fun n c => 10 * n + digitValue c) 0

/-- The smallest and the largest integer of 64 bits. -/
def minInt64 : Int := -0x8000000000000000

def maxInt64 : Int := 0x7fffffffffffffff

/-- The largest natural number of 32 bits. -/
def maxNat32 : Nat := 0xffffffff

def inInt64 (n : Int) : Bool := minInt64 ≤ n && n ≤ maxInt64

structure Numeral where
  negative : Bool
  whole : List Char
  /-- The digits after the point, if there is one. -/
  fraction : Option (List Char)
  exponent : Option Int
  deriving Repr, DecidableEq

namespace Numeral

/-- A sign and what follows it; no sign counts as plus. -/
def sign : List Char → Bool × List Char
  | '-' :: r => (true, r)
  | '+' :: r => (false, r)
  | r => (false, r)

def signedValue (negative : Bool) (digits : List Char) : Int :=
  if negative then -(ofDigits digits : Int) else ofDigits digits

/-- The exponent that a text starts with. A mark without digits behind it belongs to the rest. -/
def scanExponent : List Char → Option Int × List Char
  | [] => (none, [])
  | c :: r =>
    if c = 'e' ∨ c = 'E' then
      let (negative, s) := sign r
      match s.takeWhile isDigit with
      | [] => (none, c :: r)
      | digits => (some (signedValue negative digits), s.dropWhile isDigit)
    else (none, c :: r)

/-- The point and the digits after it. -/
def scanFraction : List Char → Option (List Char) × List Char
  | '.' :: r => (some (r.takeWhile isDigit), r.dropWhile isDigit)
  | r => (none, r)

/-- The longest numeral at the start of a text, with at least one digit before or after the
point. -/
def scan (s : List Char) : Option (Numeral × List Char) :=
  let (negative, s) := sign s
  let whole := s.takeWhile isDigit
  let (fraction, r) := scanFraction (s.dropWhile isDigit)
  if whole.isEmpty && (fraction.getD []).isEmpty then none
  else
    let (exponent, r) := scanExponent r
    some (⟨negative, whole, fraction, exponent⟩, r)

/-- No point and no exponent. -/
def isInteger (n : Numeral) : Bool := n.fraction.isNone && n.exponent.isNone

def toInteger (n : Numeral) : Int := signedValue n.negative n.whole

/-- The double nearest the number written. -/
def toDouble (n : Numeral) : Float :=
  let fraction := n.fraction.getD []
  ofDecimal n.negative (ofDigits (n.whole ++ fraction)) (n.exponent.getD 0 - fraction.length)

end Numeral

/-- The integer of 64 bits that a text is, with an optional sign. -/
def int64? (s : String) : Option Int :=
  let (negative, digits) := Numeral.sign s.toList
  if digits.isEmpty || !digits.all isDigit then none
  else
    let n := Numeral.signedValue negative digits
    if inInt64 n then some n else none

/-- The natural number of 32 bits that a text is, with an optional plus. -/
def nat32? (s : String) : Option Nat :=
  let digits := match s.toList with
    | '+' :: r => r
    | r => r
  if digits.isEmpty || !digits.all isDigit then none
  else
    let n := ofDigits digits
    if n ≤ maxNat32 then some n else none

/-- The finite double that a whole text writes as a numeral. -/
def finite? (s : String) : Option Float :=
  match Numeral.scan s.toList with
  | some (n, []) => let x := n.toDouble; if isSpecial x then none else some x
  | _ => none

end EntityEngine.Number
