import EntityEngine.Sql.Affinity
import EntityEngine.Sql.Like
import EntityEngine.Sql.Term

/-!
Operators on values. A value of another kind is taken as a number, a text or a truth where the
operator asks for one; null makes the result null.
-/

namespace EntityEngine.Sql

open Number Text

/-- The integer of 64 bits nearest an integer. -/
def clampInt64 (n : Int) : Int := max minInt64 (min n maxInt64)

/-- The integer of 64 bits that has the lowest binary digits of an integer. -/
def wrapInt64 (n : Int) : Int := Int.bmod n 0x10000000000000000

/-- The whole part of a double, as far as 64 bits go. -/
def wholePart (x : Float) : Int := clampInt64 (Int.tdiv (units x) unitsInOne)

/-- The integer that a text starts with, or 0. -/
def integerStart (s : List Char) : Int :=
  let (negative, r) := Numeral.sign (s.dropWhile isSpace)
  clampInt64 (Numeral.signedValue negative (r.takeWhile isDigit))

/-- The double that a text starts with, or 0. -/
def doubleStart (s : List Char) : Float :=
  match Numeral.scan (s.dropWhile isSpace) with
  | some (n, _) => n.countedDouble
  | none => 0

/-- A double as a value; one that is no number is null. -/
def ofReal (x : Float) : Value := if x.isNaN then .null else .real x

namespace Value

/-- A value taken as an integer. -/
def toInteger : Value → Int
  | null => 0
  | integer n => n
  | real x => wholePart x
  | text s => integerStart s.toList
  | blob bytes => integerStart (ofBytesLossy bytes)

/-- A value taken as a double. -/
def toDouble : Value → Float
  | null => 0
  | integer n => ofInteger n
  | real x => x
  | text s => doubleStart s.toList
  | blob bytes => doubleStart (ofBytesLossy bytes)

/-- The bytes of a value, those of its text if it is a number. -/
def toBytes : Value → Bytes
  | blob bytes => bytes
  | v => textBytes v.toText.toList

/-- The truth of a value: a number other than zero; null is neither true nor false. -/
def truth? (v : Value) : Option Bool :=
  match cast v with
  | null => none
  | w => some (w.order (.integer 0) != .eq)

def ofTruth? : Option Bool → Value
  | some b => .ofBool b
  | none => .null

/-- The name of a value's kind. -/
def kindName : Value → String
  | null => "null"
  | integer _ => "integer"
  | real _ => "real"
  | text _ => "text"
  | blob _ => "blob"

/-- A number in its smallest form, if it is small enough for that. -/
def condenseSmall : Value → Value
  | real x =>
    match toInteger? x with
    | some n => if -0x8000000000000 ≤ n ∧ n < 0x8000000000000 then .integer n else .real x
    | none => .real x
  | v => v

/-- A value made one of the kind that an affinity asks for. -/
def castTo (a : Affinity) (v : Value) : Value :=
  match v, a with
  | null, _ => null
  | v, .none | v, .blob => .blob v.toBytes
  | v, .text => .text v.toText
  | v, .integer => .integer v.toInteger
  | v, .real => .real v.toDouble
  | text s, .numeric => (numericStart s.toList).condenseSmall
  | blob bytes, .numeric => (numericStart (ofBytesLossy bytes)).condenseSmall
  | v, .numeric => v

/-! ### Three truths -/

def negation (v : Value) : Value := ofTruth? (v.truth?.map (!·))

def conjunction (v w : Value) : Value :=
  match v.truth?, w.truth? with
  | some false, _ | _, some false => .ofBool false
  | some true, some true => .ofBool true
  | _, _ => null

def disjunction (v w : Value) : Value :=
  match v.truth?, w.truth? with
  | some true, _ | _, some true => .ofBool true
  | some false, some false => .ofBool false
  | _, _ => null

/-- The text of one value followed by that of another. -/
def concat (v w : Value) : Value :=
  if v.isNull || w.isNull then null else .text (v.toText ++ w.toText)

/-- The integer with all binary digits of another one changed. -/
def complement (v : Value) : Value := if v.isNull then null else .integer (-v.toInteger - 1)

end Value

namespace Arithmetic

/-- The result on two doubles. A remainder is not taken of doubles. -/
def onReals (op : Arithmetic) (x y : Float) : Value :=
  match op with
  | add => ofReal (x + y)
  | subtract => ofReal (x - y)
  | multiply => ofReal (x * y)
  | divide => if y == 0 then .null else ofReal (x / y)
  | _ => .null

/-- An integer result, or that on doubles where it does not fit. -/
def fitted (op : Arithmetic) (m n result : Int) : Value :=
  if inInt64 result then .integer result else op.onReals (ofInteger m) (ofInteger n)

/-- An integer shifted by some binary digits; a negative number shifts the other way. -/
def shifted (toLeft : Bool) (m n : Int) : Int :=
  let (toLeft, n) := if n < 0 then (!toLeft, -n) else (toLeft, n)
  if 64 ≤ n then (if toLeft ∨ 0 ≤ m then 0 else -1)
  else if toLeft then wrapInt64 (m * Nat.pow 2 n.toNat)
  else m / Nat.pow 2 n.toNat

/-- The result on two integers of an operator that changes their binary digits. -/
def onBits (op : Arithmetic) (m n : Int) : Int :=
  let bits (k : Int) : Nat := (k % 0x10000000000000000).toNat
  match op with
  | bitAnd => wrapInt64 (bits m &&& bits n : Nat)
  | bitOr => wrapInt64 (bits m ||| bits n : Nat)
  | shiftLeft => shifted true m n
  | shiftRight => shifted false m n
  | _ => 0

/-- The result on two integers. Division goes toward zero, and by zero it is null. -/
def onIntegers (op : Arithmetic) (m n : Int) : Value :=
  match op with
  | add => op.fitted m n (m + n)
  | subtract => op.fitted m n (m - n)
  | multiply => op.fitted m n (m * n)
  | divide => if n = 0 then .null else op.fitted m n (Int.tdiv m n)
  | remainder => if n = 0 then .null else .integer (Int.tmod m n)
  | op => .integer (op.onBits m n)

/-- The result on two values. -/
def apply (op : Arithmetic) (v w : Value) : Value :=
  if v.isNull || w.isNull then .null
  else
    match op with
    | bitAnd | bitOr | shiftLeft | shiftRight => .integer (op.onBits v.toInteger w.toInteger)
    | op =>
      match cast v, cast w, op with
      | .integer m, .integer n, _ => op.onIntegers m n
      | _, _, remainder =>
        let n := w.toInteger
        if n = 0 then .null else .real (ofInteger (Int.tmod v.toInteger n))
      | _, _, _ => op.onReals v.toDouble w.toDouble

end Arithmetic

end EntityEngine.Sql
