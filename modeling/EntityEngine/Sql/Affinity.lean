import EntityEngine.Number.Extended
import EntityEngine.Sql.Value

/-!
The affinity of a column, which comes from the words of its type, and what it makes of values that
are stored in the column or compared with it.
-/

namespace EntityEngine.Sql

open Number Text

inductive Affinity where
  /-- Of a value that is no column's. -/
  | none
  /-- Values stay what they are. -/
  | blob
  | text
  | numeric
  | integer
  | real
  deriving Repr, DecidableEq, Inhabited

/-- Whether a text occurs in another. -/
def occurs (part : List Char) : List Char → Bool
  | [] => part.isEmpty
  | c :: r => part.isPrefixOf (c :: r) || occurs part r

namespace Affinity

/-- The affinity of a declared type, whatever the case of its letters. -/
def ofType (type : String) : Affinity :=
  let s := type.toList.map Char.toLower
  let has (word : String) : Bool := occurs word.toList s
  if has "int" then .integer
  else if has "char" || has "clob" || has "text" then .text
  else if has "blob" || s.isEmpty then .blob
  else if has "real" || has "floa" || has "doub" then .real
  else .numeric

def isNumeric : Affinity → Bool
  | .numeric | .integer | .real => true
  | _ => false

end Affinity

/-- The white space of statements and of numbers in text. -/
def isSpace (c : Char) : Bool := c = ' ' || (9 ≤ c.toNat && c.toNat ≤ 13)

/-- The number that a numeral writes: an integer of 64 bits if it has the form of one and fits,
else a double. -/
def numeralValue (n : Numeral) : Value :=
  if n.isInteger && inInt64 n.toInteger then .integer n.toInteger else .real n.countedDouble

/-- The number that a whole text is, spaces around it apart. -/
def numeric? (s : String) : Option Value :=
  match Numeral.scan (s.toList.dropWhile isSpace) with
  | some (n, rest) => if rest.all isSpace then some (numeralValue n) else none
  | none => none

/-- The number that a text starts with, or 0. -/
def numericStart (s : List Char) : Value :=
  match Numeral.scan (s.dropWhile isSpace) with
  | some (n, _) => numeralValue n
  | none => .integer 0

/-- The integer that a double is, if it lies inside the range of 64 bits. -/
def strictInteger? (x : Float) : Option Int :=
  (toInteger? x).filter fun n => minInt64 < n && n < maxInt64

/-- A number in its smallest form: a double that is an integer becomes one. -/
def condense : Value → Value
  | .real x =>
    match strictInteger? x with
    | some n => .integer n
    | none => .real x
  | v => v

/-- The exponent of a number's text: a sign and at least two digits. -/
def exponentChars (n : Int) : List Char :=
  let digits := Nat.toDigits 10 n.natAbs
  'e' :: (if n < 0 then '-' else '+') ::
    (List.replicate (2 - digits.length) '0' ++ digits)

/-- The digits of a number's text. -/
def textDigits : Nat := 15

/-- A double as text: fifteen digits at most, and always a point. -/
def realText (x : Float) : String :=
  let sign := if isNegative x then ['-'] else []
  if isSpecial x then String.ofList (sign ++ "Inf".toList)
  else if magnitude x = 0 then "0.0"
  else
    let d := countedDigits x textDigits
    let exponent := d.point - 1
    if -4 ≤ exponent ∧ exponent < textDigits then String.ofList (sign ++ positional d)
    else String.ofList (sign ++ leading d true ++ exponentChars exponent)

/-- A value as text. -/
def Value.toText : Value → String
  | .null => ""
  | .integer n => toString n
  | .real x => realText x
  | .text s => s
  | .blob bytes => String.ofList (ofBytesLossy bytes)

/-- A number as a double. -/
def Value.toReal : Value → Value
  | .integer n => .real (ofInteger n)
  | v => v

namespace Affinity

/-- What a value becomes under an affinity before it is compared. -/
def convert (a : Affinity) (v : Value) : Value :=
  match a, v with
  | .text, .integer n => .text (toString n)
  | .text, .real x => .text (realText x)
  | .numeric, .text s | .integer, .text s | .real, .text s =>
    ((numeric? s).map condense).getD (.text s)
  | .numeric, .real x | .integer, .real x | .real, .real x => condense (.real x)
  | _, v => v

/-- What a column of an affinity holds after a value is stored in it. -/
def store (a : Affinity) (v : Value) : Value :=
  match a with
  | .real => (a.convert v).toReal
  | _ => a.convert v

end Affinity

/-- The affinity under which the values of two operands are compared. -/
def Affinity.joint : Affinity → Affinity → Affinity
  | .none, a | a, .none => a
  | a, b => if a.isNumeric || b.isNumeric then .numeric else .blob

/-- Two values as a comparison under an affinity sees them. A number becomes text only beside a
text. -/
def Affinity.aligned (a : Affinity) (v w : Value) : Value × Value :=
  match a, v, w with
  | .text, .text _, _ | .text, _, .text _ => (a.convert v, a.convert w)
  | .text, _, _ => (v, w)
  | a, v, w => (a.convert v, a.convert w)

/-- A value taken as a number, of any text the longest start that is one. -/
def cast : Value → Value
  | .text s => numericStart s.toList
  | .blob bytes => numericStart (ofBytesLossy bytes)
  | v => v

end EntityEngine.Sql
