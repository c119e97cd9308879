import EntityEngine.Json.Text
import EntityEngine.Number.Numeral
import EntityEngine.Query.Literal
import EntityEngine.Sql.Collation
import EntityEngine.Text.Utf8

/-!
Values of the database, how they stand for JSON values, and their order: null first, then numbers
by size, then texts and byte strings by their bytes.
-/

namespace EntityEngine.Sql

open Number Text

inductive Value where
  | null
  | integer (n : Int)
  | real (x : Float)
  | text (s : String)
  | blob (bytes : Bytes)
  deriving Repr, DecidableEq, Inhabited

namespace Value

def ofBool (b : Bool) : Value := .integer (if b then 1 else 0)

def ofScalar : Scalar → Value
  | .integer n => .integer n
  | .real x => .real x
  | .text s => .text s

/-- The value bound for a JSON value. Arrays and objects are bound as their text, and integers past
64 bits as doubles. -/
def ofJson : Json → Value
  | .null => .null
  | .bool b => ofBool b
  | .integer n => if inInt64 n then .integer n else .real (ofInteger n)
  | .real x => .real x
  | .text s => .text s
  | .array vs => .text (Json.array vs).render
  | .object es => .text (Json.object es).render

/-- The JSON value shown for a value. An infinite number has none and shows as null. -/
def toJson : Value → Json
  | .null => .null
  | .integer n => .integer n
  | .real x => if isSpecial x then .null else .real x
  | .text s => .text s
  | .blob bytes => .text (hexText bytes)

def isNull : Value → Bool
  | .null => true
  | _ => false

/-- The name of a value's type in messages. -/
def typeName : Value → String
  | .null => "Null"
  | .integer _ => "Integer"
  | .real _ => "Real"
  | .text _ => "Text"
  | .blob _ => "Blob"

/-- The size of a number, in units that every double is a multiple of. -/
def size? : Value → Option Int
  | .integer n => some (integerUnits n)
  | .real x => some (units x)
  | _ => none

/-- The place of a value's kind in the order. -/
def rank : Value → Nat
  | .null => 0
  | .integer _ | .real _ => 1
  | .text _ => 2
  | .blob _ => 3

/-- The bytes of a text or a byte string. -/
def bytes : Value → Bytes
  | .text s => textBytes s.toList
  | .blob bs => bs
  | _ => []

/-- The order of values: by kind, then by size or by bytes. -/
def order (a b : Value) : Ordering :=
  if a.rank ≠ b.rank then compare a.rank b.rank
  else
    match a.size?, b.size? with
    | some m, some n => compare m n
    | _, _ => compare a.bytes b.bytes

/-- The order of values in which a collation orders the texts. -/
def orderBy (c : Collation) (a b : Value) : Ordering :=
  match a, b with
  | .text s, .text t => c.compareBytes (textBytes s.toList) (textBytes t.toList)
  | _, _ => a.order b

end Value

end EntityEngine.Sql
