import EntityEngine.Sql.Expression
import EntityEngine.Sql.Selection

/-!
What conditions and orders mean on a row, which gives a value to each operand, with the affinity
and the collation under which it is compared. Null matches no condition.
-/

namespace EntityEngine.Sql

open Text

/-- A value of a row as it is compared. -/
structure Reading where
  value : Value
  affinity : Affinity := .none
  collation : Collation := .bytes
  deriving Repr, DecidableEq

/-- What a row gives for operands. -/
abbrev Reader := Operand → Reading

/-- Whether two values compare as asked, as they are. Nothing compares with null. -/
def satisfies (op : Comparison) (a b : Value) : Bool :=
  !a.isNull && !b.isNull && answers op (a.order b)

/-- Whether a value is like a pattern, numbers being read as their text. -/
def Value.isLike (v : Value) (pattern : String) : Bool :=
  !v.isNull && Sql.isLike v.toText pattern

/-- Whether a value read from a row compares with another one as asked. -/
def Reading.compares (r : Reading) (op : Comparison) (right : Value) : Bool :=
  let (v, w) := r.affinity.aligned r.value right
  !r.value.isNull && !right.isNull && answers op (v.orderBy r.collation w)

namespace Condition

/-- Whether a condition holds for a row. -/
def holds (row : Reader) : Condition → Bool
  | .compare left op right => (row left).compares op right
  | .compareNumber left op right =>
    satisfies op (cast (row left).value) (Affinity.numeric.convert right)
  | .compareNumbers left op right => satisfies op (cast (row left).value) (cast (.text right))
  | .like left pattern => (row left).value.isLike pattern
  | .kept => satisfies .eq (row (.plain "deleted")).value (.integer 0)

/-- The most bytes of a pattern. -/
def maxPatternLength : Nat := 50000

/-- Whether a condition cannot be looked at, for its pattern is too long. -/
def isTooLong : Condition → Bool
  | .like _ pattern => maxPatternLength < byteLength pattern.toList
  | _ => false

end Condition

/-- Whether all conditions hold for a row. -/
def Reader.satisfiesAll (row : Reader) (conditions : List Condition) : Bool :=
  conditions.all (Condition.holds row)

/-- The order of two rows by one term. -/
def OrderTerm.compare (t : OrderTerm) (a b : Reader) : Ordering :=
  let r := a t.operand
  let o := r.value.orderBy r.collation (b t.operand).value
  match t.direction with
  | .ascending => o
  | .descending => o.swap

/-- The order of two rows: by the first term that tells them apart. -/
def compareRows : List OrderTerm → Reader → Reader → Ordering
  | [], _, _ => .eq
  | t :: ts, a, b => (t.compare a b).then (compareRows ts a b)

/-- Rows in an order; rows that no term tells apart keep their places. -/
def sortRows (order : List OrderTerm) (read : α → Reader) (rows : List α) : List α :=
  rows.mergeSort fun a b => (compareRows order (read a) (read b)).isLE

/-- The rows that meet all conditions. -/
def matching (conditions : List Condition) (read : α → Reader) (rows : List α) : List α :=
  rows.filter fun r => (read r).satisfiesAll conditions

/-- The fault of looking at conditions on some rows: one whose pattern is too long, and to which a
row comes that meets those before it. -/
def matchFault? (conditions : List Condition) (read : α → Reader) (rows : List α) :
    Option Fault :=
  match conditions.findIdx? Condition.isTooLong with
  | some i =>
    if rows.any fun r => (read r).satisfiesAll (conditions.take i) then
      some (.other "LIKE or GLOB pattern too complex")
    else none
  | none => none

end EntityEngine.Sql
