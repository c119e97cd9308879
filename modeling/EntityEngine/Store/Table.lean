import EntityEngine.Sql.Evaluation
import EntityEngine.Sql.TableSpec

/-!
Tables with their rows. Every row has a number, and the rows stand in the order of their numbers.
-/

namespace EntityEngine.Store

open Number Sql

structure Column where
  name : String
  affinity : Affinity
  collation : Collation := .bytes
  /-- What happens when a value is null, if it may not be. -/
  notNull : Option ConflictAction := none
  default : Option Expression := none
  /-- What the value follows from, if it is not given. -/
  derivation : Option Derivation := none
  /-- How much room a value is thought to take. -/
  width : Nat := 1
  deriving Repr, DecidableEq

structure Index where
  /-- An index that belongs to a constraint has no name. -/
  name : Option String
  columns : List KeyColumn
  isUnique : Bool
  /-- What happens when two rows have the same key in a unique index. -/
  conflict : ConflictAction := .abort
  /-- The index of the primary key. -/
  isPrimary : Bool := false
  /-- Only rows that meet these are in the index. -/
  conditions : List Condition := []
  deriving Repr, DecidableEq

structure Row where
  number : Int
  /-- One value for each column. -/
  values : List Value
  deriving Repr, DecidableEq

structure Table where
  name : String
  /-- The statement that made the table, if it is told. -/
  statement : Option String := none
  columns : List Column
  /-- The column that shows the number of the row. -/
  numberColumn : Option String := none
  /-- What happens when two rows have one number. -/
  numberConflict : ConflictAction := .abort
  /-- No number is used again after its row is gone. -/
  isAutoincrement : Bool := false
  checks : List Check := []
  foreignKeys : List ForeignKey := []
  /-- In the order in which they were made. -/
  indexes : List Index := []
  rows : List Row := []
  deriving Repr, DecidableEq

namespace Table

/-- The place of the column with a name, whatever the case of its letters. -/
def place? (t : Table) (name : String) : Option Nat :=
  t.columns.findIdx? fun c => Text.sameFold c.name name

def hasColumn (t : Table) (name : String) : Bool := (t.place? name).isSome

/-- The column with a name, whatever the case of its letters. -/
def column? (t : Table) (name : String) : Option Column :=
  t.columns.find? fun c => Text.sameFold c.name name

/-- What a name refers to in a statement on the table. -/
inductive Reference where
  | column (place : Nat)
  | number
  deriving Repr, DecidableEq

/-- A column with the name, else the number of the row. -/
def resolve? (t : Table) (name : String) : Option Reference :=
  match t.place? name with
  | some i => some (.column i)
  | none => if isRowNumberName name then some .number else none

/-- Whether a column shows the number of the row. -/
def isNumberColumn (t : Table) (name : String) : Bool :=
  t.numberColumn.any (Text.sameFold name)

/-- The value of a row at a place. -/
def valueAt (row : Row) (i : Nat) : Value := (row.values[i]?).getD .null

/-- What a row gives for a name, if the table has it. -/
def reading? (t : Table) (row : Row) (name : String) : Option Reading :=
  (t.resolve? name).map fun r =>
    match r with
    | .column i =>
      match t.columns[i]? with
      | some c => ⟨valueAt row i, c.affinity, c.collation⟩
      | none => { value := valueAt row i }
    | .number => { value := .integer row.number, affinity := .integer }

/-- What a row gives for the operands of a statement. A name in quotes that the table does not
have is read as a text. -/
def reader (t : Table) (row : Row) : Reader
  | .column name => (t.reading? row name).getD { value := .text name }
  | .plain name => (t.reading? row name).getD { value := .null }
  | .member _ => { value := .null }

/-- Rows in the order of their numbers, with one more. -/
def place (row : Row) : List Row → List Row
  | [] => [row]
  | r :: rs => if row.number < r.number then row :: r :: rs else r :: place row rs

/-- How many rows meet all conditions. -/
def count (t : Table) (conditions : List Condition) : Nat :=
  (matching conditions t.reader t.rows).length

/-- The fault of looking for rows that meet some conditions. -/
def matchFault? (t : Table) (conditions : List Condition) : Option Sql.Fault :=
  Sql.matchFault? conditions t.reader t.rows

/-! ### Keys -/

/-- The values of a row under the columns of an index. -/
def indexKey (t : Table) (columns : List KeyColumn) (row : Row) : List Value :=
  columns.map fun k => (t.reader row (.column k.name)).value

/-- Whether a row is in an index. -/
def isIn (t : Table) (x : Index) (row : Row) : Bool := (t.reader row).satisfiesAll x.conditions

/-- Two keys are the same, and no part of them is null. -/
def sameKey (columns : List KeyColumn) (a b : List Value) : Bool :=
  a.length == b.length && ((a.zip b).zip columns).all fun ((v, w), k) =>
    !v.isNull && !w.isNull && (v.orderBy k.collation w).isEq

/-- The order of two rows in an index: by its columns, then by the number. -/
def indexOrder (t : Table) (columns : List KeyColumn) (a b : Row) : Ordering :=
  match columns with
  | [] => compare a.number b.number
  | k :: ks =>
    let value (row : Row) : Value := (t.reader row (.column k.name)).value
    let o := (value a).orderBy k.collation (value b)
    (if k.isDescending then o.swap else o).then (t.indexOrder ks a b)

/-- The rows in the order of an index. -/
def inIndexOrder (t : Table) (x : Index) : List Row :=
  t.rows.mergeSort fun a b => (t.indexOrder x.columns a b).isLE

/-- The indexes as they are looked at: the newest first, but those behind the others that remove
the rows in the way. -/
def indexesInUse (t : Table) : List Index :=
  let newest := t.indexes.reverse
  let removes (x : Index) : Bool := x.conflict == .replace
  newest.filter (fun x => !removes x) ++ newest.filter removes

end Table

end EntityEngine.Store
