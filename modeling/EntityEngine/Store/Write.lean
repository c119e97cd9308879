import EntityEngine.Store.Constraint

/-!
What a write makes of a row: a new one with values given under names, or one of the table with some
of its values changed. The row either keeps all constraints of its table or is refused.
-/

namespace EntityEngine.Store

open Number Sql Time

namespace Table

/-! ### New rows -/

/-- The number that a value is; numbers in text count. -/
def rowNumber? (v : Value) : Option Int :=
  match Affinity.numeric.convert v with
  | .integer n => some n
  | _ => none

/-- The smallest positive number that no row has. -/
def freeNumber (t : Table) : Int :=
  let isFree (n : Nat) : Bool := t.rows.all fun r => r.number ≠ n + 1
  ((List.range (t.rows.length + 1)).find? isFree).getD 0 + 1

/-- The number of the next row, where the largest one ever used is known: one more than the last,
or any free one after the largest, unless numbers are used once only. -/
def nextNumber (t : Table) (used : Int) : Except Sql.Fault Int :=
  let last := match t.rows.getLast? with
    | some r => r.number
    | none => 0
  if t.isAutoincrement then
    if last = maxInt64 ∨ used = maxInt64 then .error (.other "database or disk is full")
    else .ok (max last used + 1)
  else if t.rows.isEmpty then .ok 1
  else if last = maxInt64 then .ok t.freeNumber
  else .ok (last + 1)

/-- The value given for a column. -/
def given? (given : List (String × Value)) (c : Column) : Option Value :=
  (given.find? fun (name, _) => Text.sameFold name c.name).map Prod.snd

/-- The value of a column in a new row, from the values given under names. -/
def newValue (context : Setting) (given : List (String × Value)) (c : Column) :
    Except Sql.Fault Value :=
  match given? given c with
  | some v => .ok (c.affinity.store v)
  | none =>
    match c.default with
    | some e => (e.value { context with purpose := .default }).map c.affinity.store
    | none => .ok .null

/-- The value given for the number of a new row. -/
def givenNumber? (t : Table) (given : List (String × Value)) : Option Value :=
  (given.reverse.find? fun (name, _) =>
    match t.resolve? name with
    | some .number => true
    | some (.column _) => t.isNumberColumn name
    | none => false).map Prod.snd

/-- The values of a row, the number column showing its number. -/
def numbered (t : Table) (number : Int) (values : List Value) : List Value :=
  (t.columns.zip values).map fun (c, v) =>
    if t.isNumberColumn c.name then .integer number else v

/-- The number of a new row. -/
def numberFor (t : Table) (used : Int) (given : List (String × Value)) : Except Sql.Fault Int :=
  match t.givenNumber? given with
  | none | some .null => t.nextNumber used
  | some v =>
    match rowNumber? v with
    | some n => .ok n
    | none => .error .datatypeMismatch

/-- Whether a name is that of a column that follows from others. -/
def isDerived (t : Table) (name : String) : Bool :=
  (t.column? name).any fun c => c.derivation.isSome

/-- The fault of the first name that no value can be given for. `as` is the name that the statement
has for the table. -/
def targetFault? (t : Table) (as : String) (names : List String) : Option Sql.Fault :=
  names.findSome? fun name =>
    if (t.resolve? name).isNone then some (.noSuchTarget as name)
    else if t.isDerived name then
      some (.other ("cannot INSERT into generated column \"" ++ ((t.column? name).map
        Column.name).getD name ++ "\""))
    else none

/-- The faults of the expressions that a new row looks at. -/
def insertFaults (t : Table) (given : List (String × Value)) : List Sql.Fault :=
  let isDefaulted (c : Column) : Bool :=
    (given? given c).isNone && !t.isNumberColumn c.name && c.derivation.isNone
  (t.columns.filter isDefaulted).flatMap (fun c => (c.default.map Expression.faults).getD []) ++
    t.extentFaults {}

/-- Whether a row may remove others that are in its way. -/
def removesOthers (t : Table) : Bool :=
  t.numberConflict == .replace || t.indexes.any fun x => x.conflict == .replace

/-- What becomes of a new row. -/
structure Insertion where
  /-- The number that the row is given. -/
  number : Int
  /-- None if the row is left out. -/
  settled : Option Settled
  deriving Repr, DecidableEq

/-- A new row of values given under names. The largest number ever used is given too. -/
def insertion (t : Table) (context : Setting) (used : Int) (given : List (String × Value)) :
    Except Sql.Fault Insertion := do
  let number ← t.numberFor used given
  let values ← t.columns.mapM fun c =>
    if t.isNumberColumn c.name then pure .null else newValue context given c
  let settled ← t.accept context {} ⟨number, t.numbered number values⟩ t.rows
  return { number, settled }

/-! ### Changes -/

/-- What an update does to a column. -/
inductive Change where
  | set (v : Value)
  | increment
  deriving Repr, DecidableEq

/-- A value after a change. Text counts as the number it starts with. -/
def Change.apply (change : Change) (old : Value) : Value :=
  match change with
  | .set v => v
  | .increment => Arithmetic.add.apply old (.integer 1)

/-- The new value of a column. The last change of a column counts. -/
def changedValue (changes : List (String × Change)) (c : Column) (old : Value) : Value :=
  match changes.reverse.find? fun (name, _) => Text.sameFold name c.name with
  | some (_, change) => c.affinity.store (change.apply old)
  | none => old

/-- The value that the number of a row changes to, if it does. -/
def changedNumber? (t : Table) (changes : List (String × Change)) (row : Row) : Option Value :=
  (changes.reverse.find? fun (name, _) =>
    match t.resolve? name with
    | some .number => true
    | some (.column _) => t.isNumberColumn name
    | none => false).map fun (_, change) => change.apply (.integer row.number)

/-- A row after some changes. -/
def changedRow (t : Table) (changes : List (String × Change)) (row : Row) :
    Except Sql.Fault Row := do
  let number ← match t.changedNumber? changes row with
    | none => pure row.number
    | some v =>
      match rowNumber? v with
      | some n => pure n
      | none => throw .datatypeMismatch
  let values := (t.columns.zip row.values).map fun (c, v) => changedValue changes c v
  return ⟨number, t.numbered number values⟩

/-- What some changes touch. -/
def extentOf (t : Table) (changes : List (String × Change)) : Extent where
  columns := some (changes.filterMap fun (name, _) => t.place? name)
  number := changes.any fun (name, _) => t.resolve? name == some .number || t.isNumberColumn name

/-- The fault of the first name that no change can be made to. -/
def changeFault? (t : Table) (names : List String) : Option Sql.Fault :=
  names.findSome? fun name =>
    if (t.resolve? name).isNone then some (.noSuchColumn name)
    else if t.isDerived name then
      some (.other ("cannot UPDATE generated column \"" ++ ((t.column? name).map
        Column.name).getD name ++ "\""))
    else none

/-- A row after some changes; none if it is left as it is. -/
def change (t : Table) (context : Setting) (changes : List (String × Change)) (row : Row) :
    Except Sql.Fault (Option Settled) := do
  let changed ← t.changedRow changes row
  t.accept context (t.extentOf changes) changed (t.rows.filter fun r => r.number ≠ row.number)

/-! ### Rows by their numbers -/

/-- The row with a number. -/
def row? (t : Table) (number : Int) : Option Row := t.rows.find? fun r => r.number == number

/-- The table with one more row. -/
def withRow (t : Table) (row : Row) : Table := { t with rows := place row t.rows }

/-- The table without the row of a number. -/
def withoutRow (t : Table) (number : Int) : Table :=
  { t with rows := t.rows.filter fun r => r.number ≠ number }

/-- The numbers of the rows that meet some conditions. -/
def numbersOf (t : Table) (conditions : List Condition) : List Int :=
  (matching conditions t.reader t.rows).map Row.number

end Table

end EntityEngine.Store
