import EntityEngine.Store.Write

/-!
References from rows to rows of other tables. A row that refers to another one, with no part of the
reference null, has to find it; a statement that leaves one without it is refused as a whole.
-/

namespace EntityEngine.Store

open Sql

/-- How a row that is referred to is found. -/
inductive ParentKey where
  | number
  /-- By the columns of an index, each with the column that refers to it. -/
  | columns (pairs : List (KeyColumn × String))
  deriving Repr, DecidableEq

namespace Table

/-- The column that refers to a column of an index, if that stands under its own collation. -/
def referrer? (parent : Table) (k : ForeignKey) (c : KeyColumn) : Option String := do
  let column ← parent.column? c.name
  let (_, child) ← (k.parents.zip k.columns).find? fun (name, _) => Text.sameFold name c.name
  if column.collation = c.collation then some child else none

/-- The columns of an index, each with the one that refers to it, if the index is one of those that
are meant. -/
def pairs? (parent : Table) (k : ForeignKey) (x : Index) : Option (List (KeyColumn × String)) :=
  if !x.isUnique || x.columns.length ≠ k.columns.length then none
  else if k.parents.isEmpty then
    if x.isPrimary then some (x.columns.zip k.columns) else none
  else x.columns.mapM fun c => (parent.referrer? k c).map (c, ·)

/-- How a reference is followed in the table that it names. -/
def parentKey? (parent : Table) (k : ForeignKey) : Option ParentKey :=
  let isNumber := k.columns.length = 1 ∧ parent.numberColumn.any fun c =>
    k.parents.head?.all (Text.sameFold c)
  if isNumber then some .number
  else (parent.indexesInUse.findSome? (parent.pairs? k)).map .columns

/-- The value of a row under a column. -/
def valueOf (t : Table) (row : Row) (name : String) : Value := (t.reader row (.column name)).value

/-- Whether a table has the row that a row refers to. -/
def hasParent (t parent : Table) (k : ForeignKey) (row : Row) : Bool :=
  match parent.parentKey? k with
  | none => true
  | some .number =>
    match (k.columns.head?.map (t.valueOf row)).bind rowNumber? with
    | some n => parent.rows.any fun r => r.number == n
    | none => false
  | some (.columns pairs) =>
    parent.rows.any fun r => pairs.all fun (c, child) =>
      let affinity := ((parent.column? c.name).map Column.affinity).getD .none
      let v := affinity.convert (t.valueOf row child)
      let w := parent.valueOf r c.name
      !w.isNull && (v.orderBy c.collation w).isEq

/-- Whether a row finds what it refers to, unless a part of the reference is null. -/
def keepsReference (find : String → Option Table) (t : Table) (k : ForeignKey) (row : Row) :
    Bool :=
  k.columns.any (fun c => (t.valueOf row c).isNull) ||
    match find k.table with
    | some parent => t.hasParent parent k row
    | none => true

/-- Whether all rows of a table find what they refer to in tables that are meant. -/
def keepsReferences (find : String → Option Table) (t : Table) (isMeant : ForeignKey → Bool) :
    Bool :=
  t.foreignKeys.all fun k => !isMeant k || t.rows.all (t.keepsReference find k)

/-- The fault of a reference that cannot be followed in the table that it names. -/
def mismatch (t : Table) (k : ForeignKey) : Sql.Fault :=
  .other ("foreign key mismatch - \"" ++ t.name ++ "\" referencing \"" ++ k.table ++ "\"")

/-- The fault of the first reference, the last that was declared, that cannot be followed at all. -/
def referenceFault? (find : String → Option Table) (t : Table) (isMeant : ForeignKey → Bool) :
    Option Sql.Fault :=
  (t.foreignKeys.reverse.filter isMeant).findSome? fun k =>
    match find k.table with
    | none => some (.noSuchTable ("main." ++ k.table))
    | some parent => if (parent.parentKey? k).isSome then none else some (t.mismatch k)

/-- Whether a write of some extent changes a reference. -/
def changesReference (t : Table) (x : Extent) (k : ForeignKey) : Bool :=
  match x.columns with
  | none => true
  | some places =>
    let changed := t.changedPlaces t.columns.length places
    k.columns.any fun c =>
      (x.number && t.isNumberColumn c) || (t.place? c).any changed.contains

/-- The columns of the primary key. -/
def primaryColumns (t : Table) : List String :=
  match t.numberColumn with
  | some c => [c]
  | none =>
    match t.indexes.find? Index.isPrimary with
    | some x => x.columns.map KeyColumn.name
    | none => []

/-- Whether a write of some extent changes what a reference of another row goes by. -/
def changesReferred (t : Table) (x : Extent) (k : ForeignKey) : Bool :=
  match x.columns with
  | none => true
  | some places =>
    let changed := t.changedPlaces t.columns.length places
    (if k.parents.isEmpty then t.primaryColumns else k.parents).any fun c =>
      (x.number && t.isNumberColumn c) || (t.place? c).any changed.contains

/-! ### Rows that refer to a row -/

/-- The columns of a reference, each with the one that it refers to. -/
def links? (parent : Table) (k : ForeignKey) : Option (List (String × String)) :=
  (parent.parentKey? k).map fun key =>
    match key with
    | .number => k.columns.map fun c => (c, parent.numberColumn.getD "rowid")
    | .columns pairs => pairs.map fun (c, child) => (child, c.name)

/-- What a row gives for a column. -/
def readingOf (t : Table) (row : Row) (name : String) : Reading := t.reader row (.column name)

/-- Whether a row refers to a row of another table. -/
def refersTo (t parent : Table) (links : List (String × String)) (row other : Row) : Bool :=
  links.all fun (child, c) =>
    let r := parent.readingOf other c
    let own := t.readingOf row child
    compared .eq (r.affinity.joint own.affinity) r.collation r.value own.value = .ofBool true

/-- Whether two rows are the same to those that refer to them. -/
def isSameToOthers (t : Table) (links : List (String × String)) (a b : Row) : Bool :=
  links.all fun (_, c) =>
    let r := t.readingOf a c
    (r.value.orderBy r.collation (t.valueOf b c)).isEq

/-- What an action gives to the columns of a row that refers to one that has changed, or is
gone. -/
def referrerChanges (t parent : Table) (context : Setting) (action : ReferenceAction)
    (links : List (String × String)) (new : Option Row) :
    Except Sql.Fault (List (String × Change)) :=
  links.mapM fun (child, c) => do
    let v ← match action, new with
      | .cascade, some row => pure (parent.valueOf row c)
      | .setDefault, _ =>
        match (t.column? child).bind Column.default with
        | some e => e.value { context with purpose := .default }
        | none => pure .null
      | _, _ => pure .null
    return (child, .set v)

/-- The table with every broken constraint refusing a row. -/
def strict (t : Table) : Table :=
  { t with
    columns := t.columns.map fun c => { c with notNull := c.notNull.map fun _ => .abort }
    numberConflict := .abort
    indexes := t.indexes.map fun x => { x with conflict := .abort } }

end Table

end EntityEngine.Store
