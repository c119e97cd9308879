import EntityEngine.Entity.Validation
import EntityEngine.Store.Rows

/-!
Making and dropping the tables of entities. All statements of one entity are carried out, or none.
Where the text of a statement holds further ones, these are carried out as well.
-/

namespace EntityEngine.Store

open Sql

namespace Database

/-- The database with a new table. -/
def addTable (db : Database) (statement : TableText) : Except Sql.Fault Database := do
  let name := statement.table
  if db.hasTable name then
    throw (.located (.tableExists (quotedName name)) statement.render
      (Text.byteLength statement.opening.toList))
  if db.hasIndex name then throw (.indexNamed name)
  let spec ← statement.spec
  match spec.fault? with
  | some f => throw f
  | none =>
    let table := { Table.ofSpec spec with name, statement := some statement.plainRender }
    return { db with tables := db.tables ++ [table] }

/-- The database with a new index on a table. An index of its name that is there already stays as
it is. -/
def addIndex (db : Database) (statement : IndexText) : Except Sql.Fault Database := do
  if db.hasTable statement.name then throw (.tableNamed statement.name)
  if db.hasIndex statement.name then return db
  match db.table? statement.table with
  | none => throw (.noSuchTable ("main." ++ statement.table))
  | some t =>
    let index : Index := {
      name := some statement.name
      columns := statement.columns.map t.keyColumn
      isUnique := false }
    return db.putTable { t with indexes := t.indexes ++ [index] }

/-- The database once the statements of a text are carried out one after the other, as many as the
fuel allows. Of all that may stand there, only the removal of all rows of a table is known. -/
def carryOut : Nat → Database → List Char → Except Sql.Fault Database
  | 0, db, _ => .ok db
  | fuel + 1, db, text =>
    let (own, others) := firstStatement (placedTokens text)
    match own with
    | [] => .ok db
    | t :: _ => do
      if t.token.isWord ";" then return ← carryOut fuel db others
      match Parser.emptying.run { tokens := own } with
      | .error f => .error (f.within (String.ofList text))
      | .ok (table, _) =>
        let (db, _) ← db.deleteFrom table []
        carryOut fuel db others

/-- The database with the table of an entity and its indexes. -/
def addEntityTable (db : Database) (e : Entity) : Except Sql.Fault Database := do
  let db ← db.addTable e.tableText
  let further := e.tableText.further
  let db ← db.carryOut further.length further
  e.indexTexts.foldlM addIndex db

/-- Makes the table of an entity with its indexes. -/
def createTable (db : Database) (e : Entity) : Except EntityEngine.Fault Database := do
  refuse (tableDefect? e.table)
  (db.addEntityTable e).mapError fun f => .schema e.table (.database f)

/-- Whether some row of another table refers to a row of a table. -/
def isReferredTo (db : Database) (t : Table) : Bool :=
  (db.referrers t).any fun (u, k) =>
    !Text.sameFold u.name t.name && (t.parentKey? k).isSome && u.rows.any fun row =>
      k.columns.all fun c => !(u.valueOf row c).isNull

/-- Drops a table with its rows and indexes, if there is one. The rows go first, with what
follows. -/
def dropTable (db : Database) (name : String) : Except EntityEngine.Fault Database := do
  refuse (tableDefect? name)
  match db.table? name with
  | none => return db
  | some t =>
    let schema (f : Sql.Fault) : EntityEngine.Fault := .schema name (.database f)
    let emptied : Except Sql.Fault Database :=
      t.rows.foldlM (fun (db : Database) row => db.removeRow {} t row) db
    let db ← emptied.mapError schema
    if db.isReferredTo t then throw (schema .foreignKey)
    return { db with
      tables := db.tables.filter fun u => !Text.sameFold u.name name
      sequences :=
        if t.isAutoincrement then Sequence.forget db.sequences t.name else db.sequences }

end Database

end EntityEngine.Store
