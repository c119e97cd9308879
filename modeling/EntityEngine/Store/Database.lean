import EntityEngine.Record.Basic
import EntityEngine.Sql.EngineTables
import EntityEngine.Store.Reference
import EntityEngine.Store.Sequence

/-!
The state of the store: definitions, documents, and the tables of entities. Ids are given out in
ascending order and never twice.
-/

namespace EntityEngine

open Time

/-- What an operation takes from outside: the time, and texts that nothing else has. -/
structure Ambient where
  now : Instant
  /-- The identifier of a record, should one be made. -/
  recordId : String
  /-- The end of an entity's code, should one be made. -/
  codeSuffix : String
  deriving Repr, DecidableEq

namespace Store

/-- A row of one of the engine's own tables. -/
structure EngineRow where
  table : String
  row : Row
  deriving Repr, DecidableEq

structure Database where
  /-- In ascending order of their ids; deleted ones stay. -/
  entities : List Entity := []
  /-- In ascending order of their ids. -/
  documents : List Record := []
  /-- In the order in which they were made. -/
  tables : List Table := []
  /-- The largest ids that were used, and the largest numbers of rows in some tables. -/
  sequences : Table := sequenceTable
  /-- Rows of the engine's own tables that are none that the engine writes: those that stand for
  nothing, and those that stand for what it would write in another way. -/
  oddRows : List EngineRow := []
  /-- The id or the number of the row that was inserted last. -/
  lastInsert : Int := 0
  deriving Repr, DecidableEq

namespace Database

def empty : Database := {}

/-- The table with a name, whatever the case of its letters. -/
def table? (db : Database) (name : String) : Option Table :=
  db.tables.find? fun t => Text.sameFold t.name name

/-- A table in place of the one of its name. -/
def putTable (db : Database) (t : Table) : Database :=
  { db with tables := db.tables.map fun u => if Text.sameFold u.name t.name then t else u }

/-- The id of a next row in a table of the engine, one more than any that was used. -/
def nextId (db : Database) (t : Sql.EngineTable) (ids : List Int) : Except Sql.Fault Int :=
  let used := ids.foldl max (Sequence.largest db.sequences t.name)
  if used = Number.maxInt64 then .error (.other "database or disk is full") else .ok (used + 1)

/-- The id of the first of some next rows, at least one, whose ids follow one another. -/
def nextIds (db : Database) (t : Sql.EngineTable) (ids : List Int) (count : Nat) :
    Except Sql.Fault Int := do
  let first ← db.nextId t ids
  if Number.maxInt64 < first + (count - 1 : Nat) then throw (.other "database or disk is full")
  return first

/-- The database once some ids are used in a table of the engine. -/
def useIds (db : Database) (t : Sql.EngineTable) (ids : List Int) : Database :=
  ids.foldl (fun db id =>
    { db with sequences := Sequence.raise db.sequences t.name id, lastInsert := id }) db

/-- Whether a table has the name. -/
def hasTable (db : Database) (name : String) : Bool :=
  (Sql.EngineTable.tableNames ++ db.tables.map Table.name).any (Text.sameFold name)

/-- The names of all indexes. -/
def indexNames (db : Database) : List String :=
  Sql.EngineTable.indexNames ++ db.tables.flatMap fun t => t.indexes.filterMap Index.name

def hasIndex (db : Database) (name : String) : Bool :=
  db.indexNames.any (Text.sameFold name)

/-- Whether a table has exactly the name. -/
def tableExists (db : Database) (name : String) : Bool :=
  (Sql.EngineTable.tableNames ++ db.tables.map Table.name).contains name

/-- The definitions that are not deleted. -/
def live (db : Database) : List Entity := db.entities.filter fun e => !e.deleted

end Database

end Store

end EntityEngine
