import EntityEngine.Store.EngineRows

/-!
All that the store holds as tables, so that a statement may name any of it: the tables of entities,
the largest numbers, definitions, fields and documents, and the list of all tables and indexes.
-/

namespace EntityEngine.Store

open Sql

/-! ### The tables of the engine -/

/-- A table of the engine with some rows. The condition of an index is that rows are not
deleted. -/
def engineTable (t : EngineTable) (rows : List Row) : Table :=
  let text : TableText := { table := t.name, columns := t.columns }
  let table := match text.readSpec with
    | .ok spec => Table.ofSpec spec
    | .error _ => { name := t.name, columns := [] }
  let index (x : IndexText) : Index := {
    name := some x.name
    columns := x.columns.map table.keyColumn
    isUnique := x.isUnique
    conditions := if x.condition.isSome then [.kept] else [] }
  { table with
    name := t.name
    statement := some text.plainRender
    indexes := table.indexes ++ t.indexes.map index
    rows := rows.mergeSort fun a b => a.number ≤ b.number }

/-! ### The list of all tables and indexes -/

/-- A row of the list, without its number. -/
def listed (kind name table : String) (page : Int) (statement : Option String) : List Value :=
  [.text kind, .text name, .text table, .integer page, optionalText statement]

/-- The names of some indexes, those without one being counted. -/
def indexNames (table : String) : Nat → List Index → List (String × Index)
  | _, [] => []
  | n, x :: xs =>
    match x.name with
    | some name => (name, x) :: indexNames table n xs
    | none =>
      ("sqlite_autoindex_" ++ table ++ "_" ++ toString (n + 1), x) :: indexNames table (n + 1) xs

/-- The statement of an index of a table, if it was made by one. -/
def indexStatement (table : String) (x : Index) : Option String :=
  x.name.map fun name =>
    IndexText.plainRender
      { name, table, columns := x.columns.map KeyColumn.name, isUnique := x.isUnique }

/-- The entries of a table and its indexes. -/
def tableEntries (t : Table) : List (Int → List Value) :=
  (fun page => listed "table" t.name t.name page t.statement) ::
    (indexNames t.name 0 t.indexes).map fun (name, x) page =>
      listed "index" name t.name page (indexStatement t.name x)

/-- The entries of a table of the engine and its indexes, those of its constraints first. -/
def engineEntries (t : EngineTable) : List (Int → List Value) :=
  let table := engineTable t []
  let own := { table with indexes := table.indexes.filter fun x => x.name.isNone }
  tableEntries own ++ t.indexes.map fun x page =>
    listed "index" x.name t.name page (some x.plainRender)

/-- The entry of the table of the largest numbers. -/
def sequenceEntry (page : Int) : List Value :=
  listed "table" sequenceTable.name sequenceTable.name page
    (some "CREATE TABLE sqlite_sequence(name,seq)")

/-- The list of all tables and indexes, without its rows. -/
def masterTable (name : String) : Table where
  name
  columns := [
    { name := "type", affinity := .text, width := 5 },
    { name := "name", affinity := .text, width := 5 },
    { name := "tbl_name", affinity := .text, width := 5 },
    { name := "rootpage", affinity := .integer }, { name := "sql", affinity := .text, width := 5 }]

/-- The names of the list. -/
def masterNames : List String := ["sqlite_master", "sqlite_schema"]

/-- The names of the list of the tables that last as long as a connection, of which there are
none. -/
def passingNames : List String := ["sqlite_temp_master", "sqlite_temp_schema"]

namespace Database

/-- The list of all tables and indexes. The table of the largest numbers is made with the first
table that needs it. -/
def master (db : Database) : Table :=
  let entries :=
    match EngineTable.all.flatMap engineEntries with
    | first :: others => first :: sequenceEntry :: others
    | [] => []
  let all := entries ++ db.tables.flatMap tableEntries
  let row (entry : Int → List Value) (i : Nat) : Row := ⟨i + 1, entry (i + 2)⟩
  { masterTable "sqlite_master" with rows := all.zipIdx.map fun (entry, i) => row entry i }

/-- The rows of a table of the engine: those that the engine writes, and odd ones. One that stands
for a row which the engine writes takes its place, and is gone when that has changed. -/
def engineRows (db : Database) (t : EngineTable) (rows : List Row) (meant? : Row → Option Row) :
    List Row :=
  let odd := (db.oddRows.filter fun r => r.table = t.name).map EngineRow.row
  let odd := odd.filter fun row => (meant? row).all rows.contains
  odd ++ rows.filter fun row => !odd.any fun r => r.number == row.number

/-- The row of a definition that a row stands for. -/
def meantDefinition? (row : Row) : Option Row := ((entityOf [] row).toOption).map entityRow

/-- The row of a field of a definition that a row stands for. -/
def meantField? (db : Database) (row : Row) : Option Row := do
  let (f, deleted) ← (fieldOf row).toOption
  if db.entities.any fun e => e.id = f.entityId && e.deleted == deleted then
    return fieldRow deleted f
  else none

/-- The row of a document that a row stands for. -/
def meantDocument? (row : Row) : Option Row := ((documentOf row).toOption).map documentRow

/-- The table of definitions. -/
def definitionTable (db : Database) : Table :=
  engineTable .definitions
    (db.engineRows .definitions (db.entities.map entityRow) meantDefinition?)

/-- The table of fields. -/
def fieldTable (db : Database) : Table :=
  let rows := db.entities.flatMap fun e => e.fields.map (fieldRow e.deleted)
  engineTable .fields (db.engineRows .fields rows db.meantField?)

/-- The table of documents. -/
def documentTable (db : Database) : Table :=
  engineTable .documents (db.engineRows .documents (db.documents.map documentRow) meantDocument?)

/-- A table of the engine by its name. -/
def engineTable? (db : Database) (name : String) : Option Table :=
  [db.definitionTable, db.fieldTable, db.documentTable].find? fun t => Text.sameFold t.name name

/-- What a statement may name as a table. -/
def anyTable? (db : Database) (name : String) : Option Table :=
  (db.table? name).orElse fun _ =>
    if Text.sameFold db.sequences.name name then some db.sequences
    else if masterNames.any (Text.sameFold name) then some db.master
    else if passingNames.any (Text.sameFold name) then some (masterTable "sqlite_temp_master")
    else db.engineTable? name

/-- The database whose engine's tables have some rows. -/
def withEngineRows (db : Database) (definitions fields documents : List Row) : Database :=
  let read := fields.filterMap fun row => (fieldOf row).toOption
  let entities := definitions.filterMap fun row => (entityOf read row).toOption
  let records := documents.filterMap fun row => (documentOf row).toOption
  let odd (t : EngineTable) (rows written : List Row) : List EngineRow :=
    (rows.filter fun row => !written.contains row).map (⟨t.name, ·⟩)
  { db with
    entities
    documents := records
    oddRows :=
      odd .definitions definitions (entities.map entityRow) ++
      odd .fields fields (entities.flatMap fun e => e.fields.map (fieldRow e.deleted)) ++
      odd .documents documents (records.map documentRow) }

/-- The database with a table in place of the one of its name. -/
def putAny (db : Database) (t : Table) : Database :=
  let rows (table : Table) : List Row := if table.name = t.name then t.rows else table.rows
  if t.name = db.sequences.name then { db with sequences := t }
  else if EngineTable.all.any fun u => u.name = t.name then
    db.withEngineRows (rows db.definitionTable) (rows db.fieldTable) (rows db.documentTable)
  else db.putTable t

/-- The fault that a result is. -/
def faultOf? (r : Except ε α) : Option ε :=
  match r with
  | .error f => some f
  | .ok _ => none

/-- The fault of reading the definition of an id that is not deleted: its own row, or that of one
of its fields, stands for nothing. -/
def entityFault? (db : Database) (id : Int) : Option EntityEngine.Fault :=
  let kept (t : Table) : List Row := matching [.kept] t.reader t.rows
  let isOwn (row : Row) : Bool := Table.valueAt row 1 == .integer id
  ((kept db.definitionTable).find? fun row => row.number == id).bind fun row =>
    (faultOf? (entityOf [] row)).orElse fun _ =>
      ((kept db.fieldTable).filter isOwn).findSome? fun row => faultOf? (fieldOf row)

/-- The definition that is not deleted with an id, if its rows can be read. -/
def readEntity (db : Database) (id : Int) : Except EntityEngine.Fault (Option Entity) :=
  match db.entityFault? id with
  | some f => .error f
  | none => .ok (db.entity? id)

/-- Whether a table is changed by no statement on its rows. -/
def isReadOnly (t : Table) : Bool :=
  t.name == "sqlite_master" || t.name == "sqlite_temp_master"

end Database

end EntityEngine.Store
