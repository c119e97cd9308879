import EntityEngine.Engine.Basic
import EntityEngine.Record.Preparation
import EntityEngine.Record.Statistics
import EntityEngine.Store.Rows

/-!
Reading and writing records. Those of an entity with a table are its rows; those of any other are
documents. Values are checked against the definition at hand before they are written.
-/

namespace EntityEngine

open Number

/-- The answer to a query: rows with the selected fields, and what was asked for besides. -/
structure QueryResult where
  /-- Where the entity is described. -/
  context : String
  rows : List ValueMap
  count : Option Nat
  /-- The figures of the rows before fields were selected. -/
  stats : Option Stats
  deriving Repr

namespace QueryResult

def toJson (r : QueryResult) : Json := .object <| ValueMap.ofEntries <|
  [("@odata.context", .text r.context), ("value", .array (r.rows.map .object))] ++
    (r.count.map fun n => ("@odata.count", .integer n)).toList ++
    (r.stats.map fun s => ("@odata.stats", s.toJson)).toList

end QueryResult

namespace Engine

/-- The address of the description of an entity. -/
def contextOf (g : Engine) (code : String) : String :=
  String.ofList (g.baseUrl.toList.reverse.dropWhile (· = '/')).reverse ++ "/$metadata#" ++ code

/-- Stores a new record of an entity. -/
def createRecord (g : Engine) (appId : Int) (code : String) (values : ValueMap) (actor : String)
    (ambient : Ambient) : Except Fault StoredRecord × Engine :=
  match g.resolve appId code with
  | .error f => (.error f, g)
  | .ok (e, g) =>
    match prepareValues e values with
    | .error f => (.error f, g)
    | .ok data =>
      if e.tableCreated then
        let (row, database) := g.database.insertRow e data ambient
        (during ("insert row into " ++ e.table) (row.map .row), { g with database })
      else
        g.commit <| during ("insert record for entity " ++ code) do
          let (r, database) ← g.database.insertRecord e.id e.code appId data actor ambient
          return (.document r, database)

/-- The document with an id. -/
def record (g : Engine) (id : Int) : Except Fault Record :=
  match g.database.record? id with
  | some r => .ok r
  | none => .error (.recordNotFound (.id id))

/-- The record of an entity with a key. -/
def recordByKey (g : Engine) (entityId : Int) (key : String) : Except Fault StoredRecord × Engine :=
  match g.resolveId entityId with
  | .error f => (.error f, g)
  | .ok (e, g) =>
    if e.tableCreated then
      match during ("load row " ++ key ++ " of " ++ e.table) (g.database.getRow e key) with
      | .error f => (.error f, g)
      | .ok none => (.error (.recordNotFound (.key key)), g)
      | .ok (some row) => (.ok (.row row), g)
    else
      match g.database.recordByKey? entityId key with
      | none => (.error (.recordNotFound (.key key)), g)
      | some r => (.ok (.document r), g)

/-- The options of a plain page of rows; pages count from 1. -/
def pageOptions (page size : Nat) : QueryOptions :=
  { top := size, skip := min ((page - 1) * size) maxNat32 }

/-- A page of the records of an entity, the newest first; pages count from 1. -/
def listRecords (g : Engine) (appId : Int) (code : String) (page size : Nat) :
    Except Fault (List StoredRecord) × Engine :=
  match g.resolve appId code with
  | .error f => (.error f, g)
  | .ok (e, g) =>
    let page := max page 1
    let size := max size 1
    if e.tableCreated then
      let found := during ("list rows of " ++ e.table)
        (g.database.queryRows e (pageOptions page size))
      (found.map fun p => p.items.map .row, g)
    else
      let found := during ("list records of entity " ++ code)
        (g.database.listRecords appId code page size)
      (found.map fun records => records.map .document, g)

/-- Replaces the values of the document with an id. -/
def updateRecord (g : Engine) (id : Int) (values : ValueMap) (actor : String)
    (ambient : Ambient) : Except Fault Record × Engine :=
  match g.record id with
  | .error f => (.error f, g)
  | .ok current =>
    match g.resolveId current.entityId with
    | .error f => (.error f, g)
    | .ok (e, g) =>
      match prepareValues e values with
      | .error f => (.error f, g)
      | .ok data =>
        g.commit <| during ("update record " ++ current.recordId)
          (g.database.updateRecord id data actor ambient)

/-- Replaces the values of a document, or the given ones of a row. -/
def updateRecordByKey (g : Engine) (entityId : Int) (key : String) (values : ValueMap)
    (actor : String) (ambient : Ambient) : Except Fault StoredRecord × Engine :=
  match g.resolveId entityId with
  | .error f => (.error f, g)
  | .ok (e, g) =>
    if e.tableCreated then
      match prepareValues e values with
      | .error f => (.error f, g)
      | .ok data =>
        g.commit <| during ("update row " ++ key ++ " of " ++ e.table) do
          let (row, database) ← g.database.updateRow e key data ambient
          return (.row row, database)
    else
      match g.database.recordByKey? entityId key with
      | none => (.error (.recordNotFound (.key key)), g)
      | some current =>
        let (updated, g) := g.updateRecord current.id values actor ambient
        (updated.map .document, g)

/-- Removes the document with an id. -/
def deleteRecord (g : Engine) (id : Int) : Except Fault Unit × Engine :=
  g.commit <| during ("delete record " ++ toString id)
    ((g.database.deleteRecord id).map fun database => ((), database))

/-- Removes the record of an entity with a key. -/
def deleteRecordByKey (g : Engine) (entityId : Int) (key : String) : Except Fault Unit × Engine :=
  match g.resolveId entityId with
  | .error f => (.error f, g)
  | .ok (e, g) =>
    let deleted :=
      if e.tableCreated then
        during ("delete row " ++ key ++ " of " ++ e.table) (g.database.deleteRow e key)
      else
        during ("delete record " ++ key) (g.database.deleteRecordByKey entityId key)
    g.commit (deleted.map fun database => ((), database))

/-- The rows of an entity that a query finds: documents show as rows of their data. -/
def foundRows (g : Engine) (e : Entity) (code : String) (o : QueryOptions) :
    Except Fault (Page ValueMap) :=
  if e.tableCreated then
    during ("query table " ++ e.table) (g.database.queryRows e o)
  else
    (during ("query records of entity " ++ code) (g.database.queryRecords e o)).map fun p =>
      { items := p.items.map fun r => r.row e, total := p.total }

/-- Answers a query of the records of an entity. -/
def query (g : Engine) (appId : Int) (code : String) (o : QueryOptions) :
    Except Fault QueryResult × Engine :=
  match g.resolve appId code with
  | .error f => (.error f, g)
  | .ok (e, g) =>
    let answer (p : Page ValueMap) : QueryResult := {
      context := g.contextOf e.code
      rows := p.items.map o.project
      count := if o.count then p.total else none
      stats := if o.stats then some (Stats.aggregate p.items e.fields) else none }
    ((g.foundRows e code o).map answer, g)

end Engine

end EntityEngine
