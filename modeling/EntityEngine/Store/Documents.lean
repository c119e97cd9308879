import EntityEngine.Query.Plan
import EntityEngine.Store.Definitions

/-!
Documents in the store. A document belongs to a definition, deleted or not; its data is kept as
JSON text and read back from it.
-/

namespace EntityEngine.Store

open Number Sql

/-- A stored document as it is read back. -/
def readBack (r : Record) : Record :=
  { r with data := r.data.map fun (k, v) => (k, v.reread) }

/-- The value of a part of a stored document. Numbers are read from the text that is stored. -/
def storedValue : Json → Value
  | .integer n => (numeric? (toString n)).getD .null
  | .real x => (numeric? (Json.real x).render).getD .null
  | v => .ofJson v

/-- The values of a stored document. Its own columns have affinities; the values of its data have
none. -/
def documentReading (r : Record) : Operand → Value × Affinity
  | .plain "id" => (.integer r.id, .integer)
  | .plain "record_id" => (.text r.recordId, .text)
  | .plain "entity_id" => (.integer r.entityId, .integer)
  | .plain "entity_code" => (.text r.entityCode, .text)
  | .plain "app_id" => (.integer r.appId, .integer)
  | .plain "version" => (.integer r.version, .integer)
  | .plain "status" => (.text r.status.name, .text)
  | .plain "created_at" => (.text r.audit.createdAt.stored, .text)
  | .plain "updated_at" => (.text r.audit.updatedAt.stored, .text)
  | .plain "deleted" => (.integer (if r.deleted then 1 else 0), .integer)
  | .member field => (storedValue ((r.data.get? field).getD .null), .none)
  | _ => (.null, .none)

/-- What a stored document gives for the operands of a statement. -/
def documentReader (r : Record) : Reader := fun o =>
  let (value, affinity) := documentReading r o
  { value, affinity }

namespace Database

/-- Stores a new document, and gives it as it was handed in. -/
def insertRecord (db : Database) (entityId : Int) (entityCode : String) (appId : Int)
    (data : ValueMap) (actor : String) (ambient : Ambient) :
    Except EntityEngine.Fault (Record × Database) := do
  let id ← (db.nextId .documents (db.documents.map Record.id)).mapError .database
  if db.documents.any fun r => r.recordId = ambient.recordId then
    throw (.database (.unique EngineTable.documents.name ["record_id"]))
  if !db.entities.any fun e => e.id = entityId then throw (.database .foreignKey)
  let record : Record := {
    id
    recordId := ambient.recordId
    entityId
    entityCode
    appId
    data
    version := 1
    status := .active
    properties := none
    audit := .fresh actor ambient.now
    deleted := false }
  let stored := { record with audit := .fresh actor ambient.now.toMicros }
  return (record, { db with documents := db.documents ++ [stored] }.useIds .documents [id])

/-- The stored document with an id. -/
def document? (db : Database) (id : Int) : Option Record := db.documents.find? fun r => r.id = id

/-- The document with an id. -/
def record? (db : Database) (id : Int) : Option Record := (db.document? id).map readBack

/-- The document of an entity with an identifier. -/
def recordByKey? (db : Database) (entityId : Int) (recordId : String) : Option Record :=
  (db.documents.find? fun r => r.entityId = entityId ∧ r.recordId = recordId).map readBack

/-- Replaces the data of a document. -/
def updateRecord (db : Database) (id : Int) (data : ValueMap) (actor : String)
    (ambient : Ambient) : Except EntityEngine.Fault (Record × Database) :=
  match db.document? id with
  | none => .error (.recordNotFound (.id id))
  | some r =>
    let changed := { r with
      data
      version := r.version + 1
      audit := r.audit.touched actor ambient.now.toMicros }
    .ok (readBack changed, { db with
      documents := db.documents.map fun r => if r.id = id then changed else r })

/-- Removes a document. -/
def deleteRecord (db : Database) (id : Int) : Except EntityEngine.Fault Database :=
  if db.documents.any fun r => r.id = id then
    .ok { db with documents := db.documents.filter fun r => r.id ≠ id }
  else .error (.recordNotFound (.id id))

/-- Removes the document of an entity with an identifier. -/
def deleteRecordByKey (db : Database) (entityId : Int) (recordId : String) :
    Except EntityEngine.Fault Database :=
  let isMeant (r : Record) : Bool := r.entityId = entityId ∧ r.recordId = recordId
  if db.documents.any isMeant then
    .ok { db with documents := db.documents.filter fun r => !isMeant r }
  else .error (.recordNotFound (.key recordId))

/-- The documents that a selection gives, without its limit. -/
def selectDocuments (db : Database) (conditions : List Condition) (order : List OrderTerm) :
    List Record :=
  sortRows order documentReader (matching conditions documentReader db.documents)

/-- A page of the documents under a code, the newest first; pages count from 1. -/
def listRecords (db : Database) (appId : Int) (code : String) (page size : Nat) :
    Except EntityEngine.Fault (List Record) := do
  let limit := max size 1
  let offset ← (multiply64 (max page 1 - 1 : Nat) limit).mapError .overflow
  let conditions : List Condition := [
    .compare (.plain "app_id") .eq (.integer appId),
    .compare (.plain "entity_code") .eq (.text code), .kept]
  let found := db.selectDocuments conditions Query.documentOrder
  return (slice limit offset.toNat found).map readBack

/-- The documents that a query asks for, and how many there are in all. -/
def queryRecords (db : Database) (e : Entity) (o : QueryOptions) :
    Except EntityEngine.Fault (Page Record) := do
  let plan ← (Query.overDocuments e o).mapError .overflow
  if let some f := matchFault? plan.conditions documentReader db.documents then
    throw (.database f)
  let found := db.selectDocuments plan.conditions plan.order
  return {
    items := (slice plan.limit.toNat plan.offset.toNat found).map readBack
    total := if o.count then some found.length else none }

end Database

end EntityEngine.Store
