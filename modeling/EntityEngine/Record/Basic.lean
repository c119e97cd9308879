import EntityEngine.Entity.Form

/-!
Records: documents of an entity, and the rows that queries show for them.
-/

namespace EntityEngine

/-- A stored document. -/
structure Record where
  id : Int
  /-- A random identifier that no other record has. -/
  recordId : String
  entityId : Int
  entityCode : String
  appId : Int
  data : ValueMap
  /-- Starts at 1 and grows by one with each update. -/
  version : Int
  status : ItemStatus
  properties : Option Json
  audit : Audit
  deleted : Bool
  deriving Repr, DecidableEq

namespace Record

/-- What a row shows besides the fields. -/
def systemValues (r : Record) : List (String × Json) := [
  ("id", .text r.recordId), ("version", .integer r.version), ("status", .text r.status.name),
  ("created_at", .text r.audit.createdAt.shown), ("updated_at", .text r.audit.updatedAt.shown)]

/-- The row of a record: its data, and the system values under names that the entity does not
declare. -/
def row (r : Record) (e : Entity) : ValueMap :=
  (r.systemValues.filter fun (name, _) => !e.declares name).foldl
    (fun row (name, value) => ValueMap.insert name value row) r.data

def toJson (r : Record) : Json := .object <| ValueMap.ofEntries <| [
  ("id", .integer r.id), ("record_id", .text r.recordId), ("entity_id", .integer r.entityId),
  ("entity_code", .text r.entityCode), ("app_id", .integer r.appId), ("data", .object r.data),
  ("version", .integer r.version), ("status", .text r.status.name),
  ("properties", r.properties.getD .null), ("deleted", .bool r.deleted)] ++ r.audit.entries

end Record

/-- What a caller gets for a record: the document, or the row of the entity's table. -/
inductive StoredRecord where
  | document (r : Record)
  | row (values : ValueMap)
  deriving Repr, DecidableEq

def StoredRecord.toJson : StoredRecord → Json
  | document r => r.toJson
  | row values => .object values

/-- One page of a result, with the count of all matches if it was asked for. -/
structure Page (α : Type) where
  items : List α
  total : Option Nat
  deriving Repr

/-- The part of a list that a limit and an offset leave. -/
def slice (limit offset : Nat) (xs : List α) : List α := (xs.drop offset).take limit

end EntityEngine
