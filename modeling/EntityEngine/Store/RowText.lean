import EntityEngine.Fault
import EntityEngine.Json.Text
import EntityEngine.Record.Basic

/-!
Rows of the engine's own tables as they are stored, with names, instants and JSON as texts, and
what they stand for. The first text that stands for nothing decides the fault.
-/

namespace EntityEngine

open Time

/-- What a stored name stands for. -/
def decodeName (column : String) (parse? : String → Option α) (s : String) : Except Fault α :=
  match parse? s with
  | some v => .ok v
  | none => .error (.persistence "" (.unknownName column s))

def decodeInstant (s : String) : Except Fault Instant :=
  match Instant.parse? s with
  | some t => .ok t
  | none => .error (.persistence "" .badInstant)

/-- The JSON that a text writes; a missing text stands for none. -/
def decodeJson : Option String → Except Fault (Option Json)
  | none => .ok none
  | some s =>
    match Json.parse? s with
    | some v => .ok (some v)
    | none => .error .serialization

/-- The text of JSON. -/
def encodeJson (v : Option Json) : Option String := v.map Json.render

/-- The object that a text writes. -/
def decodeObject (s : String) : Except Fault ValueMap :=
  match Json.parse? s with
  | some (.object es) => .ok es
  | _ => .error .serialization

/-- The stored texts of an audit. -/
structure AuditText where
  createdBy : String
  createdAt : String
  updatedBy : String
  updatedAt : String
  deriving Repr, DecidableEq

def AuditText.decode (a : AuditText) : Except Fault Audit := do
  let createdAt ← decodeInstant a.createdAt
  let updatedAt ← decodeInstant a.updatedAt
  return ⟨a.createdBy, createdAt, a.updatedBy, updatedAt⟩

/-- A stored row, of which these texts are still to be read. -/
structure FieldRow where
  /-- Everything but the texts below. -/
  field : Field
  type : String
  status : String
  properties : Option String
  audit : AuditText
  deriving Repr, DecidableEq

def FieldRow.decode (r : FieldRow) : Except Fault Field := do
  let type ← decodeName "field_type" FieldType.parse? r.type
  let status ← decodeName "status" ItemStatus.ofName? r.status
  let properties ← decodeJson r.properties
  let audit ← r.audit.decode
  return { r.field with type, status, properties, audit }

/-- A stored row, of which these texts are still to be read. -/
structure EntityRow where
  /-- Everything but the texts below and the fields. -/
  entity : Entity
  kind : String
  status : String
  properties : Option String
  audit : AuditText
  fields : List FieldRow
  deriving Repr, DecidableEq

def EntityRow.decode (r : EntityRow) : Except Fault Entity := do
  let kind ← decodeName "entity_type" EntityKind.ofName? r.kind
  let status ← decodeName "status" EntityStatus.ofName? r.status
  let properties ← decodeJson r.properties
  let audit ← r.audit.decode
  let fields ← r.fields.mapM FieldRow.decode
  return { r.entity with kind, status, properties, audit, fields }

/-- A stored row, of which these texts are still to be read. -/
structure RecordRow where
  /-- Everything but the texts below. -/
  record : Record
  data : String
  status : String
  properties : Option String
  audit : AuditText
  deriving Repr, DecidableEq

def RecordRow.decode (r : RecordRow) : Except Fault Record := do
  let data ← decodeObject r.data
  let status ← decodeName "status" ItemStatus.ofName? r.status
  let properties ← decodeJson r.properties
  let audit ← r.audit.decode
  return { r.record with data, status, properties, audit }

end EntityEngine
