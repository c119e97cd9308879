import EntityEngine.Store.Declaration
import EntityEngine.Store.Definitions
import EntityEngine.Store.RowText

/-!
Definitions, fields and documents as rows of the engine's own tables, and what rows of these tables
stand for. A row is read value by value; the first that is of a wrong type decides the fault.
-/

namespace EntityEngine.Store

open Number Sql

/-- An optional text as a value. -/
def optionalText (s : Option String) : Value := (s.map Value.text).getD .null

/-- An optional number as a value. -/
def optionalNumber (n : Option Nat) : Value := (n.map fun (n : Nat) => Value.integer n).getD .null

/-- The values that tell who made and changed a row, and whether it counts as deleted. -/
def auditValues (a : Audit) (deleted : Bool) : List Value := [
  .text a.createdBy, .text a.createdAt.stored, .text a.updatedBy, .text a.updatedAt.stored,
  .ofBool deleted]

/-- The row of a definition. -/
def entityRow (e : Entity) : Row where
  number := e.id
  values := [
    .integer e.id, .text e.name, .text e.code, .text e.table, optionalText e.displayName,
    optionalText e.description, .integer e.appId, .text e.kind.name, .text e.status.name,
    .ofBool e.autoCreate, .ofBool e.tableCreated, .integer e.version, .integer e.sortOrder,
    optionalText (encodeJson e.properties)] ++ auditValues e.audit e.deleted

/-- The row of a field of a definition, which counts as deleted with it. -/
def fieldRow (deleted : Bool) (f : Field) : Row where
  number := f.id
  values := [
    .integer f.id, .integer f.entityId, .text f.name, .text f.code, optionalText f.displayName,
    optionalText f.description, .text f.type.name, .text f.columnType, optionalNumber f.length,
    optionalNumber f.scale, .ofBool f.isKey, .ofBool f.isNotNull, .ofBool f.isUnique,
    .ofBool f.isIndexed, optionalText f.default, .integer f.sortOrder, .text f.status.name,
    optionalText f.rules, optionalText (encodeJson f.properties)] ++ auditValues f.audit deleted

/-- The row of a document. -/
def documentRow (r : Record) : Row where
  number := r.id
  values := [
    .integer r.id, .integer r.entityId, .text r.entityCode, .integer r.appId, .text r.recordId,
    .text (Json.object r.data).render, .integer r.version, .text r.status.name,
    optionalText (encodeJson r.properties)] ++ auditValues r.audit r.deleted

/-! ### Reading rows -/

/-- A row of a table whose columns are read in some order. -/
structure Cells where
  columns : List String
  value : String → Value

namespace Cells

/-- The cells of a row of an engine's table. -/
def ofRow (t : EngineTable) (columns : List String) (row : Row) : Cells where
  columns
  value name :=
    match t.columns.findIdx? fun c => c.name = name with
    | some i => Table.valueAt row i
    | none => .null

/-- The columns of a table, in order. -/
def names (t : EngineTable) : List String := t.columns.map ColumnText.name

/-- The value under a column as something else. An integer that it is not is out of range. -/
def get (c : Cells) (read : Value → Option α) (name : String) : Except EntityEngine.Fault α :=
  let place := (c.columns.findIdx? (· = name)).getD 0
  let v := c.value name
  match read v, v with
  | some a, _ => .ok a
  | none, .integer n => .error (.database (.resultRange n place))
  | none, v => .error (.database (.resultType v.typeName name place))

def text (c : Cells) : String → Except EntityEngine.Fault String :=
  c.get fun v =>
    match v with
    | .text s => some s
    | _ => none

def text? (c : Cells) : String → Except EntityEngine.Fault (Option String) :=
  c.get fun v =>
    match v with
    | .null => some none
    | .text s => some (some s)
    | _ => none

def integer (c : Cells) : String → Except EntityEngine.Fault Int :=
  c.get fun v =>
    match v with
    | .integer n => some n
    | _ => none

/-- An integer of 32 bits. -/
def small (c : Cells) : String → Except EntityEngine.Fault Int :=
  c.get fun v =>
    match v with
    | .integer n => if -0x80000000 ≤ n ∧ n < 0x80000000 then some n else none
    | _ => none

/-- A natural number of 32 bits. -/
def count? (c : Cells) : String → Except EntityEngine.Fault (Option Nat) :=
  c.get fun v =>
    match v with
    | .null => some none
    | .integer n => if 0 ≤ n ∧ n ≤ maxNat32 then some (some n.toNat) else none
    | _ => none

def flag (c : Cells) : String → Except EntityEngine.Fault Bool :=
  c.get fun v =>
    match v with
    | .integer n => some (n ≠ 0)
    | _ => none

def audit (c : Cells) : Except EntityEngine.Fault AuditText := do
  return {
    createdBy := ← c.text "created_by"
    createdAt := ← c.text "created_at"
    updatedBy := ← c.text "updated_by"
    updatedAt := ← c.text "updated_at" }

end Cells

/-- An audit of nobody, in place of one that is still to be read. -/
def unread : Audit := .fresh "" ⟨0, 0⟩

/-- The field that a row stands for, and whether it counts as deleted. -/
def fieldOf (row : Row) : Except EntityEngine.Fault (Field × Bool) := do
  let c := Cells.ofRow .fields (Cells.names .fields) row
  let read : FieldRow := {
    field := {
      id := row.number
      entityId := ← c.integer "entity_id"
      name := ← c.text "field_name"
      code := ← c.text "field_code"
      displayName := ← c.text? "display_name"
      description := ← c.text? "description"
      type := .string
      columnType := ← c.text "db_type"
      length := ← c.count? "field_length"
      scale := ← c.count? "decimal_places"
      isKey := ← c.flag "is_primary_key"
      isNotNull := ← c.flag "is_not_null"
      isUnique := ← c.flag "is_unique"
      isIndexed := ← c.flag "is_indexed"
      default := ← c.text? "default_value"
      sortOrder := ← c.small "sort_order"
      status := .active
      rules := ← c.text? "validation_rules"
      properties := none
      audit := unread }
    type := ← c.text "field_type"
    status := ← c.text "status"
    properties := ← c.text? "properties"
    audit := ← c.audit }
  return (← read.decode, ← c.flag "deleted")

/-- The definition that a row stands for, with those of some fields that are its own and count as
deleted if it does. -/
def entityOf (fields : List (Field × Bool)) (row : Row) : Except EntityEngine.Fault Entity := do
  let c := Cells.ofRow .definitions (Cells.names .definitions) row
  let read : EntityRow := {
    entity := {
      id := row.number
      name := ← c.text "entity_name"
      code := ← c.text "entity_code"
      table := ← c.text "table_name"
      displayName := ← c.text? "display_name"
      description := ← c.text? "description"
      appId := ← c.integer "app_id"
      kind := .dynamic
      status := .active
      autoCreate := ← c.flag "auto_create_table"
      tableCreated := ← c.flag "table_created"
      version := ← c.integer "version"
      sortOrder := ← c.small "sort_order"
      properties := none
      audit := unread
      deleted := ← c.flag "deleted"
      fields := [] }
    kind := ← c.text "entity_type"
    status := ← c.text "status"
    properties := ← c.text? "properties"
    audit := ← c.audit
    fields := [] }
  let e ← read.decode
  let own := fields.filter fun (f, deleted) => f.entityId = e.id && deleted == e.deleted
  return { e with fields := sortFields (own.map Prod.fst) }

/-- The columns of a document in the order in which they are read. -/
def documentColumns : List String := [
  "id", "record_id", "entity_id", "entity_code", "app_id", "data_json", "version", "status",
  "properties", "created_by", "created_at", "updated_by", "updated_at", "deleted"]

/-- The document that a row stands for. -/
def documentOf (row : Row) : Except EntityEngine.Fault Record := do
  let c := Cells.ofRow .documents documentColumns row
  let read : RecordRow := {
    record := {
      id := row.number
      recordId := ← c.text "record_id"
      entityId := ← c.integer "entity_id"
      entityCode := ← c.text "entity_code"
      appId := ← c.integer "app_id"
      data := []
      version := ← c.integer "version"
      status := .active
      properties := none
      audit := unread
      deleted := ← c.flag "deleted" }
    data := ← c.text "data_json"
    status := ← c.text "status"
    properties := ← c.text? "properties"
    audit := ← c.audit }
  read.decode

end EntityEngine.Store
