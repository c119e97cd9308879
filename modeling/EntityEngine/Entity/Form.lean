import EntityEngine.Entity.Definition
import EntityEngine.Json.Shape
import EntityEngine.Time.Rfc3339

/-!
The JSON forms of drafts and definitions.
-/

namespace EntityEngine

open Json Time

def optionalText : Presence × Shape := (.optional, .text)

def requiredText : Presence × Shape := (.required, .text)

def flag : Presence × Shape := (.defaulting (.bool false), .bool)

/-- A field's value: null where the field is not set. -/
def Json.ofNat? : Option Nat → Json
  | some n => .integer n
  | none => .null

/-- The names of field types, as input has to give them. -/
def typeNames : Shape := .name (FieldType.all.map FieldType.name)

namespace FieldDraft

def shape : Shape := .record [
  ("field_name", requiredText), ("field_code", optionalText), ("display_name", optionalText),
  ("description", optionalText), ("field_type", .required, typeNames),
  ("db_type", optionalText), ("field_length", .optional, .nat32),
  ("decimal_places", .optional, .nat32), ("is_primary_key", flag), ("is_not_null", flag),
  ("is_unique", flag), ("is_indexed", flag), ("default_value", optionalText),
  ("sort_order", .optional, .int32), ("validation_rules", optionalText),
  ("properties", .optional, .any)]

/-- The draft that a value of the form describes. -/
def ofJson (v : Json) : FieldDraft where
  name := v.getText "field_name"
  type := (FieldType.ofName? (v.getText "field_type")).getD .string
  code := v.getText? "field_code"
  displayName := v.getText? "display_name"
  description := v.getText? "description"
  columnType := v.getText? "db_type"
  length := v.getNat? "field_length"
  scale := v.getNat? "decimal_places"
  isKey := v.getBool "is_primary_key"
  isNotNull := v.getBool "is_not_null"
  isUnique := v.getBool "is_unique"
  isIndexed := v.getBool "is_indexed"
  default := v.getText? "default_value"
  sortOrder := v.getInteger? "sort_order"
  rules := v.getText? "validation_rules"
  properties := v.getSome? "properties"

def toJson (f : FieldDraft) : Json := .object <| ValueMap.ofEntries [
  ("field_name", .text f.name), ("field_code", Json.ofText? f.code),
  ("display_name", Json.ofText? f.displayName), ("description", Json.ofText? f.description),
  ("field_type", .text f.type.name), ("db_type", Json.ofText? f.columnType),
  ("field_length", Json.ofNat? f.length), ("decimal_places", Json.ofNat? f.scale),
  ("is_primary_key", .bool f.isKey), ("is_not_null", .bool f.isNotNull),
  ("is_unique", .bool f.isUnique), ("is_indexed", .bool f.isIndexed),
  ("default_value", Json.ofText? f.default), ("sort_order", Json.ofInteger? f.sortOrder),
  ("validation_rules", Json.ofText? f.rules), ("properties", f.properties.getD .null)]

end FieldDraft

namespace EntityDraft

def shape : Shape := .record [
  ("entity_name", requiredText), ("entity_code", optionalText), ("table_name", requiredText),
  ("display_name", optionalText), ("description", optionalText), ("app_id", .required, .int64),
  ("entity_type", .defaulting (.text "DYNAMIC"), .name (EntityKind.all.map EntityKind.name)),
  ("status", .defaulting (.text "ACTIVE"), .name (EntityStatus.all.map EntityStatus.name)),
  ("auto_create_table", flag), ("sort_order", .defaulting (.integer 0), .int32),
  ("properties", .optional, .any), ("fields", .required, .list FieldDraft.shape)]

/-- The draft that a value of the form describes. -/
def ofJson (v : Json) : EntityDraft where
  appId := v.getInteger "app_id"
  name := v.getText "entity_name"
  table := v.getText "table_name"
  fields := (v.getList "fields").map FieldDraft.ofJson
  code := v.getText? "entity_code"
  displayName := v.getText? "display_name"
  description := v.getText? "description"
  kind := (EntityKind.ofName? (v.getText "entity_type")).getD .dynamic
  status := (EntityStatus.ofName? (v.getText "status")).getD .active
  autoCreate := v.getBool "auto_create_table"
  sortOrder := v.getInteger "sort_order"
  properties := v.getSome? "properties"

def toJson (e : EntityDraft) : Json := .object <| ValueMap.ofEntries [
  ("entity_name", .text e.name), ("entity_code", Json.ofText? e.code),
  ("table_name", .text e.table), ("display_name", Json.ofText? e.displayName),
  ("description", Json.ofText? e.description), ("app_id", .integer e.appId),
  ("entity_type", .text e.kind.name), ("status", .text e.status.name),
  ("auto_create_table", .bool e.autoCreate), ("sort_order", .integer e.sortOrder),
  ("properties", e.properties.getD .null), ("fields", .array (e.fields.map FieldDraft.toJson))]

end EntityDraft

/-- The form of the entries that tell who made and who changed something. -/
def Audit.shape : List (String × Presence × Shape) := [
  ("created_by", requiredText), ("created_at", requiredText), ("updated_by", requiredText),
  ("updated_at", requiredText)]

namespace Audit

/-- The audit that a value describes; none if a time in it cannot be read. -/
def ofJson? (v : Json) : Option Audit := do
  let createdAt ← Instant.parseLenient? (v.getText "created_at")
  let updatedAt ← Instant.parseLenient? (v.getText "updated_at")
  some ⟨v.getText "created_by", createdAt, v.getText "updated_by", updatedAt⟩

def entries (a : Audit) : List (String × Json) := [
  ("created_by", .text a.createdBy), ("created_at", .text a.createdAt.shown),
  ("updated_by", .text a.updatedBy), ("updated_at", .text a.updatedAt.shown)]

end Audit

namespace Field

def shape : Shape := .record ([
  ("id", .required, .int64), ("entity_id", .required, .int64), ("field_name", requiredText),
  ("field_code", requiredText), ("display_name", optionalText), ("description", optionalText),
  ("field_type", .required, typeNames), ("db_type", requiredText),
  ("field_length", .optional, .nat32), ("decimal_places", .optional, .nat32),
  ("is_primary_key", .required, .bool), ("is_not_null", .required, .bool),
  ("is_unique", .required, .bool), ("is_indexed", .required, .bool),
  ("default_value", optionalText), ("sort_order", .required, .int32),
  ("status", .required, .name (ItemStatus.all.map ItemStatus.name)),
  ("validation_rules", optionalText), ("properties", .optional, .any)] ++ Audit.shape)

/-- The field that a value of the form describes; none if a time in it cannot be read. -/
def ofJson? (v : Json) : Option Field := do
  let audit ← Audit.ofJson? v
  some {
    id := v.getInteger "id"
    entityId := v.getInteger "entity_id"
    name := v.getText "field_name"
    code := v.getText "field_code"
    displayName := v.getText? "display_name"
    description := v.getText? "description"
    type := (FieldType.ofName? (v.getText "field_type")).getD .string
    columnType := v.getText "db_type"
    length := v.getNat? "field_length"
    scale := v.getNat? "decimal_places"
    isKey := v.getBool "is_primary_key"
    isNotNull := v.getBool "is_not_null"
    isUnique := v.getBool "is_unique"
    isIndexed := v.getBool "is_indexed"
    default := v.getText? "default_value"
    sortOrder := v.getInteger "sort_order"
    status := (ItemStatus.ofName? (v.getText "status")).getD .active
    rules := v.getText? "validation_rules"
    properties := v.getSome? "properties"
    audit }

def toJson (f : Field) : Json := .object <| ValueMap.ofEntries <| [
  ("id", .integer f.id), ("entity_id", .integer f.entityId), ("field_name", .text f.name),
  ("field_code", .text f.code), ("display_name", Json.ofText? f.displayName),
  ("description", Json.ofText? f.description), ("field_type", .text f.type.name),
  ("db_type", .text f.columnType), ("field_length", Json.ofNat? f.length),
  ("decimal_places", Json.ofNat? f.scale), ("is_primary_key", .bool f.isKey),
  ("is_not_null", .bool f.isNotNull), ("is_unique", .bool f.isUnique),
  ("is_indexed", .bool f.isIndexed), ("default_value", Json.ofText? f.default),
  ("sort_order", .integer f.sortOrder), ("status", .text f.status.name),
  ("validation_rules", Json.ofText? f.rules), ("properties", f.properties.getD .null)] ++
  f.audit.entries

end Field

namespace Entity

def shape : Shape := .record ([
  ("id", .required, .int64), ("entity_name", requiredText), ("entity_code", requiredText),
  ("table_name", requiredText), ("display_name", optionalText), ("description", optionalText),
  ("app_id", .required, .int64),
  ("entity_type", .required, .name (EntityKind.all.map EntityKind.name)),
  ("status", .required, .name (EntityStatus.all.map EntityStatus.name)),
  ("auto_create_table", .required, .bool), ("table_created", .required, .bool),
  ("version", .required, .int64), ("sort_order", .required, .int32),
  ("properties", .optional, .any)] ++ Audit.shape ++ [
  ("deleted", .required, .bool), ("fields", .required, .list Field.shape)])

/-- The definition that a value of the form describes; none if a time in it cannot be read. -/
def ofJson? (v : Json) : Option Entity := do
  let audit ← Audit.ofJson? v
  let fields ← (v.getList "fields").mapM Field.ofJson?
  some {
    id := v.getInteger "id"
    name := v.getText "entity_name"
    code := v.getText "entity_code"
    table := v.getText "table_name"
    displayName := v.getText? "display_name"
    description := v.getText? "description"
    appId := v.getInteger "app_id"
    kind := (EntityKind.ofName? (v.getText "entity_type")).getD .dynamic
    status := (EntityStatus.ofName? (v.getText "status")).getD .active
    autoCreate := v.getBool "auto_create_table"
    tableCreated := v.getBool "table_created"
    version := v.getInteger "version"
    sortOrder := v.getInteger "sort_order"
    properties := v.getSome? "properties"
    audit
    deleted := v.getBool "deleted"
    fields }

def toJson (e : Entity) : Json := .object <| ValueMap.ofEntries <| [
  ("id", .integer e.id), ("entity_name", .text e.name), ("entity_code", .text e.code),
  ("table_name", .text e.table), ("display_name", Json.ofText? e.displayName),
  ("description", Json.ofText? e.description), ("app_id", .integer e.appId),
  ("entity_type", .text e.kind.name), ("status", .text e.status.name),
  ("auto_create_table", .bool e.autoCreate), ("table_created", .bool e.tableCreated),
  ("version", .integer e.version), ("sort_order", .integer e.sortOrder),
  ("properties", e.properties.getD .null), ("deleted", .bool e.deleted),
  ("fields", .array (e.fields.map Field.toJson))] ++ e.audit.entries

end Entity

end EntityEngine
