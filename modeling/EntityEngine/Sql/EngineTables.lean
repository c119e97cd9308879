import EntityEngine.Sql.TableText

/-!
The tables that the engine keeps for itself: definitions, their fields, and documents. The script
that makes them may run any number of times.
-/

namespace EntityEngine.Sql

open Text

/-- A table of the engine with its indexes. -/
structure EngineTable where
  name : String
  columns : List ColumnText
  indexes : List IndexText
  deriving Repr, DecidableEq

namespace EngineTable

/-- A column with its constraints in words. -/
def column (name type : String) (constraints : String := "") : ColumnText where
  name
  type
  constraints := if constraints.isEmpty then [] else [.told constraints]

def id : ColumnText := column "id" "INTEGER" "PRIMARY KEY AUTOINCREMENT"

/-- Who made and who last changed a row, and whether it counts as deleted. -/
def audit : List ColumnText := [
  column "created_by" "TEXT" "NOT NULL", column "created_at" "TEXT" "NOT NULL",
  column "updated_by" "TEXT" "NOT NULL", column "updated_at" "TEXT" "NOT NULL",
  column "deleted" "INTEGER" "NOT NULL DEFAULT 0"]

def index (table name : String) (columns : List String) : IndexText :=
  { name, table, columns }

def definitions : EngineTable where
  name := "entity_definitions"
  columns := [
    id, column "entity_name" "TEXT" "NOT NULL", column "entity_code" "TEXT" "NOT NULL",
    column "table_name" "TEXT" "NOT NULL", column "display_name" "TEXT",
    column "description" "TEXT", column "app_id" "INTEGER" "NOT NULL",
    column "entity_type" "TEXT" "NOT NULL DEFAULT 'DYNAMIC'",
    column "status" "TEXT" "NOT NULL DEFAULT 'ACTIVE'",
    column "auto_create_table" "INTEGER" "NOT NULL DEFAULT 0",
    column "table_created" "INTEGER" "NOT NULL DEFAULT 0",
    column "version" "INTEGER" "NOT NULL DEFAULT 1",
    column "sort_order" "INTEGER" "NOT NULL DEFAULT 0", column "properties" "TEXT"] ++ audit
  indexes := [
    -- Codes are unique among the definitions of an application that are not deleted.
    { name := "entity_definitions_code_app_uidx", table := "entity_definitions",
      columns := ["entity_code", "app_id"], isUnique := true, condition := some "deleted = 0" },
    index "entity_definitions" "entity_definitions_app_idx" ["app_id", "sort_order"]]

def fields : EngineTable where
  name := "entity_field_definitions"
  columns := [
    id, column "entity_id" "INTEGER" "NOT NULL REFERENCES entity_definitions(id)",
    column "field_name" "TEXT" "NOT NULL", column "field_code" "TEXT" "NOT NULL",
    column "display_name" "TEXT", column "description" "TEXT",
    column "field_type" "TEXT" "NOT NULL", column "db_type" "TEXT" "NOT NULL",
    column "field_length" "INTEGER", column "decimal_places" "INTEGER",
    column "is_primary_key" "INTEGER" "NOT NULL DEFAULT 0",
    column "is_not_null" "INTEGER" "NOT NULL DEFAULT 0",
    column "is_unique" "INTEGER" "NOT NULL DEFAULT 0",
    column "is_indexed" "INTEGER" "NOT NULL DEFAULT 0", column "default_value" "TEXT",
    column "sort_order" "INTEGER" "NOT NULL DEFAULT 0",
    column "status" "TEXT" "NOT NULL DEFAULT 'ACTIVE'", column "validation_rules" "TEXT",
    column "properties" "TEXT"] ++ audit
  indexes := [
    index "entity_field_definitions" "entity_field_definitions_entity_idx"
      ["entity_id", "sort_order"]]

def documents : EngineTable where
  name := "entity_data_storage"
  columns := [
    id, column "entity_id" "INTEGER" "NOT NULL REFERENCES entity_definitions(id)",
    column "entity_code" "TEXT" "NOT NULL", column "app_id" "INTEGER" "NOT NULL",
    column "record_id" "TEXT" "NOT NULL UNIQUE", column "data_json" "TEXT" "NOT NULL",
    column "version" "INTEGER" "NOT NULL DEFAULT 1",
    column "status" "TEXT" "NOT NULL DEFAULT 'ACTIVE'", column "properties" "TEXT"] ++ audit
  indexes := [
    index "entity_data_storage" "entity_data_storage_listing_idx"
      ["app_id", "entity_code", "created_at"],
    index "entity_data_storage" "entity_data_storage_entity_idx" ["entity_id"]]

def all : List EngineTable := [definitions, fields, documents]

/-- The statements that make a table and its indexes. -/
def statements (t : EngineTable) : List String :=
  TableText.render { table := t.name, ifNotExists := true, columns := t.columns } ::
    t.indexes.map IndexText.render

/-- The names of all indexes of the engine's tables. -/
def indexNames : List String := all.flatMap fun t => t.indexes.map IndexText.name

/-- The tables that are there before any entity has one. -/
def tableNames : List String := all.map EngineTable.name ++ ["sqlite_sequence"]

def schemaVersion : Nat := 1

/-- The script that makes all tables of the engine. -/
def script : String :=
  "PRAGMA journal_mode = WAL;\nPRAGMA foreign_keys = ON;\n" ++
    String.join (all.flatMap fun t => t.statements.map fun s => s ++ ";\n") ++
    "PRAGMA user_version = " ++ toString schemaVersion ++ ";\n"

end EngineTable

end EntityEngine.Sql
