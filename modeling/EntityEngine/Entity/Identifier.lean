import EntityEngine.Text.Blank

/-!
Names of tables and fields: which ones are well formed, and which ones are kept for the engine.
-/

namespace EntityEngine

open Text

/-- An ASCII letter or `_`. -/
def isIdentifierStart (c : Char) : Bool := c.isAlpha || c == '_'

/-- An ASCII letter, a digit or `_`. -/
def isIdentifierChar (c : Char) : Bool := c.isAlphanum || c == '_'

def maxIdentifierLength : Nat := 64

/-- The characters of a well-formed name. -/
def isIdentifierText (s : List Char) : Bool :=
  match s with
  | [] => false
  | c :: r => isIdentifierStart c && r.all isIdentifierChar && s.length ≤ maxIdentifierLength

/-- A name of a table or a field: a letter or `_`, then letters, digits and `_`, at most 64
characters in all. -/
def isIdentifier (name : String) : Bool := isIdentifierText name.toList

/-- The columns that come before the fields in a template table. -/
def systemColumns : List String :=
  ["id", "record_id", "created_at", "updated_at", "version", "status"]

def isSystemColumn (name : String) : Bool := systemColumns.any (sameFold name)

/-- The tables that the engine keeps for itself. -/
def engineTables : List String :=
  ["entity_definitions", "entity_field_definitions", "entity_data_storage"]

/-- How the names of the database's own tables start. -/
def reservedStart : List Char := "sqlite_".toList

/-- A table of the engine, or a name that the database keeps for itself. -/
def isReservedTable (name : String) : Bool :=
  let name := trim name
  engineTables.any (sameFold name) ||
    startsWith reservedStart (name.toList.map Char.toLower)


end EntityEngine
