import EntityEngine.Entity.Definition
import EntityEngine.Number.Numeral
import EntityEngine.Text.Blank

/-!
Statements that make tables and indexes, as data and as text. The table of an entity has one
column per field, in a template after the system columns. A key field of a native table belongs to
the primary key; in a template, whose key is its own `id`, it is unique and never null.
-/

namespace EntityEngine.Sql

open Number Text

/-- A name in double quotes. -/
def quotedName (name : String) : String :=
  String.ofList ('"' :: (double '"' name.toList ++ ['"']))

/-- A text in single quotes. -/
def quotedText (s : String) : String :=
  String.ofList ('\'' :: (double '\'' s.toList ++ ['\'']))

/-- A value that a column has where a row gives none. -/
inductive DefaultValue where
  /-- A numeral as written. -/
  | number (numeral : String)
  | flag (b : Bool)
  /-- A word for the current time, date, or both. -/
  | clock (word : String)
  | text (s : String)
  deriving Repr, DecidableEq

namespace DefaultValue

/-- The words for the current time. -/
def clockWords : List String := ["CURRENT_TIMESTAMP", "CURRENT_DATE", "CURRENT_TIME"]

/-- The default that a field's text stands for. Numbers, flags and words for the current time are
read with the blanks around them left out; any other text is taken as it is. -/
def ofText (type : FieldType) (raw : String) : DefaultValue :=
  let value := trim raw
  match type with
  | .integer | .long | .decimal =>
    if (finite? value).isSome then .number value else .text raw
  | .boolean =>
    if sameFold value "true" then .flag true
    else if sameFold value "false" then .flag false
    else .text raw
  | .datetime =>
    if clockWords.any (sameFold value) then .clock (capitals value) else .text raw
  | _ => .text raw

def literal : DefaultValue → String
  | .number numeral => numeral
  | .flag b => if b then "1" else "0"
  | .clock word => word
  | .text s => quotedText s

end DefaultValue

inductive ColumnConstraint where
  /-- The column is the number of its row, and no number is used twice. -/
  | autoKey
  | notNull
  | unique
  | default (value : DefaultValue)
  /-- A constraint in words. -/
  | told (text : String)
  deriving Repr, DecidableEq

def ColumnConstraint.render : ColumnConstraint → String
  | .autoKey => "PRIMARY KEY AUTOINCREMENT"
  | .notNull => "NOT NULL"
  | .unique => "UNIQUE"
  | .default value => "DEFAULT " ++ value.literal
  | .told text => text

structure ColumnText where
  name : String
  type : String
  constraints : List ColumnConstraint := []
  comment : Option String := none
  deriving Repr, DecidableEq

namespace ColumnText

/-- A comment, with the mark that would end it early broken up. -/
def commentText (s : String) : String :=
  " /* " ++ String.ofList (replacePair '*' '/' ['*', ' ', '/'] s.toList) ++ " */"

def render (c : ColumnText) : String :=
  quotedName c.name ++ " " ++ c.type ++
    String.join (c.constraints.map fun k => " " ++ k.render) ++
    (match c.comment with
      | some s => commentText s
      | none => "")

end ColumnText

structure TableText where
  table : String
  ifNotExists : Bool := false
  columns : List ColumnText
  /-- The columns of the primary key, if it is not told at a column. -/
  primaryKey : List String := []
  deriving Repr, DecidableEq

namespace TableText

/-- The statement before the name of the table. -/
def opening (t : TableText) : String :=
  "CREATE TABLE " ++ if t.ifNotExists then "IF NOT EXISTS " else ""

def keyText (columns : List String) : String :=
  "PRIMARY KEY (" ++ join ", " (columns.map quotedName) ++ ")"

/-- The statement from the name of the table on. -/
def body (t : TableText) : String :=
  let lines := t.columns.map ColumnText.render ++
    if t.primaryKey.isEmpty then [] else [keyText t.primaryKey]
  quotedName t.table ++ " (\n  " ++ join ",\n  " lines ++ "\n)"

def render (t : TableText) : String := t.opening ++ t.body

/-- The statement as it is kept, without regard to tables that are there. -/
def plainRender (t : TableText) : String := "CREATE TABLE " ++ t.body

end TableText

structure IndexText where
  name : String
  table : String
  columns : List String
  isUnique : Bool := false
  /-- The condition of the rows in the index. -/
  condition : Option String := none
  deriving Repr, DecidableEq

/-- The statement with some words before the name of the index. -/
def IndexText.renderWith (x : IndexText) (words : String) : String :=
  "CREATE " ++ (if x.isUnique then "UNIQUE " else "") ++ "INDEX " ++ words ++
    quotedName x.name ++ " ON " ++ quotedName x.table ++
    " (" ++ join ", " (x.columns.map quotedName) ++ ")" ++
    (match x.condition with
      | some s => " WHERE " ++ s
      | none => "")

def IndexText.render (x : IndexText) : String := x.renderWith "IF NOT EXISTS "

/-- The statement as it is kept, without regard to indexes that are there. -/
def IndexText.plainRender (x : IndexText) : String := x.renderWith ""

/-- The statement that drops a table. -/
def dropText (table : String) : String := "DROP TABLE IF EXISTS " ++ quotedName table

end EntityEngine.Sql

namespace EntityEngine

open Sql

/-- The column of a field. -/
def Field.columnText (f : Field) (layout : Layout) : ColumnText where
  name := f.name
  type := f.columnType
  constraints :=
    (if f.isNotNull || f.isKey then [.notNull] else []) ++
    (if (layout = .template && f.isKey) || (f.isUnique && !f.isKey) then [.unique] else []) ++
    (match f.default with
      | some s => [.default (.ofText f.type s)]
      | none => [])
  comment := f.displayName

/-- The columns that a template has before its fields. -/
def systemColumnTexts : List ColumnText := [
  { name := "id", type := "INTEGER", constraints := [.autoKey] },
  { name := "record_id", type := "VARCHAR(32)", constraints := [.notNull, .unique] },
  { name := "created_at", type := "DATETIME", constraints := [.notNull] },
  { name := "updated_at", type := "DATETIME", constraints := [.notNull] },
  { name := "version", type := "INT", constraints := [.notNull, .default (.number "1")] },
  { name := "status", type := "VARCHAR(16)",
    constraints := [.notNull, .default (.text "ACTIVE")] }]

namespace Entity

/-- The table of an entity. -/
def tableText (e : Entity) : TableText where
  table := e.table
  columns :=
    (match e.layout with
      | .template => systemColumnTexts
      | .native => []) ++ e.fields.map fun f => f.columnText e.layout
  primaryKey :=
    match e.layout with
    | .template => []
    | .native => e.keys.map Field.name

def indexText (e : Entity) (f : Field) : IndexText where
  name := "idx_" ++ e.table ++ "_" ++ f.name
  table := e.table
  columns := [f.name]

/-- An index for each field that asks for one. -/
def indexTexts (e : Entity) : List IndexText := (e.fields.filter Field.isIndexed).map e.indexText

/-- The statements that make an entity's table and its indexes, in order. -/
def statements (e : Entity) : List String :=
  e.tableText.render :: e.indexTexts.map IndexText.render

end Entity

end EntityEngine
