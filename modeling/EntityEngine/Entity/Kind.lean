import EntityEngine.Text.Ascii

/-!
The kinds of fields and entities, with the names they have in data and the column types they stand
for.
-/

namespace EntityEngine

open Text

/-- The type of a field's values, apart from the column that holds them. -/
inductive FieldType where
  | string
  | integer
  | long
  | decimal
  | boolean
  | datetime
  | text
  | json
  deriving Repr, DecidableEq, Inhabited

/-- The two forms of an entity's table. -/
inductive Layout where
  /-- One column per field; the flagged fields are the primary key. -/
  | native
  /-- The system columns, then one column per field. -/
  | template
  deriving Repr, DecidableEq, Inhabited

namespace FieldType

def all : List FieldType := [string, integer, long, decimal, boolean, datetime, text, json]

def name : FieldType → String
  | string => "STRING"
  | integer => "INTEGER"
  | long => "LONG"
  | decimal => "DECIMAL"
  | boolean => "BOOLEAN"
  | datetime => "DATETIME"
  | text => "TEXT"
  | json => "JSON"

/-- The type with a name, in capitals or small letters. -/
def parse? (s : String) : Option FieldType := all.find? fun t => sameFold t.name s

def ofName? (s : String) : Option FieldType := all.find? fun t => t.name = s

def isNumeric : FieldType → Bool
  | integer | long | decimal => true
  | _ => false

def isTextual : FieldType → Bool
  | string | text => true
  | _ => false

/-- The length of a text column where none is given. -/
def defaultLength : Nat := 255

/-- The precision and the scale of a decimal column where none is given. -/
def defaultPrecision : Layout → Nat × Nat
  | .native => (19, 2)
  | .template => (10, 2)

/-- The type of the column that holds a field's values. -/
def columnType (t : FieldType) (length scale : Option Nat) (layout : Layout) : String :=
  match t with
  | string => "VARCHAR(" ++ toString (length.getD defaultLength) ++ ")"
  | integer => "INT"
  | long => "BIGINT"
  | decimal =>
    let (precision, places) := defaultPrecision layout
    "DECIMAL(" ++ toString (length.getD precision) ++ "," ++ toString (scale.getD places) ++ ")"
  | boolean =>
    match layout with
    | .native => "BOOLEAN"
    | .template => "TINYINT(1)"
  | datetime => "DATETIME"
  | text => "TEXT"
  | json => "JSON"

theorem ofName?_name (t : FieldType) : ofName? t.name = some t := by cases t <;> decide

end FieldType

/-- Whether an entity stands for a table with a key of its own or is kept by the engine. -/
inductive EntityKind where
  | static
  | dynamic
  deriving Repr, DecidableEq, Inhabited

namespace EntityKind

def all : List EntityKind := [static, dynamic]

def name : EntityKind → String
  | static => "STATIC"
  | dynamic => "DYNAMIC"

def ofName? (s : String) : Option EntityKind := all.find? fun k => k.name = s

def layout : EntityKind → Layout
  | static => .native
  | dynamic => .template

theorem ofName?_name (k : EntityKind) : ofName? k.name = some k := by cases k <;> decide

end EntityKind

inductive EntityStatus where
  | active
  | inactive
  | draft
  deriving Repr, DecidableEq, Inhabited

namespace EntityStatus

def all : List EntityStatus := [active, inactive, draft]

def name : EntityStatus → String
  | active => "ACTIVE"
  | inactive => "INACTIVE"
  | draft => "DRAFT"

def ofName? (s : String) : Option EntityStatus := all.find? fun k => k.name = s

theorem ofName?_name (k : EntityStatus) : ofName? k.name = some k := by cases k <;> decide

end EntityStatus

/-- The status of a field or of a record. -/
inductive ItemStatus where
  | active
  | inactive
  deriving Repr, DecidableEq, Inhabited

namespace ItemStatus

def all : List ItemStatus := [active, inactive]

def name : ItemStatus → String
  | active => "ACTIVE"
  | inactive => "INACTIVE"

def ofName? (s : String) : Option ItemStatus := all.find? fun k => k.name = s

theorem ofName?_name (k : ItemStatus) : ofName? k.name = some k := by cases k <;> decide

end ItemStatus

end EntityEngine
