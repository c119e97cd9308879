import EntityEngine.Number.Overflow
import EntityEngine.Sql.Fault
import EntityEngine.Text.Quoted

/-!
Why an operation is refused, and the message that says so. A fault of the database carries the
operation it arose in, which is told once, by the innermost caller that knows it.
-/

namespace EntityEngine

open Text

/-- What is wrong with a draft or with a record's values. -/
inductive Defect where
  | noFields
  | fieldUnnamed
  | badField (name : String)
  | repeatedField (name : String)
  | systemField (name : String)
  | noKey
  | severalKeys (count : Nat)
  | entityUnnamed
  | tableUnnamed
  | badTable (name : String)
  | reservedTable (name : String)
  | blankCode
  /-- Another entity's records live in the table. -/
  | tableTaken (table owner : String)
  | valueMissing (field entity : String)
  /-- A defect told in words. -/
  | told (message : String)
  deriving Repr, DecidableEq

def Defect.message : Defect → String
  | .noFields => "entity must declare at least one field"
  | .fieldUnnamed => "field name is required"
  | .badField name => "invalid field name " ++ quoted name
  | .repeatedField name => "duplicate field name " ++ quoted name
  | .systemField name => "field name " ++ quoted name ++ " is reserved for a system column"
  | .noKey => "no primary key field present"
  | .severalKeys count =>
    "at most one primary key field is allowed, found " ++ toString count
  | .entityUnnamed => "entity name is required"
  | .tableUnnamed => "table name is required"
  | .badTable name => "invalid table name " ++ quoted name
  | .reservedTable name => "table name " ++ quoted name ++ " is reserved"
  | .blankCode => "entity code must not be blank"
  | .tableTaken table owner => "table " ++ quoted table ++ " already backs entity " ++ owner
  | .valueMissing field entity =>
    "missing required field " ++ quoted field ++ " for entity " ++ entity
  | .told message => message

/-- What a lookup looked for. -/
inductive Target where
  | id (n : Int)
  | code (code : String) (appId : Int)
  | name (name : String) (appId : Int)
  /-- The identifier of a record. -/
  | key (key : String)
  deriving Repr, DecidableEq

def Target.message : Target → String
  | .id n => "id " ++ toString n
  | .code c appId => "code " ++ quoted c ++ " in app " ++ toString appId
  | .name n appId => "name " ++ quoted n ++ " in app " ++ toString appId
  | .key k => k

/-- What went wrong below the engine. -/
inductive StoreFault where
  | database (fault : Sql.Fault)
  /-- A stored name that stands for nothing in its column. -/
  | unknownName (column value : String)
  | badInstant
  | told (message : String)
  deriving Repr, DecidableEq

def StoreFault.message : StoreFault → String
  | .database fault => "database error: Rusqlite(\"" ++ fault.message ++ "\")"
  | .unknownName column value => "unexpected value " ++ quoted value ++ " in column " ++ column
  | .badInstant => "date/time parse error"
  | .told message => message

inductive Fault where
  | invalid (defect : Defect)
  | entityNotFound (target : Target)
  | recordNotFound (target : Target)
  | duplicateCode (code : String) (appId : Int)
  /-- The table of an entity could not be made or dropped. -/
  | schema (table : String) (cause : StoreFault)
  /-- A failure of the database, with what was being done; an empty text if that is not told
  yet. -/
  | persistence (context : String) (cause : StoreFault)
  | serialization
  /-- A page lies beyond the numbers that words hold; the operation is given up. -/
  | overflow (cause : Number.Overflow)
  deriving Repr, DecidableEq

namespace Fault

def message : Fault → String
  | invalid defect => "validation error: " ++ defect.message
  | entityNotFound target => "entity not found: " ++ target.message
  | recordNotFound target => "record not found: " ++ target.message
  | duplicateCode code appId =>
    "entity code " ++ quoted code ++ " already exists for app " ++ toString appId
  | schema table cause => "schema error on table " ++ quoted table ++ ": " ++ cause.message
  | persistence context cause => "persistence error (" ++ context ++ "): " ++ cause.message
  | serialization => "serialization error"
  | overflow cause => cause.message

/-- A failure of the database in the course of some statement. -/
def database (fault : Sql.Fault) : Fault := persistence "" (.database fault)

def isNotFound : Fault → Bool
  | entityNotFound _ | recordNotFound _ => true
  | _ => false

/-- Tells what was being done, if a failure of the database does not say so yet. -/
def within (context : String) : Fault → Fault
  | persistence "" cause => persistence context cause
  | fault => fault

end Fault

/-- The result of an operation, a failure being told what was being done. -/
def during (context : String) (result : Except Fault α) : Except Fault α :=
  result.mapError (Fault.within context)

end EntityEngine
