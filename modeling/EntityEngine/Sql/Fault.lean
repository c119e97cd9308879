import EntityEngine.Text.Ascii

/-!
Why a statement fails, and the words in which the database says so.
-/

namespace EntityEngine.Sql

inductive Fault where
  | noSuchTable (table : String)
  /-- A column to insert into is missing. -/
  | noSuchTarget (table column : String)
  | noSuchColumn (column : String)
  | notNull (table column : String)
  | unique (table : String) (columns : List String)
  | check (condition : String)
  | foreignKey
  /-- A value that is no integer, for a column that is the number of its row. -/
  | datatypeMismatch
  /-- A row that was just written is not found. -/
  | noRows
  /-- A result of another type than the one that is asked for, at a place among the columns. -/
  | resultType (type column : String) (place : Nat)
  /-- A result beyond the numbers that are asked for. -/
  | resultRange (n : Int) (place : Nat)
  | duplicateColumn (column : String)
  | tableExists (token : String)
  | indexNamed (name : String)
  | tableNamed (name : String)
  | severalKeys (table : String)
  | autoincrementElsewhere
  | noSuchCollation (name : String)
  | near (token : String)
  | unrecognizedToken (token : String)
  | incompleteInput
  /-- Any other fault, in the database's words. -/
  | other (message : String)
  /-- A fault at a place in a statement, counted in bytes. -/
  | located (fault : Fault) (statement : String) (offset : Nat)
  deriving Repr, DecidableEq

namespace Fault

def message : Fault → String
  | noSuchTable t => "no such table: " ++ t
  | noSuchTarget t c => "table " ++ t ++ " has no column named " ++ c
  | noSuchColumn c => "no such column: " ++ c
  | notNull t c => "NOT NULL constraint failed: " ++ t ++ "." ++ c
  | unique t cs =>
    "UNIQUE constraint failed: " ++ Text.join ", " (cs.map fun c => t ++ "." ++ c)
  | check condition => "CHECK constraint failed: " ++ condition
  | foreignKey => "FOREIGN KEY constraint failed"
  | datatypeMismatch => "datatype mismatch"
  | noRows => "Query returned no rows"
  | resultType type column place =>
    "Invalid column type " ++ type ++ " at index: " ++ toString place ++ ", name: " ++ column
  | resultRange n place => "Integer " ++ toString n ++ " out of range at index " ++ toString place
  | duplicateColumn c => "duplicate column name: " ++ c
  | tableExists token => "table " ++ token ++ " already exists"
  | indexNamed name => "there is already an index named " ++ name
  | tableNamed name => "there is already a table named " ++ name
  | severalKeys table => "table \"" ++ table ++ "\" has more than one primary key"
  | autoincrementElsewhere => "AUTOINCREMENT is only allowed on an INTEGER PRIMARY KEY"
  | noSuchCollation name => "no such collation sequence: " ++ name
  | near token => "near \"" ++ token ++ "\": syntax error"
  | unrecognizedToken token => "unrecognized token: \"" ++ token ++ "\""
  | incompleteInput => "incomplete input"
  | other message => message
  | located fault statement offset =>
    fault.message ++ " in " ++ statement ++ " at offset " ++ toString offset

end Fault

end EntityEngine.Sql
