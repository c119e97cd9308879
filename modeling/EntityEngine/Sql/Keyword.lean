import EntityEngine.Sql.Token

/-!
The words that the grammar keeps for itself. A word that is not kept is a name wherever one may
stand.
-/

namespace EntityEngine.Sql

/-- Words that are no names. -/
def reservedWords : List String := [
  "ADD", "ALL", "ALTER", "AND", "AS", "AUTOINCREMENT", "BETWEEN", "CASE", "CHECK", "COLLATE",
  "COMMIT", "CONSTRAINT", "CREATE", "DEFAULT", "DEFERRABLE", "DELETE", "DISTINCT", "DROP", "ELSE",
  "ESCAPE", "EXCEPT", "EXISTS", "FOREIGN", "FROM", "GROUP", "HAVING", "IN", "INDEX", "INSERT",
  "INTERSECT", "INTO", "IS", "ISNULL", "JOIN", "LIMIT", "NOT", "NOTHING", "NOTNULL", "NULL", "ON",
  "OR", "ORDER", "PRIMARY", "REFERENCES", "RETURNING", "SELECT", "SET", "TABLE", "THEN", "TO",
  "TRANSACTION", "UNION", "UNIQUE", "UPDATE", "USING", "VALUES", "WHEN", "WHERE"]

/-- Words that are names, but not among the words of a type. -/
def joiningWords : List String :=
  ["CROSS", "FULL", "INDEXED", "INNER", "LEFT", "NATURAL", "OUTER", "RIGHT"]

def isReservedWord (s : List Char) : Bool :=
  reservedWords.any (Text.sameFold (String.ofList s))

def isJoiningWord (s : List Char) : Bool :=
  joiningWords.any (Text.sameFold (String.ofList s))

namespace Token

/-- The name that a word without quotes is. -/
def bareName? (t : Token) : Option String :=
  if t.kind = .word ∧ !isReservedWord t.raw then some (String.ofList t.raw) else none

/-- A name in quotes, but not in single ones. -/
def quotedName? (t : Token) : Option String :=
  match t.kind with
  | .name s => some (String.ofList s)
  | _ => none

/-- The name of a column, a table or a constraint. -/
def name? (t : Token) : Option String :=
  match t.kind with
  | .text s => some (String.ofList s)
  | _ => t.quotedName?.orElse fun _ => t.bareName?

/-- A word of a type. -/
def isTypeWord (t : Token) : Bool :=
  match t.kind with
  | .word => !isReservedWord t.raw && !isJoiningWord t.raw
  | .name _ | .text _ => true
  | _ => false

end Token

end EntityEngine.Sql
