import EntityEngine.Query.Order
import EntityEngine.Sql.TableText
import EntityEngine.Sql.Value

/-!
Statements that select rows. A selection is data: it is written as a text with a placeholder for
each value, together with the values in the order of their placeholders, and it is evaluated on
rows. No value of a caller is part of the text.
-/

namespace EntityEngine.Sql

open Text

/-- What a condition or an order looks at. -/
inductive Operand where
  /-- A column of the engine's own tables, or the number of a row. -/
  | plain (name : String)
  /-- A column of an entity's table. -/
  | column (name : String)
  /-- A value of a stored document. -/
  | member (field : String)
  deriving Repr, DecidableEq

/-- A part of a statement: its text and the values of its placeholders. -/
structure Fragment where
  text : String
  params : List Value := []
  deriving Repr, DecidableEq

namespace Fragment

/-- Fragments one after the other, with a text between neighbours. -/
def join (separator : String) (parts : List Fragment) : Fragment where
  text := Text.join separator (parts.map Fragment.text)
  params := parts.flatMap Fragment.params

end Fragment

/-- The path of a value in a document. -/
def memberPath (field : String) : String := "$." ++ field

def Operand.render : Operand → Fragment
  | .plain name => { text := name }
  | .column name => { text := quotedName name }
  | .member field => ⟨"json_extract(data_json, ?)", [.text (memberPath field)]⟩

inductive Condition where
  /-- The stored value compared as it is. -/
  | compare (left : Operand) (op : Comparison) (right : Value)
  /-- The stored value, taken as a number, compared with a number. -/
  | compareNumber (left : Operand) (op : Comparison) (right : Value)
  /-- Both values taken as numbers. -/
  | compareNumbers (left : Operand) (op : Comparison) (right : String)
  | like (left : Operand) (pattern : String)
  /-- The row does not count as deleted. -/
  | kept
  deriving Repr, DecidableEq

namespace Condition

def render : Condition → Fragment
  | compare left op right =>
    let l := left.render
    ⟨l.text ++ " " ++ op.sign ++ " ?", l.params ++ [right]⟩
  | compareNumber left op right =>
    let l := left.render
    ⟨"CAST(" ++ l.text ++ " AS DECIMAL) " ++ op.sign ++ " ?", l.params ++ [right]⟩
  | compareNumbers left op right =>
    let l := left.render
    ⟨"CAST(" ++ l.text ++ " AS DECIMAL) " ++ op.sign ++ " CAST(? AS DECIMAL)",
      l.params ++ [.text right]⟩
  | like left pattern =>
    let l := left.render
    ⟨l.text ++ " LIKE ? ESCAPE '\\'", l.params ++ [.text pattern]⟩
  | kept => { text := "deleted = 0" }

end Condition

structure OrderTerm where
  operand : Operand
  direction : Direction
  deriving Repr, DecidableEq

def OrderTerm.render (t : OrderTerm) : Fragment :=
  let o := t.operand.render
  ⟨o.text ++ " " ++ t.direction.name, o.params⟩

/-- Where rows come from. -/
inductive Source where
  | documents
  | table (name : String)
  deriving Repr, DecidableEq

def Source.render : Source → String
  | .documents => "entity_data_storage"
  | .table name => quotedName name

structure Selection where
  source : Source
  columns : List Operand
  /-- All of them hold for a row that is selected. -/
  conditions : List Condition
  order : List OrderTerm
  limit : Int
  offset : Int
  deriving Repr, DecidableEq

namespace Selection

/-- The condition part of the statement, empty if there is no condition. -/
def whereFragment (s : Selection) : Fragment :=
  if s.conditions.isEmpty then { text := "" }
  else
    let f := Fragment.join " AND " (s.conditions.map Condition.render)
    { f with text := " WHERE " ++ f.text }

def orderFragment (s : Selection) : Fragment :=
  Fragment.join ", " (s.order.map OrderTerm.render)

/-- The statement that gives the rows. -/
def render (s : Selection) : Fragment :=
  let columns := Fragment.join ", " (s.columns.map Operand.render)
  let condition := s.whereFragment
  let order := s.orderFragment
  { text := "SELECT " ++ columns.text ++ " FROM " ++ s.source.render ++ condition.text ++
      " ORDER BY " ++ order.text ++ " LIMIT ? OFFSET ?"
    params := condition.params ++ order.params ++ [.integer s.limit, .integer s.offset] }

/-- The statement that counts the rows without regard to the limit. -/
def renderCount (s : Selection) : Fragment :=
  let condition := s.whereFragment
  { text := "SELECT COUNT(*) FROM " ++ s.source.render ++ condition.text
    params := condition.params }

end Selection

end EntityEngine.Sql
