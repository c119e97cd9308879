import EntityEngine.Query.Filter
import EntityEngine.Sql.Value

/-!
Expressions as they are written, before it is known what their names mean. Parts keep their places
in the statement, for faults are told with the place of the first part that has one.
-/

namespace EntityEngine.Sql

inductive Arithmetic where
  | add
  | subtract
  | multiply
  | divide
  | remainder
  | bitAnd
  | bitOr
  | shiftLeft
  | shiftRight
  deriving Repr, DecidableEq

/-- How a function is called. -/
structure Call where
  name : String
  place : Nat
  /-- With what makes sense for functions of many rows alone: a window, a filter, an order. -/
  hasWindow : Bool := false
  hasFilter : Bool := false
  hasOrder : Bool := false
  deriving Repr, DecidableEq

inductive Term where
  | null (place : Nat)
  /-- A numeral as it is written. -/
  | number (raw : List Char) (place : Nat)
  | text (s : String) (place : Nat)
  | bytes (raw : List Char) (place : Nat)
  /-- A condition that never holds, or always. -/
  | truth (b : Bool)
  /-- A name with its quote, if it has one. -/
  | name (name : String) (quote : Option Char) (place : Nat)
  /-- A column with the table that is named before it, and perhaps a schema. -/
  | member (schema : Option String) (table column : String) (place : Nat)
  /-- A place for a value that comes from outside. -/
  | parameter (place : Nat)
  | negative (e : Term)
  | positive (e : Term)
  | complement (e : Term)
  | not (e : Term)
  | isNull (e : Term)
  | notNull (e : Term)
  | or (a b : Term)
  | and (a b : Term)
  | compare (op : Comparison) (a b : Term)
  /-- Equal, null being equal to null. -/
  | same (a b : Term)
  | differ (a b : Term)
  | arithmetic (op : Arithmetic) (a b : Term)
  | concat (a b : Term)
  | collate (e : Term) (collation : String)
  | cast (e : Term) (type : String)
  | call (c : Call) (arguments : List Term)
  | between (e low high : Term)
  | oneOf (e : Term) (choices : List Term)
  /-- Several values in parentheses. -/
  | row (es : List Term)
  /-- One of the rows that a statement selects. -/
  | oneOfRows (e : Term)
  /-- The value that a statement selects. -/
  | selected
  /-- Whether a statement selects a row. -/
  | anySelected
  /-- The first case that applies: the value that the others are compared with, if there is one,
  then conditions and results in turn, then the result for all other cases, if there is one. -/
  | cases (hasBase : Bool) (parts : List Term)
  | raise
  deriving Repr

/-- The place of an expression: its own, or that of the first part that has one. -/
def Term.place? : Term → Option Nat
  | null n | number _ n | text _ n | bytes _ n | name _ _ n | member _ _ _ n | parameter n => some n
  | call c _ => some c.place
  | negative e | positive e | complement e | not e | isNull e | notNull e | collate e _ | cast e _
  | or e _ | and e _ | compare _ e _ | same e _ | differ e _ | arithmetic _ e _ | concat e _
  | between e _ _ | oneOf e _ | oneOfRows e => e.place?
  | cases true (e :: _) => e.place?
  | cases _ _ | truth _ | row _ | selected | anySelected | raise => none

end EntityEngine.Sql
