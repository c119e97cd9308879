import EntityEngine.Sql.Value
import EntityEngine.Time.Calendar

/-!
What an expression may look at where it is evaluated: a row, the time, and the row that was
inserted last.
-/

namespace EntityEngine.Sql

open Time

/-- What an expression is written for. -/
inductive Purpose where
  /-- A value for a column that is given none. -/
  | default
  /-- A condition that all rows meet. -/
  | check
  /-- A column whose value follows from the others. -/
  | generated
  /-- What an index is of. -/
  | index
  deriving Repr, DecidableEq

structure Setting where
  /-- The values of a row, column by column. -/
  values : List Value := []
  rowNumber : Int := 0
  now : Instant := ⟨0, 0⟩
  /-- The number of the row that was inserted last. -/
  lastInsert : Int := 0
  purpose : Purpose := .default
  deriving Repr, DecidableEq

end EntityEngine.Sql
