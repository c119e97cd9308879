import EntityEngine.Sql.TableSpec.Parser
import EntityEngine.Store.Estimate
import EntityEngine.Store.Table

/-!
The tables that declarations make.
-/

namespace EntityEngine.Store

open Sql

namespace Table

/-- The column that a declaration makes. -/
def columnOf (d : ColumnSpec) : Column where
  name := d.name
  affinity := .ofType d.type
  collation := d.collation
  notNull := d.notNull
  default := d.default
  derivation := d.derivation
  width := typeWidth d.type

/-- The index of a unique constraint. -/
def constraintIndex (u : UniqueSpec) : Index where
  name := none
  columns := u.columns
  isUnique := true
  conflict := u.conflict.getD .abort
  isPrimary := u.isPrimary

/-- The table that a specification makes, without rows. -/
def ofSpec (s : TableSpec) : Table where
  name := s.name
  columns := s.columns.map columnOf
  numberColumn := s.numberColumn
  numberConflict := s.numberConflict.getD .abort
  isAutoincrement := s.isAutoincrement
  checks := s.checks
  foreignKeys := s.foreignKeys
  indexes := s.uniques.map constraintIndex

/-- A column of an index by its name, under the collation of the table's column. -/
def keyColumn (t : Table) (name : String) : KeyColumn where
  name
  collation := ((t.column? name).map Column.collation).getD .bytes

end Table

end EntityEngine.Store
