import EntityEngine.Store.Write

/-!
The largest numbers that were used in tables whose rows never share a number, even when one of them
is gone. They are the rows of a table of their own, which is read like any other.
-/

namespace EntityEngine.Store

open Sql

/-- A table without rows that is to keep the largest numbers. -/
def sequenceTable : Table where
  name := "sqlite_sequence"
  columns := [{ name := "name", affinity := .blob }, { name := "seq", affinity := .blob }]

namespace Sequence

/-- Whether a row is of a table. -/
def isOf (table : String) (row : Row) : Bool :=
  row.values.head?.any fun v => v.order (.text table) == .eq

/-- The row of a table. -/
def row? (sequences : Table) (table : String) : Option Row := sequences.rows.find? (isOf table)

/-- The largest number that was used in a table. -/
def largest (sequences : Table) (table : String) : Int :=
  match row? sequences table with
  | some row => (Table.valueAt row 1).toInteger
  | none => 0

/-- The largest numbers once a number is used in a table. -/
def raise (sequences : Table) (table : String) (number : Int) : Table :=
  let n := max number (largest sequences table)
  match row? sequences table with
  | some row =>
    if n ≤ largest sequences table then sequences
    else { sequences with rows := sequences.rows.map fun r =>
      if r.number = row.number then { r with values := [.text table, .integer n] } else r }
  | none =>
    let last := (sequences.rows.getLast?.map Row.number).getD 0
    { sequences with rows := sequences.rows ++ [⟨last + 1, [.text table, .integer n]⟩] }

/-- The largest numbers without those of a table. -/
def forget (sequences : Table) (table : String) : Table :=
  { sequences with rows := sequences.rows.filter fun r => !isOf table r }

end Sequence

end EntityEngine.Store
