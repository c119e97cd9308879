import EntityEngine.Proofs.Engine.TextQuery
import EntityEngine.Proofs.Query.Comparisons

/-! Queries by a comparison of a field with a literal, over documents and over rows. A field that is
declared after the table was made has no column there; the database then takes its name for a text,
and the comparisons select rows that have no value in the field. -/

namespace EntityEngine

open Sql Store

namespace Store.Table

variable {t : Table} {row : Row} {column : String}

/-- A name without a column is read as a text or as the number of the row, and so never as null. -/
theorem isNull_column (row : Row) (column : String) :
    (t.reader row (.column column)).value.isNull = false ↔
      (t.hasColumn column = true → (t.reader row (.column column)).value.isNull = false) := by
  refine ⟨fun given _ => given, fun given => ?_⟩
  by_cases known : t.hasColumn column = true
  · exact given known
  · have none : t.place? column = none := by
      rwa [hasColumn, Option.not_isSome_iff_eq_none] at known
    rw [reader, reading?, resolve?, none]
    by_cases number : isRowNumberName column = true
    · rw [if_pos number]
      rfl
    · rw [if_neg number]
      rfl

end Store.Table

/-- The field is declared for a table that is there already. -/
def declareSize : Operation :=
  .replaceFields 1 [{ name := "size", type := .string }] "a" ⟨⟨0, 0⟩, "r", "c"⟩

/-- Parts with a size, of which one was stored before they had it. -/
def sizedParts : Engine := declareSize.run parts

/-- A row in a table without the column equals the name of the field. -/
def FindsUnsized (db : Database) : Prop :=
  (db.entity? 1).any (fun e => e.tableCreated && e.column? "size" == some "size" &&
    (db.needTable e.table).toOption.any fun t => !t.hasColumn "size" && t.rows.any fun row =>
      (Query.columnCondition (.column "size") (.compare "size" .eq (.quoted "size"))).holds
        (t.reader row)) = true

instance (db : Database) : Decidable (FindsUnsized db) := inferInstanceAs (Decidable (_ = true))

theorem findsUnsized_sizedParts : FindsUnsized sizedParts.database := by
  rw [sizedParts, parts, declaredParts, declareParts]
  exact Operation.run_of_any (fun g => FindsUnsized (declareSize.run (storePart.run g)).database)
    (by decide +kernel)

end EntityEngine
