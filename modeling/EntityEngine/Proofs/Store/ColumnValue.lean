import EntityEngine.Proofs.Store.Chronology
import EntityEngine.Proofs.Store.Stamps

/-! What the columns of a row have once it is stored or changed. A column that does not show the
number of the row has the value that the statement gives for it, as its affinity stores that; one
for which an update gives nothing keeps its value. -/

namespace EntityEngine.Store

open Sql

namespace Table

variable {t : Table} {e m : Entity} {name : String}

/-- A column of a table, under its name, that does not show the numbers of rows. -/
structure Holds (t : Table) (name : String) (i : Nat) (c : Column) : Prop where
  place : t.place? name = some i
  column : t.columns[i]? = some c
  plain : t.isNumberColumn c.name = false

namespace Holds

variable {i : Nat} {c : Column}

theorem valueOf_eq (h : t.Holds name i c) (row : Row) : t.valueOf row name = valueAt row i := by
  rw [valueOf, reader_column h.place h.column]

/-- The values of a row beside the columns show what is stored in the column. -/
theorem numbered_eq (h : t.Holds name i c) (number : Int) {values : List Value} {v : Value}
    (there : values[i]? = some v) : (t.numbered number values)[i]? = some v := by
  have pair : (t.columns.zip values)[i]? = some (c, v) :=
    List.getElem?_zip_eq_some.mpr ⟨h.column, there⟩
  rw [numbered, List.getElem?_map, pair, Option.map_some]
  show some (if t.isNumberColumn c.name = true then _ else v) = some v
  rw [h.plain, if_neg Bool.false_ne_true]

/-- A new row has the value that it was given. -/
theorem new (h : t.Holds name i c) {context : Setting} {given : List (String × Value)} {v : Value}
    (own : given? given c = some v) {number : Int} {values : List Value}
    (found : t.columns.mapM (fun c =>
      if t.isNumberColumn c.name then pure .null else newValue context given c) = .ok values) :
    t.valueOf ⟨number, t.numbered number values⟩ name = c.affinity.store v := by
  obtain ⟨w, there, made⟩ := mapM_result found h.column
  rw [h.plain, if_neg Bool.false_ne_true, newValue, own] at made
  rw [← Except.ok.inj made] at there
  rw [h.valueOf_eq, valueAt, h.numbered_eq number there]
  rfl

theorem getElem?_of_valueOf (h : t.Holds name i c) {row : Row} {v : Value}
    (value : t.valueOf row name = v) (some : v ≠ .null) : row.values[i]? = .some v := by
  rw [h.valueOf_eq, valueAt] at value
  cases there : row.values[i]? with
  | none =>
    rw [there] at value
    exact absurd value.symm some
  | some w =>
    rw [there] at value
    exact congrArg Option.some value

/-- A row that is changed has what the changes make of the value that it had. -/
theorem changed (h : t.Holds name i c) {changes : List (String × Change)} {old next : Row}
    (made : t.changedRow changes old = .ok next) {v : Value} (value : t.valueOf old name = v)
    (some : v ≠ .null) : t.valueOf next name = changedValue changes c v := by
  obtain ⟨number, rfl⟩ := changedRow_ok made
  have pair : (t.columns.zip old.values)[i]? = .some (c, v) :=
    List.getElem?_zip_eq_some.mpr ⟨h.column, h.getElem?_of_valueOf value some⟩
  rw [h.valueOf_eq, valueAt, h.numbered_eq (v := changedValue changes c v) number]
  · rfl
  · rw [List.getElem?_map, pair]
    rfl

end Holds

/-! ### Columns of a template -/

/-- A column that the statement of a definition declares has its place under its name. -/
theorem IsMadeOf.place_of_mem (h : t.IsMadeOf e) {c : ColumnText}
    (hc : c ∈ e.tableText.columns) :
    ∃ i, t.place? c.name = some i ∧ t.columns[i]? = some (columnOf c.spec) := by
  have columns := h.columns
  have declared : (columnOf c.spec) ∈ t.columns := by
    rw [columns]
    exact List.mem_map_of_mem hc
  have named : (t.columns.any fun d => Text.sameFold d.name c.name) = true :=
    List.any_eq_true.mpr ⟨_, declared, Text.sameFold_refl _⟩
  obtain ⟨i, place⟩ := Option.isSome_iff_exists.mp (List.findIdx?_isSome.trans named)
  obtain ⟨bound, same, -⟩ := List.findIdx?_eq_some_iff_getElem.mp place
  refine ⟨i, place, ?_⟩
  have mem : t.columns[i] ∈ e.tableText.columns.map fun c => columnOf c.spec := by
    rw [← columns]
    exact List.getElem_mem bound
  obtain ⟨d, hd, eq⟩ := List.mem_map.mp mem
  rw [← eq] at same
  rw [List.getElem?_eq_getElem bound, ← eq,
    List.inj_on_of_nodup_map h.distinct hd hc (Text.sameFold_iff.mp same)]

namespace IsBuiltFrom

/-- A column that stands beside the numbers of a template's rows. -/
theorem holds_of_mem (h : t.IsBuiltFrom m) (template : m.layout = .template) {c : ColumnText}
    (hc : c ∈ m.tableText.columns) (other : Text.sameFold c.name "id" = false) :
    ∃ i, t.Holds c.name i (columnOf c.spec) := by
  obtain ⟨i, place, column⟩ := h.isMadeOf.place_of_mem hc
  exact ⟨i, place, column, (h.isNumberColumn_eq template c.name).trans other⟩

theorem mem_systemColumn (template : m.layout = .template) {c : ColumnText}
    (hc : c ∈ systemColumnTexts) : c ∈ m.tableText.columns := by
  rw [Entity.tableText, template]
  exact List.mem_append_left _ hc

end IsBuiltFrom

end Table

end EntityEngine.Store
