import EntityEngine.Proofs.Store.Fit
import Mathlib.Data.List.Nodup

/-! The column that a field has in the table that is made of its definition. Names of columns are
apart, whatever the case of their letters, and a field of texts has a column that keeps texts. -/

namespace EntityEngine

namespace Sql

/-- Where no column is refused as repeated, all names are apart. -/
theorem distinct_of_repeatedColumn? {earlier names : List String}
    (h : repeatedColumn? earlier names = none) :
    (names.map Text.fold).Nodup ∧ ∀ a ∈ names, ∀ b ∈ earlier, Text.fold a ≠ Text.fold b := by
  induction names generalizing earlier with
  | nil =>
    refine ⟨List.nodup_nil, fun a ha => ?_⟩
    cases ha
  | cons c names ih =>
    unfold repeatedColumn? at h
    split at h
    · cases h
    · rename_i new
      obtain ⟨distinct, apart⟩ := ih h
      constructor
      · rw [List.map_cons, List.nodup_cons]
        refine ⟨fun mem => ?_, distinct⟩
        obtain ⟨a, ha, same⟩ := List.mem_map.mp mem
        exact apart a ha c List.mem_cons_self same
      · intro a ha b hb
        rcases List.mem_cons.mp ha with rfl | ha
        · intro same
          exact new (List.any_eq_true.mpr ⟨b, hb, Text.sameFold_iff.mpr same⟩)
        · exact apart a ha b (List.mem_cons_of_mem c hb)

end Sql

open Sql

namespace Store.Table

variable {t : Table}

theorem reader_column {name : String} {i : Nat} {c : Column} (place : t.place? name = some i)
    (column : t.columns[i]? = some c) (row : Row) :
    t.reader row (.column name) = ⟨valueAt row i, c.affinity, c.collation⟩ := by
  simp only [reader, reading?, resolve?, place, column, Option.map_some, Option.getD_some]

namespace IsMadeOf

variable {e : Entity} {f : Field}

theorem columns (h : t.IsMadeOf e) :
    t.columns = e.tableText.columns.map fun c => columnOf c.spec := by
  obtain ⟨spec, declared, same⟩ := h.form
  obtain ⟨-, rfl⟩ := TableText.plainSpec_ok (Entity.spec_tableText h.derived declared)
  exact (congrArg Table.columns same).trans List.map_map

theorem numberColumn (h : t.IsMadeOf e) : t.numberColumn = e.tableText.numberColumn? := by
  obtain ⟨spec, declared, same⟩ := h.form
  obtain ⟨-, rfl⟩ := TableText.plainSpec_ok (Entity.spec_tableText h.derived declared)
  exact congrArg Table.numberColumn same

/-- A table tells the layout of the definition that it was made of. -/
theorem layout_eq {d : Entity} (h : t.IsMadeOf e) (own : t.IsMadeOf d) : e.layout = d.layout := by
  have number := h.numberColumn.symm.trans own.numberColumn
  rw [Entity.numberColumn?_tableText h.derived, Entity.numberColumn?_tableText own.derived]
    at number
  cases first : e.layout <;> cases second : d.layout <;> simp_all

theorem distinct (h : t.IsMadeOf e) :
    (e.tableText.columns.map fun c => Text.fold c.name).Nodup := by
  obtain ⟨spec, declared, -⟩ := h.form
  obtain ⟨none, -⟩ := TableText.plainSpec_ok (Entity.spec_tableText h.derived declared)
  have names := (distinct_of_repeatedColumn? none).1
  rwa [List.map_map] at names

/-- Names of columns are apart, whatever the case of their letters. -/
theorem names_distinct (h : t.IsMadeOf e) : (t.columns.map fun c => Text.fold c.name).Nodup := by
  rw [h.columns, List.map_map]
  exact h.distinct

theorem mem_columns (hf : f ∈ e.fields) : f.columnText e.layout ∈ e.tableText.columns :=
  List.mem_append_right _ (List.mem_map_of_mem hf)

/-- The column with a field's name is the field's. -/
theorem eq_of_sameFold (h : t.IsMadeOf e) (hf : f ∈ e.fields) {c : ColumnText}
    (hc : c ∈ e.tableText.columns) (same : Text.sameFold c.name f.name = true) :
    c = f.columnText e.layout :=
  List.inj_on_of_nodup_map h.distinct hc (mem_columns hf) (Text.sameFold_iff.mp same)

theorem column?_field (h : t.IsMadeOf e) (hf : f ∈ e.fields)
    (own : isSystemColumn f.name = false) : e.column? f.name = some f.name := by
  have other : ¬ (e.layout = .template ∧ isSystemColumn f.name = true) := by
    rintro ⟨-, system⟩
    rw [own] at system
    cases system
  unfold Entity.column?
  rw [if_neg other]
  cases found : e.fields.find? fun g => Text.sameFold g.name f.name with
  | none =>
    have apart := List.find?_eq_none.mp found f hf
    exact absurd (Text.sameFold_iff.mpr rfl) apart
  | some g =>
    have named : Text.sameFold g.name f.name = true := by simpa using List.find?_some found
    have same := h.eq_of_sameFold hf (mem_columns (List.mem_of_find?_eq_some found)) named
    exact congrArg some (congrArg ColumnText.name same)

/-- What a row gives for a field is compared under the type of its column, byte by byte. -/
theorem reader_field (h : t.IsMadeOf e) (hf : f ∈ e.fields) (row : Row) :
    (t.reader row (.column f.name)).affinity = .ofType (declaredType f.columnType.toList) ∧
      (t.reader row (.column f.name)).collation = .bytes := by
  obtain ⟨i, place⟩ := Option.isSome_iff_exists.mp (h.fits.hasColumn_field hf)
  obtain ⟨bound, named, -⟩ := List.findIdx?_eq_some_iff_getElem.mp place
  have mem : t.columns[i] ∈ e.tableText.columns.map fun c => columnOf c.spec := by
    rw [← h.columns]
    exact List.getElem_mem bound
  obtain ⟨c, hc, eq⟩ := List.mem_map.mp mem
  rw [← eq] at named
  have column : t.columns[i]? = some (columnOf (f.columnText e.layout).spec) := by
    rw [List.getElem?_eq_getElem bound, ← eq, h.eq_of_sameFold hf hc named]
  rw [reader_column place column]
  simp only [columnOf, ColumnText.spec, Field.columnText, and_self]

/-- A field of texts has a column of texts. -/
theorem reader_textual (h : t.IsMadeOf e) (hf : f ∈ e.fields) (textual : f.type.isTextual = true)
    (row : Row) : (t.reader row (.column f.name)).affinity = .text := by
  rw [(h.reader_field hf row).1, h.derived.derived f hf]
  exact FieldType.textual_affinity textual _ _ _

end IsMadeOf

end Store.Table

end EntityEngine
