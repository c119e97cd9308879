import EntityEngine.Proofs.Engine.Chronology
import EntityEngine.Proofs.Engine.Projection
import EntityEngine.Proofs.Store.Layout
import EntityEngine.Proofs.Store.RowAddress
import EntityEngine.Proofs.Store.ShownValues

/-! What the rows of an answer show under `id`: the identifier of a document, the number of a row of
a template, the key of a row of a native table, and the value of a field that has this name. A
document need not have a value for such a field, and then its row is without an `id`. -/

namespace EntityEngine

open Store

variable {g : Engine} {e : Entity} {f : Field} {t : Table} {row : Row}

/-! ### Definitions with stored fields -/

namespace Entity.HasStoredFields

theorem isLaidOut (h : e.HasStoredFields) : e.IsLaidOut := by
  obtain ⟨fields, id, first, audit, valid, stored⟩ := h
  exact Entity.isLaidOut valid stored

theorem field?_eq (h : e.HasStoredFields) (hf : f ∈ e.fields) : e.field? f.name = some f := by
  have apart := h.isLaidOut.apart
  rw [Entity.columns, List.map_append, List.map_map] at apart
  refine Entity.field?_of_mem (fun g hg named => ?_) hf
  exact List.inj_on_of_nodup_map (List.nodup_append.mp apart).2.1 hg hf (congrArg Text.fold named)

/-- A native table has a key. -/
theorem keyed (h : e.HasStoredFields) (native : e.layout = .native) : e.keys ≠ [] := by
  have some := h.isLaidOut.keyed
  rw [Entity.primaryKey, native] at some
  simpa using some

/-- A template has its own `id`. -/
theorem declares_id (h : e.HasStoredFields) (template : e.layout = .template) :
    e.declares "id" = false := by
  rw [Entity.declares, Entity.field?, Option.isSome_eq_false_iff, Option.isNone_iff_eq_none,
    List.find?_eq_none]
  intro f hf
  have other := h.ownNames template f hf
  rw [decide_eq_true_eq]
  intro own
  rw [own] at other
  exact absurd other (by decide)

end Entity.HasStoredFields

/-! ### Rows and their ids -/

/-- What a row of a table shows under `id`: the value of the column that has this name, or else the
key. -/
def Store.Table.shownId (t : Table) (e : Entity) (row : Row) : Json :=
  if "id" ∈ e.columns then shownValue ((e.field? "id").map Field.type) (t.valueOf row "id")
  else t.shownKey e row

/-- What the row of a document shows under `id`: the value of the field that has this name, if there
is one, or else the identifier. -/
def Record.shownId? (r : Record) (e : Entity) : Option Json :=
  if e.declares "id" then r.data.get? "id" else some (.text r.recordId)

theorem Record.get?_id (r : Record) (e : Entity) : (r.row e).get? "id" = r.shownId? e := by
  unfold shownId?
  cases declared : e.declares "id" with
  | true => exact get?_row_of_declares declared
  | false => exact get?_row_of_system (p := ("id", .text r.recordId)) (.head _) declared

theorem Store.Table.get?_id (stored : e.HasStoredFields) :
    (t.shown e row).get? "id" = some (t.shownId e row) := by
  unfold shownId
  split
  · rename_i mem
    exact get?_shown_of_id mem mem
  · rename_i free
    cases layout : e.layout with
    | template => exact absurd (mem_columns_of_system layout (by decide)) free
    | native =>
      exact get?_id_native layout (stored.keyed layout)
        (fun f hf => stored.field?_eq (List.mem_filter.mp hf).1) free row

/-- A row that is narrowed keeps its `id`. -/
theorem get?_id_narrowed (names : List String) (row : ValueMap) :
    (narrowed names row).get? "id" = row.get? "id" := by
  unfold narrowed
  split
  · rfl
  · rw [ValueMap.get?_restrict]
    simp

theorem QueryOptions.get?_id_project (params : Params) (row : ValueMap) :
    ((ofParams params).project row).get? "id" = row.get? "id" := by
  rw [project_ofParams, get?_id_narrowed]

/-- Whatever a query of a live definition asks for, the rows of its answer show under `id` what the
rows of the table, or the documents, have for it. So every row shows an `id`, but for documents
whose definition declares a field with this name: their rows show one exactly if they have a value
for the field. -/
theorem rows_show_ids (h : Reached g) (he : e ∈ g.database.live) {params : Params}
    {result : QueryResult} (answered : (g.query e.appId e.code (.ofParams params)).1 = .ok result) :
    (e.tableCreated = true → ∃ t, g.database.needTable e.table = .ok t ∧ ∃ rows, rows ⊆ t.rows ∧
      result.rows.map (·.get? "id") = rows.map fun row => some (t.shownId e row)) ∧
    (e.tableCreated = false → ∃ page, g.database.queryRecords e (.ofParams params) = .ok page ∧
      result.rows.map (·.get? "id") = page.items.map fun r => r.shownId? e) ∧
    (e.tableCreated = true ∨ e.layout = .template ∨ e.declares "id" = false →
      ∀ row ∈ result.rows, row.contains "id" = true) := by
  have inv := h.inv
  have stored := h.storedFields e he
  have table : e.tableCreated = true → ∃ t, g.database.needTable e.table = .ok t ∧
      ∃ rows, rows ⊆ t.rows ∧
        result.rows.map (·.get? "id") = rows.map fun row => some (t.shownId e row) := by
    intro created
    obtain ⟨page, found, rows⟩ := Engine.query_table inv he created answered
    obtain ⟨t, there, stored', subset, items⟩ := Database.items_queryRows found
    refine ⟨t, there, stored', subset, ?_⟩
    rw [rows, items, List.map_map, List.map_map]
    refine List.map_congr_left fun row _ => ?_
    exact (QueryOptions.get?_id_project params _).trans (Table.get?_id stored)
  have documents : e.tableCreated = false →
      ∃ page, g.database.queryRecords e (.ofParams params) = .ok page ∧
        result.rows.map (·.get? "id") = page.items.map fun r => r.shownId? e := by
    intro unmade
    obtain ⟨page, found, rows⟩ := Engine.query_documents inv he unmade answered
    refine ⟨page, found, ?_⟩
    rw [rows, List.map_map]
    refine List.map_congr_left fun r _ => ?_
    exact (QueryOptions.get?_id_project params _).trans (r.get?_id e)
  refine ⟨table, documents, fun plain row hr => ?_⟩
  have mem : row.get? "id" ∈ result.rows.map (·.get? "id") := List.mem_map_of_mem hr
  rw [ValueMap.contains]
  cases created : e.tableCreated with
  | true =>
    obtain ⟨t, -, rows, -, ids⟩ := table created
    rw [ids] at mem
    obtain ⟨row', -, shown⟩ := List.mem_map.mp mem
    rw [← shown]
    rfl
  | false =>
    obtain ⟨page, -, ids⟩ := documents created
    have undeclared : e.declares "id" = false := by
      rcases plain with made | template | undeclared
      · rw [created] at made
        cases made
      · exact stored.declares_id template
      · exact undeclared
    rw [ids] at mem
    obtain ⟨r, -, shown⟩ := List.mem_map.mp mem
    rw [← shown, Record.shownId?, undeclared]
    rfl

/-! ### Tags, whose key is called so -/

/-- A tag needs no value for its key, since there is a default. -/
def declareTag : Operation :=
  .createEntity
    { appId := 1
      name := "Tag"
      table := "tag"
      code := some "tag"
      kind := .static
      fields := [{ name := "id", type := .string, isKey := true, default := some "none" }] }
    "a" ⟨⟨0, 0⟩, "r", "c"⟩

def storeTag : Operation := .createRecord 1 "tag" [] "a" ⟨⟨0, 0⟩, "r", "c"⟩

def tags : Engine := storeTag.run (declareTag.run (.start .empty ""))

/-- The tag has no value for the field, and its row is without an `id`. -/
theorem rows_show_ids_tags : ∃ e ∈ tags.database.live, e.declares "id" = true ∧
    ∃ result page, (tags.query e.appId e.code (.ofParams [])).1 = .ok result ∧
      tags.database.queryRecords e (.ofParams []) = .ok page ∧
      result.rows.map (·.get? "id") = page.items.map (fun r => r.data.get? "id") ∧
      result.rows.map (·.get? "id") = [none] := by
  have declaredTags : PlainRun (declareTag.run (.start .empty "")) :=
    .step declareTag (.start "") (Operation.isPlain_of_none (by decide +kernel))
  have run : PlainRun tags := .step storeTag declaredTags (Operation.isPlain_of_none rfl)
  have there : (tags.database.entity? 1).any (fun e => e.appId == 1 && e.code == "tag" &&
      !e.tableCreated && e.declares "id") = true := by decide +kernel
  have answer : (tags.query 1 "tag" (.ofParams [])).1.toOption.any
      (fun result => result.rows.map (·.get? "id") == [none]) = true := by decide +kernel
  obtain ⟨e, found, facts⟩ := (Option.any_eq_true _ _).mp there
  simp only [Bool.and_eq_true, beq_iff_eq, Bool.not_eq_true'] at facts
  obtain ⟨⟨⟨app, code⟩, unmade⟩, declared⟩ := facts
  have he := List.mem_of_find?_eq_some found
  obtain ⟨result, answered, ids⟩ := (Option.any_eq_true _ _).mp answer
  rw [← app, ← code] at answered
  have answered := toOption_some answered
  obtain ⟨page, queried, shown⟩ := (rows_show_ids run.reached he answered).2.1 unmade
  simp only [Record.shownId?, declared, if_true] at shown
  exact ⟨e, he, declared, result, page, answered, queried, shown, beq_iff_eq.mp ids⟩

end EntityEngine
