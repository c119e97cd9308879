import EntityEngine.Proofs.Store.RowWrite

/-! Making and dropping tables. A table that is made is put behind those that are there, whose
columns and primary keys stay; a table that is dropped is taken out. Definitions stay as they are,
unless the text of a table holds further statements. -/

namespace EntityEngine.Store

open Sql

/-- The columns and the primary key of a table. -/
def Table.form (t : Table) : Table :=
  { t with rows := [], indexes := t.indexes.filter Index.isPrimary }

/-- A table with further indexes. -/
def Table.indexed (t : Table) (further : List Index) : Table :=
  { t with indexes := t.indexes ++ further }

theorem Table.indexed_nil (t : Table) : t.indexed [] = t := by
  rw [indexed, List.append_nil]

theorem Table.indexed_indexed (t : Table) (a b : List Index) :
    (t.indexed a).indexed b = t.indexed (a ++ b) := by
  simp only [indexed, List.append_assoc]

theorem Table.form_bare (t : Table) : t.bare.form = t.form := rfl

/-- The index that a statement adds to a table. -/
def Table.columnIndex (t : Table) (statement : IndexText) : Index :=
  { name := some statement.name, columns := statement.columns.map t.keyColumn, isUnique := false }

namespace Database

variable {db db' db'' : Database}

/-! ### Indexes -/

/-- `db'` is `db` with indexes on tables of entities. -/
structure IndexFrame (db db' : Database) : Prop where
  forms : db'.tables.map Table.form = db.tables.map Table.form
  sequences : db'.sequences = db.sequences
  entities : db'.entities = db.entities
  documents : db'.documents = db.documents
  oddRows : db'.oddRows = db.oddRows

theorem IndexFrame.refl (db : Database) : IndexFrame db db := ⟨rfl, rfl, rfl, rfl, rfl⟩

theorem IndexFrame.trans (h₁ : IndexFrame db db') (h₂ : IndexFrame db' db'') :
    IndexFrame db db'' :=
  ⟨h₂.forms.trans h₁.forms, h₂.sequences.trans h₁.sequences, h₂.entities.trans h₁.entities,
    h₂.documents.trans h₁.documents, h₂.oddRows.trans h₁.oddRows⟩

theorem names_of_forms (h : db'.tables.map Table.form = db.tables.map Table.form) :
    db'.tables.map Table.name = db.tables.map Table.name := by
  have eq := congrArg (List.map Table.name) h
  rwa [List.map_map, List.map_map] at eq

theorem IndexFrame.tidy (h : IndexFrame db db') (tidy : db.Tidy) : db'.Tidy :=
  tidy.of_names (names_of_forms h.forms) (by rw [h.sequences])

theorem RowFrame.forms {own : Prop} (h : RowFrame own db db') :
    db'.tables.map Table.form = db.tables.map Table.form := by
  have eq := congrArg (List.map Table.form) h.tables
  rwa [List.map_map, List.map_map] at eq

theorem addIndex_frame {statement : IndexText} (tidy : db.Tidy)
    (h : db.addIndex statement = .ok db') : IndexFrame db db' := by
  simp only [addIndex] at h
  obtain ⟨-, h⟩ := unless_ok h
  split at h
  · rw [← Except.ok.inj h]
    exact .refl db
  · split at h
    · cases h
    · rename_i t found
      rw [← Except.ok.inj h]
      refine ⟨?_, rfl, rfl, rfl, rfl⟩
      show List.map Table.form (List.map _ _) = _
      rw [List.map_map]
      refine List.map_congr_left fun u hu => ?_
      show Table.form (if Text.sameFold u.name t.name then _ else u) = u.form
      split
      · rename_i same
        obtain ⟨ht, -⟩ := table?_some found
        rw [tidy.eq_of_sameFold hu ht same]
        simp [Table.form]
      · rfl

theorem addIndexes_frame {statements : List IndexText} (tidy : db.Tidy)
    (h : statements.foldlM addIndex db = .ok db') : IndexFrame db db' := by
  refine foldlM_invariant (IndexFrame db) ?_ (.refl db) h
  intro d statement d' _ frame step
  exact frame.trans (addIndex_frame (frame.tidy tidy) step)

/-! ### Making a table -/

/-- The table that a statement makes. -/
def tableOf (statement : TableText) (spec : TableSpec) : Table :=
  { Table.ofSpec spec with
    name := statement.table
    statement := some statement.plainRender }

theorem addTable_ok {statement : TableText} (h : db.addTable statement = .ok db') :
    db.hasTable statement.table = false ∧ ∃ spec, statement.spec = .ok spec ∧
      db' = { db with tables := db.tables ++ [tableOf statement spec] } := by
  simp only [addTable] at h
  obtain ⟨absent, h⟩ := unless_ok h
  obtain ⟨-, h⟩ := unless_ok h
  obtain ⟨spec, declared, h⟩ := bind_ok h
  split at h
  · cases h
  · exact ⟨absent, spec, declared, (Except.ok.inj h).symm⟩

/-- An index that is no constraint. -/
def IsPlainIndex (x : Index) : Prop := x.isUnique = false ∧ x.isPrimary = false

theorem putTable_last {tables : List Table} {t c : Table} (name : c.name = t.name)
    (apart : ∀ u ∈ tables, Text.sameFold u.name t.name = false)
    (there : db.tables = tables ++ [t]) : (db.putTable c).tables = tables ++ [c] := by
  rw [putTable, there, List.map_append, List.map_singleton, name, Text.sameFold_refl, if_pos rfl]
  refine congrArg (· ++ [c]) ((List.map_congr_left fun u hu => ?_).trans (List.map_id _))
  rw [apart u hu, if_neg Bool.false_ne_true]
  rfl

/-- An index that is asked for is added to the last table, unless some index has its name. -/
theorem addIndex_last {statement : IndexText} {tables : List Table} {t : Table}
    (apart : ∀ u ∈ tables, Text.sameFold u.name t.name = false) (own : statement.table = t.name)
    (there : db.tables = tables ++ [t]) (h : db.addIndex statement = .ok db') :
    db'.tables = tables ++ [t.indexed
      (if db.hasIndex statement.name then [] else [t.columnIndex statement])] := by
  simp only [addIndex] at h
  obtain ⟨-, h⟩ := unless_ok h
  split at h
  · rename_i taken
    rw [← Except.ok.inj h, there, if_pos taken, Table.indexed_nil]
  · rename_i free
    split at h
    · cases h
    · rename_i u found
      -- The table that the statement names is the last one.
      have last : u = t := by
        obtain ⟨hu, same⟩ := table?_some found
        rw [own] at same
        rw [there] at hu
        rcases List.mem_append.mp hu with hu | hu
        · rw [apart u hu] at same
          cases same
        · exact List.mem_singleton.mp hu
      rw [← Except.ok.inj h, last, if_neg free]
      exact putTable_last (t := t) rfl apart there

/-- Indexes that are asked for are added to the last table, if no other one has its name. -/
theorem addIndexes_last {statements : List IndexText} {tables : List Table} {t : Table}
    (apart : ∀ u ∈ tables, Text.sameFold u.name t.name = false)
    (own : ∀ x ∈ statements, x.table = t.name) (there : db.tables = tables ++ [t])
    (h : statements.foldlM addIndex db = .ok db') :
    ∃ further, (∀ x ∈ further, IsPlainIndex x) ∧ db'.tables = tables ++ [t.indexed further] := by
  refine foldlM_invariant (fun d => ∃ further : List Index, (∀ x ∈ further, IsPlainIndex x) ∧
    d.tables = tables ++ [t.indexed further]) ?_ ⟨[], by simp, ?_⟩ h
  · rintro d statement d' mem ⟨further, plain, now⟩ step
    have next := addIndex_last (t := t.indexed further) apart (own statement mem) now step
    refine ⟨_, fun x hx => ?_, next.trans (by rw [Table.indexed_indexed])⟩
    rcases List.mem_append.mp hx with hx | hx
    · exact plain x hx
    · split at hx
      · cases hx
      · rw [List.mem_singleton.mp hx]
        exact ⟨rfl, rfl⟩
  · rw [there, Table.indexed_nil]

theorem apart_of_hasTable {name : String} (h : db.hasTable name = false) :
    ∀ t ∈ db.tables, Text.sameFold t.name name = false := by
  intro t ht
  rw [Text.sameFold_comm]
  rw [hasTable, List.any_append, Bool.or_eq_false_iff, List.any_map] at h
  simpa using List.any_eq_false.mp h.2 t ht

theorem Tidy.addTable {statement : TableText} (tidy : db.Tidy) (free : IsUnkept statement.table)
    (h : db.addTable statement = .ok db') : db'.Tidy := by
  obtain ⟨absent, spec, -, rfl⟩ := addTable_ok h
  constructor
  · exact tidy.sequences
  · intro t ht
    rcases List.mem_append.mp ht with ht | ht
    · exact tidy.free t ht
    · rw [List.mem_singleton.mp ht]
      exact free
  · refine List.pairwise_append.mpr ⟨tidy.apart, List.pairwise_singleton _ _, ?_⟩
    intro t ht u hu
    rw [List.mem_singleton.mp hu]
    exact apart_of_hasTable absent t ht

theorem carryOut_frame (fuel : Nat) {text : List Char} (tidy : db.Tidy)
    (h : db.carryOut fuel text = .ok db') : RowFrame False db db' := by
  induction fuel generalizing db text with
  | zero =>
    rw [← Except.ok.inj h]
    exact .refl _ db
  | succ fuel ih =>
    simp only [carryOut] at h
    split at h
    · rw [← Except.ok.inj h]
      exact .refl _ db
    · split at h
      · exact ih tidy h
      · split at h
        · cases h
        · obtain ⟨⟨d, n⟩, emptied, h⟩ := bind_ok h
          have first : RowFrame False db d :=
            (deleteFrom_frame tidy emptied).mono fun impossible => impossible.elim
          exact first.trans (ih (first.tidy tidy) h)

/-- What making the table of an entity comes to. -/
structure Made (db : Database) (e : Entity) (db' : Database) : Prop where
  free : IsFree e.table
  absent : ∀ t ∈ db.tables, Text.sameFold t.name e.table = false
  tidy : db'.Tidy
  forms : ∃ spec, e.tableText.spec = .ok spec ∧ db'.tables.map Table.form =
    db.tables.map Table.form ++ [(tableOf e.tableText spec).form]
  /-- Where no further statements stand in the text, nothing else happens. -/
  rest : e.tableText.further = [] →
    db'.entities = db.entities ∧ db'.documents = db.documents ∧ db'.oddRows = db.oddRows
  tables : e.tableText.further = [] → ∃ spec further, e.tableText.spec = .ok spec ∧
    (∀ x ∈ further, IsPlainIndex x) ∧
      db'.tables = db.tables ++ [(tableOf e.tableText spec).indexed further]

/-- A table is made in three steps, under a name that is free. -/
theorem createTable_steps {e : Entity} (h : db.createTable e = .ok db') :
    IsFree e.table ∧ ∃ d₁ d₂, db.addTable e.tableText = .ok d₁ ∧
      d₁.carryOut e.tableText.further.length e.tableText.further = .ok d₂ ∧
        e.indexTexts.foldlM addIndex d₂ = .ok db' := by
  obtain ⟨⟨⟩, passed, h⟩ := bind_ok h
  obtain ⟨d₁, added, h⟩ := bind_ok (mapError_ok h)
  obtain ⟨d₂, carried, h⟩ := bind_ok h
  exact ⟨refuse_ok passed, d₁, d₂, added, carried, h⟩

/-- A definition asks for the indexes of its indexed fields. -/
theorem mem_indexTexts {e : Entity} {x : IndexText} :
    x ∈ e.indexTexts ↔ ∃ f ∈ e.fields, f.isIndexed = true ∧ e.indexText f = x := by
  simp only [Entity.indexTexts, List.mem_map, List.mem_filter, and_assoc]

theorem table_of_mem_indexTexts {e : Entity} {x : IndexText} (hx : x ∈ e.indexTexts) :
    x.table = e.table := by
  obtain ⟨f, -, -, rfl⟩ := mem_indexTexts.mp hx
  rfl

theorem made_of_createTable {e : Entity} (tidy : db.Tidy) (h : db.createTable e = .ok db') :
    db.Made e db' := by
  obtain ⟨free, d₁, d₂, added, carried, h⟩ := createTable_steps h
  obtain ⟨absent, spec, declared, d₁_eq⟩ := addTable_ok added
  have unkept : IsUnkept e.tableText.table := free.unkept
  have tidy₁ : d₁.Tidy := tidy.addTable unkept added
  have rows := carryOut_frame _ tidy₁ carried
  have tidy₂ := rows.tidy tidy₁
  have indexes := addIndexes_frame tidy₂ h
  refine ⟨free, apart_of_hasTable absent, indexes.tidy tidy₂, ⟨spec, declared, ?_⟩, ?_, ?_⟩
  · rw [indexes.forms, rows.forms, d₁_eq, List.map_append, List.map_singleton]
  · intro none
    rw [none] at carried
    have same : d₁ = d₂ := Except.ok.inj carried
    rw [indexes.entities, indexes.documents, indexes.oddRows, ← same, d₁_eq]
    exact ⟨rfl, rfl, rfl⟩
  · intro none
    rw [none] at carried
    have same : d₁ = d₂ := Except.ok.inj carried
    obtain ⟨further, plain, tables⟩ := addIndexes_last (t := tableOf e.tableText spec)
      (apart_of_hasTable absent) (fun _ => table_of_mem_indexTexts) (by rw [← same, d₁_eq]) h
    exact ⟨spec, further, declared, plain, tables⟩

theorem Made.table?_other {e : Entity} {other : String} (m : db.Made e db')
    (plain : e.tableText.further = []) (apart : Text.sameFold other e.table = false) :
    db'.table? other = db.table? other := by
  obtain ⟨spec, further, -, -, tables⟩ := m.tables plain
  rw [table?, table?, tables, List.find?_append]
  have last : [(tableOf e.tableText spec).indexed further].find?
      (fun t => Text.sameFold t.name other) = none := by
    rw [List.find?_singleton, if_neg]
    rw [Text.sameFold_comm, Bool.not_eq_true]
    exact apart
  rw [last, Option.or_none]

/-! ### Dropping a table -/

/-- What dropping a table comes to. -/
structure Dropped (db : Database) (name : String) (db' : Database) : Prop where
  free : IsFree name
  tidy : db'.Tidy
  forms : db'.tables.map Table.form =
    (db.tables.map Table.form).filter fun t => !Text.sameFold t.name name
  entities : db'.entities = db.entities
  documents : db'.documents = db.documents
  oddRows : db'.oddRows = db.oddRows
  /-- Where nothing follows from a row, only the rows of the table are removed before it. -/
  tables : db.IsSimple → ∃ d, RowWrite name .delete db d ∧
    db'.tables = d.tables.filter fun t => !Text.sameFold t.name name

theorem dropped_of_dropTable {name : String} (tidy : db.Tidy) (h : db.dropTable name = .ok db') :
    db.Dropped name db' := by
  obtain ⟨⟨⟩, passed, h⟩ := bind_ok h
  have free : IsFree name := refuse_ok passed
  split at h
  · rename_i absent
    rw [← Except.ok.inj h]
    have all : db.tables.filter (fun t => !Text.sameFold t.name name) = db.tables := by
      rw [List.filter_eq_self]
      intro t ht
      rw [table?_none absent t ht]
      rfl
    refine ⟨free, tidy, ?_, rfl, rfl, rfl, fun _ => ⟨db, .refl, all.symm⟩⟩
    rw [List.filter_map]
    exact congrArg (List.map Table.form) all.symm
  · rename_i t found
    obtain ⟨d, emptied, h⟩ := bind_ok h
    have own : IsUnkept t.name := tidy.free t (table?_some found).1
    have rows : RowFrame True db d :=
      (removeRows_frame tidy (mapError_ok emptied)).mono fun _ => own
    obtain ⟨-, h⟩ := unless_ok h
    have tidyNow := rows.tidy tidy
    rw [← Except.ok.inj h]
    refine ⟨free, ⟨?_, ?_, ?_⟩, ?_, rows.entities trivial, rows.documents trivial,
      rows.oddRows trivial, ?_⟩
    · show (if t.isAutoincrement then Sequence.forget d.sequences t.name else d.sequences).name = _
      split
      · exact tidyNow.sequences
      · exact tidyNow.sequences
    · intro u hu
      exact tidyNow.free u (List.mem_filter.mp hu).1
    · exact tidyNow.apart.sublist List.filter_sublist
    · show (d.tables.filter fun u => !Text.sameFold u.name name).map Table.form = _
      rw [← rows.forms, List.filter_map]
      rfl
    · intro simple
      obtain ⟨ht, same⟩ := table?_some found
      have write := removeRows_write tidy simple (tidy.table?_of_mem ht) (mapError_ok emptied)
      exact ⟨d, write.of_sameFold same, rfl⟩

/-- Under another name stands what stood there, with all its rows. -/
theorem Dropped.table?_other {name other : String} (d : db.Dropped name db') (tidy : db.Tidy)
    (simple : db.IsSimple) (apart : Text.sameFold other name = false) :
    db'.table? other = db.table? other := by
  obtain ⟨emptied, write, tables⟩ := d.tables simple
  rw [← write.table?_other tidy apart, table?, table?, tables, List.find?_filter]
  refine congrArg (List.find? · emptied.tables) (funext fun t => ?_)
  -- No table of the other name is taken out.
  cases same : Text.sameFold t.name other with
  | false => simp
  | true => simp [Text.sameFold_congr same name, apart]

end Database

end EntityEngine.Store
