import EntityEngine.Proofs.Engine.Making
import EntityEngine.Proofs.Engine.Retention
import EntityEngine.Proofs.Store.IndexName

/-! Indexes of fields in runs that leave the types of columns open. The index of a field is made with
the table, unless an index of another table has its name. -/

namespace EntityEngine

open Store

variable {g g' : Engine} {made : Makings} {op : Operation}

/-! ### Indexes in a run -/

/-- An operation leaves tables as they are but for their rows, drops one, or makes one. -/
theorem Operation.Move.bare (move : op.Move g g') (inv : g.Inv) (simple : g.database.IsSimple) :
    ∀ t ∈ g'.database.tables, ∃ u ∈ g.database.tables, u.bare = t.bare := by
  have written : ∀ {db db' : Database} {name : String} {statement : Statement}, db.Tidy →
      db.RowWrite name statement db' → ∀ t ∈ db'.tables, ∃ u ∈ db.tables, u.bare = t.bare :=
    fun tidy write t ht => List.mem_map.mp ((write.frame tidy).bare t ht)
  have same : g'.database.tables = g.database.tables →
      ∀ t ∈ g'.database.tables, ∃ u ∈ g.database.tables, u.bare = t.bare := by
    intro eq t ht
    exact ⟨t, eq ▸ ht, rfl⟩
  cases move with
  | records step =>
    cases step with
    | none => exact same rfl
    | rows _ _ _ _ write => exact written inv.tidy (write simple)
    | documents frame _ => exact same frame.tables
  | created _ _ c => exact same c.tables
  | replaced _ r => exact same r.tables
  | deleted _ _ _ => exact same rfl
  | @dropped e change _ _ _ _ d =>
    obtain ⟨emptied, write, tables⟩ := d.tables simple
    intro t ht
    have ht : t ∈ emptied.tables.filter fun t => !Text.sameFold t.name e.table := tables ▸ ht
    have tidy : (g.database.changeEntity e.id change).Tidy := inv.tidy.of_names rfl rfl
    exact written tidy write t (List.mem_filter.mp ht).1

theorem Store.Table.NamesIndexes.of_bare {t u : Table} (h : u.NamesIndexes)
    (same : u.bare = t.bare) : t.NamesIndexes := by
  have bare : u.bare.NamesIndexes := h
  rw [same] at bare
  exact bare

theorem Operation.Move.namesIndexes (move : op.Move g g') (inv : g.Inv)
    (simple : g.database.IsSimple) (named : g.database.NamesIndexes) :
    g'.database.NamesIndexes := by
  intro t ht
  obtain ⟨u, hu, same⟩ := move.bare inv simple t ht
  exact (named u hu).of_bare same

theorem Engine.makeTable_namesIndexes (named : g.database.NamesIndexes) {e : Entity}
    (derived : e.HasDerivedTypes) : (g.makeTable e).2.database.NamesIndexes := by
  rcases makeTable_cases g e with ⟨-, eq⟩ | ⟨made, created, marks⟩
  · rw [eq]
    exact named
  · have now : made.NamesIndexes := Database.createTable_namesIndexes named derived created
    rcases marks with ⟨-, eq⟩ | ⟨-, eq⟩
    · rw [eq]
      exact now
    · rw [eq]
      exact now

/-- In every run, an index that is no constraint is that of a column, under its table's name. -/
theorem Run.namesIndexes (h : Run made g) : g.database.NamesIndexes := by
  induction h with
  | start baseUrl =>
    intro t ht
    cases ht
  | step op run leave ih =>
    have inv := run.coherent.inv
    rcases op.run_cases inv with ⟨-, move⟩ | ⟨e, g', -, move, he, -, eq⟩
    · exact move.namesIndexes inv run.built.simple ih
    · rw [eq]
      exact Engine.makeTable_namesIndexes (move.namesIndexes inv run.built.simple ih)
        (move.derived inv leave run.coherent.derived e he)
  | reload baseUrl _ ih => exact ih

/-! ### Indexes that are made -/

/-- A table is made beside the ones that are there. -/
theorem Operation.tables_of_makes? {e : Entity} {database : Database}
    (makes : op.makes? g = some (e, database)) : database.tables = g.database.tables := by
  unfold makes? at makes
  split at makes
  · split at makes
    · rename_i created
      split at makes
      · rw [← (Prod.mk.inj (Option.some.inj makes)).2]
        exact (Database.created_of_createEntity created).tables
      · cases makes
    · cases makes
  · split at makes
    · split at makes
      · cases makes
      · rw [← (Prod.mk.inj (Option.some.inj makes)).2]
    · cases makes
  · cases makes

/-- In every run that leaves the types of columns open, a table that an operation makes has an index
of an indexed field alone exactly if the field is unique by itself, or if no index of another table
has the name. Two indexes are given one name, up to the case of letters, if table and field are the
same, and else exactly if a piece of a name is shifted from the one to the other. -/
theorem index_made_unless_shadowed (h : Run made g) (leave : LeaveTypes op.fields) {e : Entity}
    {database db' : Database} (makes : op.makes? g = some (e, database))
    (created : database.createTable e = .ok db') :
    (∃ t, db'.table? e.table = some t ∧ ∀ f ∈ e.fields, f.isIndexed = true →
      ((∃ x ∈ t.indexes, x.columns.map Sql.KeyColumn.name = [f.name]) ↔
        e.isUniqueAlone f = true ∨ ¬ g.database.Shadows e.table f.name)) ∧
      ∀ (c d : Entity) (f k : Field),
        Text.sameFold (c.indexText f).name (d.indexText k).name = true ↔
          (Text.sameFold c.table d.table = true ∧ Text.sameFold f.name k.name = true) ∨
            Shifts c.table f.name d.table k.name ∨ Shifts d.table k.name c.table f.name := by
  have inv := h.coherent.inv
  refine ⟨?_, fun c d f k => sameFold_indexName⟩
  rcases op.run_cases inv with ⟨none, -⟩ | ⟨e', g', makes', move, he, -⟩
  · rw [none] at makes
    cases makes
  · obtain ⟨rfl, rfl⟩ := Prod.mk.inj (Option.some.inj (makes'.symm.trans makes))
    have named := move.namesIndexes inv h.built.simple h.namesIndexes
    have derived := move.derived inv leave h.coherent.derived e' he
    obtain ⟨t, there, indexed⟩ := Database.createTable_indexed named derived created
    refine ⟨t, there, fun f hf asked => ?_⟩
    rw [indexed f hf asked, Database.Shadows, Operation.tables_of_makes? makes, Database.Shadows]

/-! ### An index in the place of another one -/

/-- A table is declared with one field, which is indexed. -/
def declareIndexed (table field : String) : Operation :=
  .createEntity
    { appId := 1
      name := table
      table
      code := some table
      fields := [{ name := field, type := .string, isIndexed := true }]
      autoCreate := true }
    "a" ⟨⟨0, 0⟩, "r", "c"⟩

/-- The index of the one table is called `idx_a_b_c`. -/
def indexed : Engine := (declareIndexed "a_b" "c").run (.start .empty "")

theorem leaveTypes_declareIndexed (table field : String) :
    LeaveTypes (declareIndexed table field).fields := by
  intro f hf
  rw [List.mem_singleton.mp hf]
  rfl

theorem run_indexed : Run (.after (fun _ => none) (.start .empty "") indexed) indexed :=
  .step (declareIndexed "a_b" "c") (.start "") (leaveTypes_declareIndexed "a_b" "c")

/-- A table `a` with an indexed field `b_c` can be made, where a table `a_b` has an index of `c`. -/
def MakesShadowed (g : Engine) : Prop :=
  (((declareIndexed "a" "b_c").makes? g).any (fun (e, database) =>
    (database.createTable? e).isSome && e.table == "a" &&
      e.fields.any fun f => f.isIndexed && f.name == "b_c" && !e.isUniqueAlone f) &&
    g.database.tables.any fun u => u.name == "a_b" && u.indexes.any fun x =>
      x.name == some (indexName "a_b" "c") && x.columns.map Sql.KeyColumn.name == ["c"]) = true

instance (g : Engine) : Decidable (MakesShadowed g) := inferInstanceAs (Decidable (_ = true))

theorem indexed_makesShadowed : MakesShadowed indexed := by
  rw [indexed, declareIndexed]
  exact Operation.run_of_any MakesShadowed (by decide +kernel)

/-- A table `a` is made, and its field `b_c` is left without an index, though it asks for one. -/
theorem index_not_made_for_piece : ∃ e database db' t,
    (declareIndexed "a" "b_c").makes? indexed = some (e, database) ∧
      database.createTable e = .ok db' ∧ db'.table? e.table = some t ∧
        ∃ f ∈ e.fields, f.isIndexed = true ∧
          ¬ ∃ x ∈ t.indexes, x.columns.map Sql.KeyColumn.name = [f.name] := by
  have makes := indexed_makesShadowed
  rw [MakesShadowed, Bool.and_eq_true, Option.any_eq_true] at makes
  obtain ⟨⟨⟨e, database⟩, declares, facts⟩, taken⟩ := makes
  simp only [Bool.and_eq_true, beq_iff_eq, List.any_eq_true, Bool.not_eq_true'] at facts taken
  obtain ⟨⟨room, table⟩, f, hf, ⟨asked, name⟩, shared⟩ := facts
  obtain ⟨u, hu, own, x, hx, named, columns⟩ := taken
  obtain ⟨db', made⟩ := Option.isSome_iff_exists.mp room
  have created := Database.createTable_of_createTable? made
  obtain ⟨⟨t, there, indexes⟩, -⟩ := index_made_unless_shadowed run_indexed
    (leaveTypes_declareIndexed "a" "b_c") declares created
  refine ⟨e, database, db', t, declares, created, there, f, hf, asked, ?_⟩
  rw [indexes f hf asked, not_or, not_not]
  refine ⟨by rw [shared]; exact Bool.false_ne_true, u, hu, x, hx, "c", ?_, Or.inl ?_⟩
  · rw [own]
    exact ⟨named, columns⟩
  · rw [table, name, own]
    exact ⟨"b", by decide, by decide⟩

end EntityEngine
