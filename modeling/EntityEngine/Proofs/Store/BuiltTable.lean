import EntityEngine.Proofs.Sql.Comparison
import EntityEngine.Proofs.Store.FieldColumn

/-! Tables as the statements of definitions make them, where column types follow from the types of
fields. Such a table refers to no other one, and a row that breaks a constraint is refused, so that
no two rows of a template ever have one record identifier. -/

namespace EntityEngine.Store

open Sql

theorem Table.index_mem_keys {t : Table} {x : Index} :
    .index x ∈ t.keys ↔ x ∈ t.indexes ∧ x.isUnique = true := by
  have used : x ∈ t.indexesInUse ↔ x ∈ t.indexes := by
    simp only [indexesInUse, List.mem_append, List.mem_filter, List.mem_reverse, ← and_or_left,
      Bool.not_eq_true']
    exact and_iff_left (Bool.eq_false_or_eq_true _).symm
  have listed : Key.index x ∈ (t.indexesInUse.filter Index.isUnique).map Key.index ↔
      x ∈ t.indexes ∧ x.isUnique = true := by
    rw [← used, ← List.mem_filter, List.mem_map_of_injective fun _ _ => Key.index.inj]
  unfold keys
  simp only
  split <;> simpa using listed

/-- The table is as the statement of a definition makes it, with further indexes that are no
constraints, and any rows. -/
structure Table.IsBuiltFrom (t : Table) (e : Entity) : Prop where
  derived : e.HasDerivedTypes
  built : ∃ spec further, e.tableText.spec = .ok spec ∧
    (∀ x ∈ further, Database.IsPlainIndex x) ∧
      t.bare = (Database.tableOf e.tableText spec).indexed further

namespace Table.IsBuiltFrom

variable {t u : Table} {e : Entity}

theorem of_bare (h : u.IsBuiltFrom e) (same : t.bare = u.bare) : t.IsBuiltFrom e := by
  obtain ⟨spec, further, declared, plain, eq⟩ := h.built
  exact ⟨h.derived, spec, further, declared, plain, same.trans eq⟩

theorem isMadeOf (h : t.IsBuiltFrom e) : t.IsMadeOf e := by
  obtain ⟨spec, further, declared, plain, eq⟩ := h.built
  refine ⟨h.derived, spec, declared, ?_⟩
  have none : further.filter Index.isPrimary = [] := by
    refine List.filter_eq_nil_iff.mpr fun x hx => ?_
    rw [(plain x hx).2]
    exact Bool.false_ne_true
  rw [← form_bare, eq]
  simp only [form, indexed, List.filter_append, none, List.append_nil]

/-- What the statement says of a table besides its columns. -/
theorem parts (h : t.IsBuiltFrom e) : t.foreignKeys = [] ∧ t.numberConflict = .abort ∧
    t.numberColumn = e.tableText.numberColumn? ∧
      ∃ further, (∀ x ∈ further, Database.IsPlainIndex x) ∧
        t.indexes = e.tableText.uniques.map constraintIndex ++ further := by
  obtain ⟨spec, further, declared, plain, eq⟩ := h.built
  obtain ⟨-, rfl⟩ := TableText.plainSpec_ok (Entity.spec_tableText h.derived declared)
  exact ⟨congrArg Table.foreignKeys eq, congrArg Table.numberConflict eq,
    congrArg Table.numberColumn eq, further, plain, congrArg Table.indexes eq⟩

/-- The statement has no conditions that rows have to meet. -/
theorem checks_eq (h : t.IsBuiltFrom e) : t.checks = [] := by
  obtain ⟨spec, further, declared, -, eq⟩ := h.built
  obtain ⟨-, rfl⟩ := TableText.plainSpec_ok (Entity.spec_tableText h.derived declared)
  exact congrArg Table.checks eq

/-- The constraints are those of the statement: a row that breaks one is refused. -/
theorem mem_keys (h : t.IsBuiltFrom e) {x : Index} : .index x ∈ t.keys ↔
    ∃ c ∈ e.tableText.uniques, x = constraintIndex c := by
  obtain ⟨-, -, -, further, plain, indexes⟩ := h.parts
  rw [index_mem_keys, indexes, List.mem_append]
  constructor
  · rintro ⟨hx | hx, unique⟩
    · obtain ⟨c, hc, rfl⟩ := List.mem_map.mp hx
      exact ⟨c, hc, rfl⟩
    · rw [(plain x hx).1] at unique
      cases unique
  · rintro ⟨c, hc, rfl⟩
    exact ⟨Or.inl (List.mem_map_of_mem hc), rfl⟩

theorem uniques_abort : ∀ u ∈ e.tableText.uniques, u.conflict = none := by
  intro u hu
  rcases List.mem_append.mp hu with hu | hu
  · obtain ⟨c, -, rfl⟩ := List.mem_map.mp hu
    rfl
  · split at hu
    · cases hu
    · rw [List.mem_singleton.mp hu]

/-- No column follows from others, and where null may not be, a row with it is refused. -/
theorem plain_columns (h : t.IsBuiltFrom e) : ∀ c ∈ t.columns, c.derivation = none ∧
    (c.notNull = none ∨ c.notNull = some .abort) := by
  rw [h.isMadeOf.columns]
  intro c hc
  obtain ⟨d, -, rfl⟩ := List.mem_map.mp hc
  refine ⟨rfl, ?_⟩
  show (ColumnText.spec d).notNull = none ∨ (ColumnText.spec d).notNull = some .abort
  unfold ColumnText.spec
  simp only
  split
  · exact Or.inr rfl
  · exact Or.inl rfl

/-- The column that shows the numbers of rows keeps integers. -/
theorem number_columns (h : t.IsBuiltFrom e) :
    ∀ c ∈ t.columns, t.isNumberColumn c.name = true → c.affinity ≠ .text := by
  have numberColumn := h.parts.2.2.1.trans (Entity.numberColumn?_tableText h.derived)
  intro c hc own
  rw [isNumberColumn, numberColumn] at own
  cases layout : e.layout with
  | native =>
    rw [layout] at own
    cases own
  | template =>
    rw [layout] at own
    replace own : Text.sameFold c.name "id" = true := own
    rw [h.isMadeOf.columns] at hc
    obtain ⟨d, hd, rfl⟩ := List.mem_map.mp hc
    have first : (⟨"id", "INTEGER", [.autoKey], none⟩ : ColumnText) ∈ e.tableText.columns := by
      simp [Entity.tableText, layout, systemColumnTexts]
    rw [List.inj_on_of_nodup_map h.isMadeOf.distinct hd first (Text.sameFold_iff.mp own)]
    decide

theorem simple (h : t.IsBuiltFrom e) : t.IsSimple := by
  refine ⟨h.parts.1, fun k hk => ?_, h.plain_columns, h.number_columns, h.isMadeOf.names_distinct⟩
  cases k with
  | number => exact h.parts.2.1
  | index x =>
    obtain ⟨c, hc, rfl⟩ := h.mem_keys.mp hk
    show c.conflict.getD .abort = .abort
    rw [uniques_abort c hc]
    rfl

/-! ### The record identifier of a template -/

/-- The column of the numbers of rows. -/
def idColumn : Column :=
  columnOf (ColumnText.spec { name := "id", type := "INTEGER", constraints := [.autoKey] })

/-- The column of the record identifiers. -/
def recordIdColumn : Column :=
  columnOf (ColumnText.spec
    { name := "record_id", type := "VARCHAR(32)", constraints := [.notNull, .unique] })

/-- The column of the times at which rows are stored. -/
def createdAtColumn : Column :=
  columnOf (ColumnText.spec { name := "created_at", type := "DATETIME", constraints := [.notNull] })

theorem recordIdColumn_affinity : recordIdColumn.affinity = .text := by decide

theorem columns_template (h : t.IsBuiltFrom e) (template : e.layout = .template) :
    ∃ rest, t.columns = idColumn :: recordIdColumn :: createdAtColumn :: rest := by
  have columns := h.isMadeOf.columns
  simp only [Entity.tableText, template, systemColumnTexts, List.cons_append,
    List.map_cons] at columns
  exact ⟨_, columns⟩

/-- The numbers of a template's rows are used once. -/
theorem isAutoincrement (h : t.IsBuiltFrom e) (template : e.layout = .template) :
    t.isAutoincrement = true := by
  obtain ⟨spec, further, declared, -, eq⟩ := h.built
  obtain ⟨-, rfl⟩ := TableText.plainSpec_ok (Entity.spec_tableText h.derived declared)
  refine (congrArg Table.isAutoincrement eq).trans ?_
  simp [Database.tableOf, ofSpec, indexed, Entity.tableText, template, systemColumnTexts]

theorem place_recordId (h : t.IsBuiltFrom e) (template : e.layout = .template) :
    t.place? "record_id" = some 1 := by
  obtain ⟨rest, columns⟩ := h.columns_template template
  have name : idColumn.name = "id" := rfl
  have other : Text.sameFold "id" "record_id" = false := by decide
  have own : Text.sameFold recordIdColumn.name "record_id" = true := Text.sameFold_refl _
  rw [place?, columns, List.findIdx?_cons, name, other, List.findIdx?_cons, own]
  rfl

theorem reader_recordId (h : t.IsBuiltFrom e) (template : e.layout = .template) (row : Row) :
    t.reader row (.column "record_id") = ⟨valueAt row 1, .text, .bytes⟩ := by
  obtain ⟨rest, columns⟩ := h.columns_template template
  rw [reader_column (h.place_recordId template) (by rw [columns]; rfl) row,
    recordIdColumn_affinity]
  rfl

/-- No two rows have one record identifier. -/
theorem eq_of_recordId (h : t.IsBuiltFrom e) (template : e.layout = .template)
    (orderly : t.IsOrderly) {r s : Row} (hr : r ∈ t.rows) (hs : s ∈ t.rows) {key : String}
    (first : (t.reader r (.column "record_id")).value = .text key)
    (second : (t.reader s (.column "record_id")).value = .text key) : r = s := by
  have declared : ({ columns := [{ name := "record_id" }] } : UniqueSpec) ∈
      e.tableText.uniques := by
    refine List.mem_append_left _ (List.mem_map.mpr
      ⟨⟨"record_id", "VARCHAR(32)", [.notNull, .unique], none⟩,
        List.mem_filter.mpr ⟨?_, rfl⟩, rfl⟩)
    simp [Entity.tableText, template, systemColumnTexts]
  have mem := h.mem_keys.mpr ⟨_, declared, rfl⟩
  by_contra ne
  have shares : ∀ a b : Row, (t.reader a (.column "record_id")).value = .text key →
      (t.reader b (.column "record_id")).value = .text key →
        t.shares a b
          (.index (constraintIndex { columns := [{ name := "record_id" }] })) = true := by
    intro a b ha hb
    simp only [shares, isIn, sameKey, indexKey, constraintIndex, List.map_cons, List.map_nil, ha,
      hb]
    simp [Reader.satisfiesAll, Value.isNull, orderBy_texts]
  rcases orderly.apart r hr s hs ne _ mem with apart | apart
  · rw [shares r s first second] at apart
    cases apart
  · rw [shares s r second first] at apart
    cases apart

/-- A new row of a template has the record identifier that was made for it. -/
theorem insertion_recordId (h : t.IsBuiltFrom e) (template : e.layout = .template)
    {context : Setting} {used : Int} {given : List (String × Value)} {key : String}
    {i : Insertion}
    (ok : t.insertion context used (("record_id", .text key) :: given) = .ok i) :
    ∃ s, i.settled = some s ∧ (t.reader s.row (.column "record_id")).value = .text key := by
  obtain ⟨values, found, settled, -⟩ := insertion_ok h.simple ok
  refine ⟨_, settled, ?_⟩
  rw [h.reader_recordId template]
  obtain ⟨rest, columns⟩ := h.columns_template template
  have other : t.isNumberColumn recordIdColumn.name = false := by
    rw [isNumberColumn, h.parts.2.2.1, Entity.numberColumn?_tableText h.derived, template]
    decide
  rw [columns, List.mapM_cons] at found
  obtain ⟨v, -, found⟩ := bind_ok found
  obtain ⟨values, others, found⟩ := bind_ok found
  rw [List.mapM_cons] at others
  obtain ⟨w, own, others⟩ := bind_ok others
  obtain ⟨values, -, others⟩ := bind_ok others
  have value : w = .text key := by
    rw [other] at own
    have given : given? (("record_id", .text key) :: given) recordIdColumn = some (.text key) := rfl
    simp only [Bool.false_eq_true, if_false, newValue, given, recordIdColumn_affinity] at own
    exact (Except.ok.inj own).symm
  rw [← Except.ok.inj found, ← Except.ok.inj others, numbered, columns]
  simp only [List.zip_cons_cons, List.map_cons, other, Bool.false_eq_true, if_false, value]
  rfl

end Table.IsBuiltFrom

/-! ### Databases of such tables -/

namespace Database

variable {db db' : Database}

/-- Every table is as the statement of some definition makes it, with orderly rows. -/
def IsBuilt (db : Database) : Prop := ∀ t ∈ db.tables, t.IsOrderly ∧ ∃ e, t.IsBuiltFrom e

namespace IsBuilt

theorem simple (h : db.IsBuilt) : db.IsSimple := by
  intro t ht
  obtain ⟨-, e, built⟩ := h t ht
  exact built.simple

theorem of_tables (h : db.IsBuilt) (same : db'.tables = db.tables) : db'.IsBuilt := by
  intro t ht
  rw [same] at ht
  exact h t ht

theorem write {name : String} {statement : Statement} (h : db.IsBuilt) (tidy : db.Tidy)
    (write : RowWrite name statement db db') : db'.IsBuilt := by
  intro t ht
  refine ⟨write.orderly (fun u hu => (h u hu).1) t ht, ?_⟩
  obtain ⟨u, hu, same⟩ := List.mem_map.mp ((write.frame tidy).bare t ht)
  obtain ⟨-, e, built⟩ := h u hu
  exact ⟨e, built.of_bare same.symm⟩

theorem dropped {name : String} (h : db.IsBuilt) (tidy : db.Tidy) (d : db.Dropped name db') :
    db'.IsBuilt := by
  obtain ⟨emptied, write, tables⟩ := d.tables h.simple
  intro t ht
  rw [tables] at ht
  exact h.write tidy write t (List.mem_filter.mp ht).1

theorem made {e : Entity} (h : db.IsBuilt) (derived : e.HasDerivedTypes) (m : db.Made e db') :
    db'.IsBuilt := by
  obtain ⟨spec, further, declared, plain, tables⟩ := m.tables (Entity.further_tableText derived)
  intro t ht
  rw [tables] at ht
  rcases List.mem_append.mp ht with ht | ht
  · exact h t ht
  · rw [List.mem_singleton.mp ht]
    refine ⟨⟨fun r hr => ?_, fun r hr => ?_⟩, e, derived, spec, further, declared, plain, rfl⟩
    · exact absurd hr List.not_mem_nil
    · exact absurd hr List.not_mem_nil

end IsBuilt

end Database

end EntityEngine.Store
