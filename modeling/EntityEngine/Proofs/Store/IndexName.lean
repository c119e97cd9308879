import EntityEngine.Proofs.Store.FieldColumn

/-! Indexes of fields. The name of one joins that of its table and that of its column, and it is made
unless some index has the name. Other names are joined alike where a part of the table's name in the
one is a part of the column's name in the other, so an index of one table may stand in the way of one
of another table. -/

namespace EntityEngine

open Sql

/-! ### Names of indexes -/

namespace Text

theorem fold_append (s t : String) : fold (s ++ t) = fold s ++ fold t :=
  String.toList_inj.mp (by simp [toList_fold])

theorem toList_joined (s t : String) : (s ++ "_" ++ t).toList = s.toList ++ '_' :: t.toList := by
  simp

/-- What a first part has more than another one is nothing, or the separator and a piece. -/
theorem joined_of_more {a b c d : String} {more : List Char} (first : c.toList = a.toList ++ more)
    (second : '_' :: b.toList = more ++ '_' :: d.toList) :
    (a = c ∧ b = d) ∨ ∃ piece, c = a ++ "_" ++ piece ∧ b = piece ++ "_" ++ d := by
  cases more with
  | nil =>
    rw [List.append_nil, String.toList_inj] at first
    exact Or.inl ⟨first.symm, String.toList_inj.mp (List.cons.inj second).2⟩
  | cons separator piece =>
    obtain ⟨rfl, rest⟩ := List.cons.inj second
    refine Or.inr ⟨String.ofList piece, String.toList_inj.mp ?_, String.toList_inj.mp ?_⟩
    · rw [first, toList_joined, String.toList_ofList]
    · rw [rest, toList_joined, String.toList_ofList]
      rfl

/-- Two pairs are joined alike if they are one, or if the first part of one goes on with a piece
that the second part of the other one starts with. -/
theorem joined_eq_joined {a b c d : String} :
    a ++ "_" ++ b = c ++ "_" ++ d ↔ (a = c ∧ b = d) ∨
      (∃ piece, c = a ++ "_" ++ piece ∧ b = piece ++ "_" ++ d) ∨
        ∃ piece, a = c ++ "_" ++ piece ∧ d = piece ++ "_" ++ b := by
  constructor
  · intro same
    rw [← String.toList_inj, toList_joined, toList_joined] at same
    rcases List.append_eq_append_iff.mp same with ⟨more, first, second⟩ | ⟨more, first, second⟩
    · exact (joined_of_more first second).imp_right Or.inl
    · rcases joined_of_more first second with ⟨rfl, rfl⟩ | longer
      · exact Or.inl ⟨rfl, rfl⟩
      · exact Or.inr (Or.inr longer)
  · rintro (⟨rfl, rfl⟩ | ⟨piece, rfl, rfl⟩ | ⟨piece, rfl, rfl⟩)
    · rfl
    · simp only [String.append_assoc]
    · simp only [String.append_assoc]

end Text

/-- The name of the index of a column. -/
def indexName (table column : String) : String := "idx_" ++ table ++ "_" ++ column

/-- Up to the case of letters, the second table's name is the first one's with a piece behind it,
and that piece stands before the name of the second column in the name of the first one. -/
def Shifts (table column table' column' : String) : Prop :=
  ∃ piece, Text.fold table' = Text.fold table ++ "_" ++ piece ∧
    Text.fold column = piece ++ "_" ++ Text.fold column'

variable {table column table' column' : String}

theorem fold_indexName (table column : String) : Text.fold (indexName table column) =
    "idx_" ++ (Text.fold table ++ "_" ++ Text.fold column) := by
  have own : Text.fold "idx_" = "idx_" := by decide
  have separator : Text.fold "_" = "_" := by decide
  simp only [indexName, Text.fold_append, own, separator, String.append_assoc]

/-- The indexes of two columns have one name if table and column are the same, or if a piece of the
one name is shifted to the other. -/
theorem sameFold_indexName :
    Text.sameFold (indexName table column) (indexName table' column') = true ↔
    (Text.sameFold table table' = true ∧ Text.sameFold column column' = true) ∨
      Shifts table column table' column' ∨ Shifts table' column' table column := by
  rw [Text.sameFold_iff, fold_indexName, fold_indexName, String.append_right_inj,
    Text.joined_eq_joined, Text.sameFold_iff, Text.sameFold_iff, Shifts, Shifts]

/-- The engine's own indexes have other names. -/
theorem not_sameFold_engine (table column : String) :
    ∀ name ∈ EngineTable.indexNames, Text.sameFold (indexName table column) name = false := by
  have first : ∀ name ∈ EngineTable.indexNames, (Text.fold name).toList.head? = some 'e' := by
    decide
  intro name hname
  rw [Bool.eq_false_iff, ne_eq, Text.sameFold_iff]
  intro same
  have other := first name hname
  rw [← same, Text.toList_fold, indexName] at other
  simp at other

/-! ### Constraints of one column -/

/-- The column of a field is unique by itself: in the table of a template that of a key field as
well, else only that of a key field beside which there is no other one. -/
def Entity.isUniqueAlone (e : Entity) (f : Field) : Bool :=
  match e.layout with
  | .template => f.isKey || f.isUnique
  | .native => f.isUnique && !f.isKey || e.keys.map Field.name == [f.name]

theorem Field.contains_unique (f : Field) (layout : Layout) :
    (f.columnText layout).constraints.contains .unique =
      (layout = .template && f.isKey || f.isUnique && !f.isKey) := by
  unfold Field.columnText
  simp only
  generalize asked : (decide (layout = .template) && f.isKey || f.isUnique && !f.isKey) = unique
  cases unique <;> cases f.isNotNull || f.isKey <;> cases f.default <;> rfl

/-- Such a column has a constraint of its own, and no other one has. -/
theorem Entity.exists_unique_iff {e : Entity} {f : Field} (derived : e.HasDerivedTypes)
    (distinct : (e.tableText.columns.map fun c => Text.fold c.name).Nodup) (hf : f ∈ e.fields) :
    (∃ u ∈ e.tableText.uniques, u.columns.map KeyColumn.name = [f.name]) ↔
      e.isUniqueAlone f = true := by
  have column : (∃ c ∈ e.tableText.columns,
      c.constraints.contains .unique = true ∧ c.name = f.name) ↔
      (e.layout = .template && f.isKey || f.isUnique && !f.isKey) = true := by
    have own := Store.Table.IsMadeOf.mem_columns hf
    rw [← f.contains_unique]
    constructor
    · rintro ⟨c, hc, unique, same⟩
      rwa [← List.inj_on_of_nodup_map distinct hc own (congrArg Text.fold same)]
    · exact fun unique => ⟨_, own, unique, rfl⟩
  have key : (∃ u ∈ (if e.tableText.primaryKey.isEmpty || e.tableText.numberColumn?.isSome then []
      else [{ columns := e.tableText.primaryKey.map fun name => { name }, isPrimary := true }] :
        List UniqueSpec), u.columns.map KeyColumn.name = [f.name]) ↔
      e.layout = .native ∧ e.keys.map Field.name = [f.name] := by
    rw [numberColumn?_tableText derived]
    cases layout : e.layout with
    | template => simp
    | native =>
      have names : e.tableText.primaryKey = e.keys.map Field.name := by rw [tableText, layout]
      rw [names]
      cases e.keys <;> simp [Function.comp_def, and_comm]
  have parts : (∃ u ∈ e.tableText.uniques, u.columns.map KeyColumn.name = [f.name]) ↔
      (∃ c ∈ e.tableText.columns, c.constraints.contains .unique = true ∧ c.name = f.name) ∨
        (e.layout = .native ∧ e.keys.map Field.name = [f.name]) := by
    rw [← key]
    simp [TableText.uniques, or_and_right, exists_or, and_assoc]
  rw [parts, column, isUniqueAlone]
  cases e.layout <;> cases f.isKey <;> simp

namespace Store

/-! ### Indexes that are there -/

/-- The index of a column of a table, under its name. -/
structure Index.IsOf (x : Index) (table column : String) : Prop where
  name : x.name = some (indexName table column)
  columns : x.columns.map KeyColumn.name = [column]

/-- Every index that is no constraint is that of a column, under the name of the table. -/
def Table.NamesIndexes (t : Table) : Prop :=
  ∀ x ∈ t.indexes, x.name = none ∨ ∃ column, x.IsOf t.name column

namespace Database

variable {db db' : Database} {e : Entity} {t : Table}

def NamesIndexes (db : Database) : Prop := ∀ t ∈ db.tables, t.NamesIndexes

/-- The index of a column of another table has the name that the index of a column would have. -/
def Shadows (db : Database) (table column : String) : Prop :=
  ∃ u ∈ db.tables, ∃ x ∈ u.indexes, ∃ other, x.IsOf u.name other ∧
    (Shifts table column u.name other ∨ Shifts u.name other table column)

/-- As long as a table is not there, an index with the name of one of its own is that of another
table. -/
theorem hasIndex_iff (named : db.NamesIndexes)
    (absent : ∀ t ∈ db.tables, Text.sameFold t.name table = false) :
    db.hasIndex (indexName table column) = true ↔ db.Shadows table column := by
  rw [hasIndex, indexNames, List.any_append,
    List.any_eq_false.mpr fun name mem => by simp [not_sameFold_engine table column name mem],
    Bool.false_or, List.any_eq_true]
  constructor
  · rintro ⟨name, mem, same⟩
    obtain ⟨u, hu, mem⟩ := List.mem_flatMap.mp mem
    obtain ⟨x, hx, own⟩ := List.mem_filterMap.mp mem
    rcases named u hu x hx with none | ⟨other, isOf⟩
    · rw [none] at own
      cases own
    · refine ⟨u, hu, x, hx, other, isOf, ?_⟩
      rw [← Option.some.inj (isOf.name.symm.trans own)] at same
      rcases sameFold_indexName.mp same with ⟨own, -⟩ | shifts
      · rw [Text.sameFold_comm, absent u hu] at own
        cases own
      · exact shifts
  · rintro ⟨u, hu, x, hx, other, isOf, shifts⟩
    refine ⟨indexName u.name other, List.mem_flatMap.mpr ⟨u, hu, List.mem_filterMap.mpr
      ⟨x, hx, isOf.name⟩⟩, sameFold_indexName.mpr (Or.inr shifts)⟩

/-! ### Indexes that are made -/

/-- Of a last table, the indexes that are there are those that were there and its own. -/
theorem hasIndex_last {tables : List Table} {further : List Index}
    (before : db.tables = tables ++ [t]) (after : db'.tables = tables ++ [t.indexed further])
    (name : String) : db'.hasIndex name =
      (db.hasIndex name || (further.filterMap Index.name).any (Text.sameFold name)) := by
  simp only [hasIndex, indexNames, before, after, Table.indexed, List.flatMap_append,
    List.flatMap_singleton, List.filterMap_append, List.any_append, Bool.or_assoc]

/-- Indexes that are asked for are added to the last table, but for those whose name is taken. -/
theorem addIndexes_free {statements : List IndexText} {tables : List Table} {t : Table}
    (apart : ∀ u ∈ tables, Text.sameFold u.name t.name = false)
    (own : ∀ x ∈ statements, x.table = t.name)
    (distinct : (statements.map fun x => Text.fold x.name).Nodup)
    (there : db.tables = tables ++ [t]) (h : statements.foldlM addIndex db = .ok db') :
    db'.tables = tables ++ [t.indexed
      ((statements.filter fun x => !db.hasIndex x.name).map t.columnIndex)] := by
  induction statements generalizing db t with
  | nil =>
    rw [← Except.ok.inj h, there, List.filter_nil, List.map_nil, Table.indexed_nil]
  | cons x statements ih =>
    rw [List.foldlM_cons] at h
    obtain ⟨d, step, h⟩ := bind_ok h
    rw [List.map_cons, List.nodup_cons] at distinct
    have now := addIndex_last apart (own x List.mem_cons_self) there step
    have rest := ih (t := t.indexed _) apart (fun y hy => own y (List.mem_cons_of_mem x hy))
      distinct.2 now h
    -- The names that are still asked for are free now if they were so before.
    have same : ∀ y ∈ statements, d.hasIndex y.name = db.hasIndex y.name := by
      intro y hy
      rw [hasIndex_last there now]
      split
      · simp
      · have other : Text.sameFold y.name x.name = false := by
          rw [Bool.eq_false_iff, ne_eq, Text.sameFold_iff]
          exact fun same => distinct.1 (List.mem_map.mpr ⟨y, hy, same⟩)
        simp [Table.columnIndex, other]
    rw [rest, Table.indexed_indexed, List.filter_congr fun y hy => by rw [same y hy],
      List.filter_cons]
    cases db.hasIndex x.name <;> rfl

/-- A table has no named indexes at first. -/
theorem hasIndex_tableOf (statement : TableText) (spec : TableSpec) (name : String) :
    ({ db with tables := db.tables ++ [tableOf statement spec] } : Database).hasIndex name =
      db.hasIndex name := by
  have unnamed : (tableOf statement spec).indexes.filterMap Index.name = [] :=
    List.filterMap_eq_nil_iff.mpr fun x hx => by
      obtain ⟨u, -, rfl⟩ := List.mem_map.mp hx
      rfl
  simp [hasIndex, indexNames, unnamed]

/-- The indexes that a definition asks for have names that are apart. -/
theorem distinct_indexTexts (distinct : (e.tableText.columns.map fun c => Text.fold c.name).Nodup) :
    (e.indexTexts.map fun x => Text.fold x.name).Nodup := by
  have names : (e.indexTexts.map fun x => Text.fold x.name) =
      ((e.fields.filter Field.isIndexed).map fun f => Text.fold f.name).map
        fun s => "idx_" ++ (Text.fold e.table ++ "_" ++ s) := by
    rw [Entity.indexTexts, List.map_map, List.map_map]
    exact List.map_congr_left fun f _ => fold_indexName e.table f.name
  have fields : (e.fields.map fun f => Text.fold f.name).Nodup := by
    refine distinct.sublist ?_
    rw [Entity.tableText, List.map_append, List.map_map]
    exact List.sublist_append_right _ _
  rw [names]
  refine (fields.sublist (List.filter_sublist.map _)).map fun s s' same => ?_
  exact (String.append_right_inj _).mp ((String.append_right_inj _).mp same)

/-- The table of a definition has the indexes of its constraints, and those of indexed fields whose
name is free. -/
theorem createTable_indexes (derived : e.HasDerivedTypes) (h : db.createTable e = .ok db') :
    (∀ t ∈ db.tables, Text.sameFold t.name e.table = false) ∧
      (e.tableText.columns.map fun c => Text.fold c.name).Nodup ∧
        ∃ t, db'.tables = db.tables ++ [t] ∧ t.name = e.table ∧
          t.indexes = e.tableText.uniques.map Table.constraintIndex ++
            (e.indexTexts.filter fun x => !db.hasIndex x.name).map t.columnIndex := by
  obtain ⟨-, d₁, d₂, added, carried, h⟩ := createTable_steps h
  obtain ⟨absent, spec, declared, rfl⟩ := addTable_ok added
  rw [Entity.further_tableText derived] at carried
  obtain rfl := Except.ok.inj carried
  obtain ⟨none, rfl⟩ := TableText.plainSpec_ok (Entity.spec_tableText derived declared)
  have distinct := (distinct_of_repeatedColumn? none).1
  rw [List.map_map] at distinct
  have apart := apart_of_hasTable absent
  have tables := addIndexes_free apart (t := tableOf e.tableText _)
    (fun _ => table_of_mem_indexTexts) (distinct_indexTexts distinct) rfl h
  simp only [hasIndex_tableOf] at tables
  exact ⟨apart, distinct, _, tables, rfl, rfl⟩

/-- A table that is made of a definition keeps the names of indexes apart from constraints. -/
theorem createTable_namesIndexes (named : db.NamesIndexes) (derived : e.HasDerivedTypes)
    (h : db.createTable e = .ok db') : db'.NamesIndexes := by
  obtain ⟨-, -, t, tables, name, indexes⟩ := createTable_indexes derived h
  intro u hu
  rw [tables] at hu
  rcases List.mem_append.mp hu with hu | hu
  · exact named u hu
  · obtain rfl := List.mem_singleton.mp hu
    intro x hx
    rw [indexes] at hx
    rcases List.mem_append.mp hx with hx | hx
    · obtain ⟨u, -, rfl⟩ := List.mem_map.mp hx
      exact Or.inl rfl
    · obtain ⟨statement, asked, rfl⟩ := List.mem_map.mp hx
      obtain ⟨f, -, -, rfl⟩ := mem_indexTexts.mp (List.mem_filter.mp asked).1
      exact Or.inr ⟨f.name, by rw [name]; rfl, rfl⟩

/-- The last table is found by its name if no other one has the name. -/
theorem table?_last {tables : List Table} (apart : ∀ u ∈ tables, Text.sameFold u.name t.name = false)
    (there : db.tables = tables ++ [t]) : db.table? t.name = some t := by
  have none : tables.find? (fun u => Text.sameFold u.name t.name) = none :=
    List.find?_eq_none.mpr fun u hu => by simp [apart u hu]
  rw [table?, there, List.find?_append, none, Option.none_or, List.find?_singleton,
    if_pos (Text.sameFold_refl _)]

/-- A table that is made of a definition has an index of nothing but an indexed field exactly if it
has a constraint of that field alone, or no index of another table has the name. -/
theorem createTable_indexed (named : db.NamesIndexes) (derived : e.HasDerivedTypes)
    (h : db.createTable e = .ok db') :
    ∃ t, db'.table? e.table = some t ∧ ∀ f ∈ e.fields, f.isIndexed = true →
      ((∃ x ∈ t.indexes, x.columns.map KeyColumn.name = [f.name]) ↔
        e.isUniqueAlone f = true ∨ ¬ db.Shadows e.table f.name) := by
  obtain ⟨absent, distinct, t, tables, name, indexes⟩ := createTable_indexes derived h
  have free (column : String) : (!db.hasIndex (indexName e.table column)) = true ↔
      ¬ db.Shadows e.table column := by
    rw [Bool.not_eq_true', ← Bool.not_eq_true, hasIndex_iff named absent]
  rw [← name] at absent
  refine ⟨t, name ▸ table?_last absent tables, fun f hf indexed => ⟨?_, ?_⟩⟩
  · rintro ⟨x, hx, columns⟩
    rw [indexes] at hx
    rcases List.mem_append.mp hx with hx | hx
    · obtain ⟨u, hu, rfl⟩ := List.mem_map.mp hx
      exact Or.inl ((Entity.exists_unique_iff derived distinct hf).mp ⟨u, hu, columns⟩)
    · obtain ⟨statement, asked, rfl⟩ := List.mem_map.mp hx
      obtain ⟨asks, unnamed⟩ := List.mem_filter.mp asked
      obtain ⟨f', -, -, rfl⟩ := mem_indexTexts.mp asks
      have own : f'.name = f.name := (List.cons.inj columns).1
      exact Or.inr ((free f.name).mp (own ▸ unnamed))
  · rintro (alone | unshadowed)
    · obtain ⟨u, hu, columns⟩ := (Entity.exists_unique_iff derived distinct hf).mpr alone
      refine ⟨Table.constraintIndex u, ?_, columns⟩
      rw [indexes]
      exact List.mem_append_left _ (List.mem_map_of_mem hu)
    · refine ⟨t.columnIndex (e.indexText f), ?_, rfl⟩
      rw [indexes]
      exact List.mem_append_right _ (List.mem_map_of_mem (List.mem_filter.mpr
        ⟨mem_indexTexts.mpr ⟨f, hf, indexed, rfl⟩, (free f.name).mpr unshadowed⟩))

end Database

end Store

end EntityEngine
