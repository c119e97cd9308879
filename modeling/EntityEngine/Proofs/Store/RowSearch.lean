import EntityEngine.Proofs.Store.BuiltTable
import EntityEngine.Proofs.Store.Documents

/-! Rows in the tables of definitions: which of them lists show, and which of them a key finds. A
new row is among them, and in a template its record identifier finds it and no other row. -/

namespace EntityEngine

open Sql Store

/-- Conditions without a pattern can always be looked at. -/
theorem Sql.matchFault?_none {α : Type} {conditions : List Condition} {read : α → Reader}
    {rows : List α} (short : ∀ c ∈ conditions, c.isTooLong = false) :
    matchFault? conditions read rows = none := by
  have none : conditions.findIdx? Condition.isTooLong = Option.none :=
    List.findIdx?_eq_none_iff.mpr short
  rw [matchFault?, none]

namespace Store

variable {t : Table} {row : Row} {e e' : Entity} {key : String} {db : Database}

namespace Table

/-- Whatever way leads to the rows, it leads to all of them. -/
theorem visited_perm (t : Table) (shown : List String) (conditions : List Condition)
    (order : List OrderTerm) : (t.visited shown conditions order).Perm t.rows := by
  have sorted : ∀ x, (t.inIndexOrder x).Perm t.rows := fun x => List.mergeSort_perm _ _
  unfold visited
  simp only
  cases (t.path (t.searchFor shown conditions order)).1.index with
  | none =>
    split
    · exact List.reverse_perm _
    · exact .refl _
  | some x =>
    split
    · exact (List.reverse_perm _).trans (sorted x)
    · exact sorted x

theorem mem_select {shown : List String} {conditions : List Condition} {order : List OrderTerm} :
    row ∈ t.select shown conditions order ↔
      row ∈ t.rows ∧ (t.reader row).satisfiesAll conditions = true := by
  rw [select, mem_sortRows, matching, List.mem_filter, (visited_perm _ _ _ _).mem_iff]

theorem length_select (t : Table) (shown : List String) (conditions : List Condition)
    (order : List OrderTerm) : (t.select shown conditions order).length = t.count conditions := by
  rw [select, sortRows, List.length_mergeSort, count]
  exact ((visited_perm _ _ _ _).filter _).length_eq

/-- A row as a definition shows it. -/
def shown (t : Table) (e : Entity) (row : Row) : ValueMap := withKey e (shownRow e (t.reader row))

/-- The row is one that a key of the definition names. -/
def Meets (t : Table) (e : Entity) (key : String) (row : Row) : Prop :=
  row ∈ t.rows ∧ ∃ conditions, keyConditions? e key = some conditions ∧
    (t.reader row).satisfiesAll conditions = true

end Table

/-! ### What a row shows -/

theorem get?_ofEntries_map (f : String → Json) (names : List String) (name : String) :
    (ValueMap.ofEntries (names.map fun c => (c, f c))).get? name =
      if name ∈ names then some (f name) else none := by
  have each : ∀ m : ValueMap, ((names.map fun c => (c, f c)).foldl
      (fun m entry => ValueMap.insert entry.1 entry.2 m) m).get? name =
        if name ∈ names then some (f name) else m.get? name := by
    induction names with
    | nil => exact fun m => rfl
    | cons c names ih =>
      intro m
      rw [List.map_cons, List.foldl_cons, ih]
      by_cases own : name = c
      · rw [own]
        simp [ValueMap.get?_insert_self]
      · simp [own, ValueMap.get?_insert_of_ne]
  exact each []

/-- A row has a value under each of its columns, and under no other name. -/
theorem get?_shownRow (e : Entity) (read : Reader) (name : String) : (shownRow e read).get? name =
    if name ∈ e.columns then
      some (shownValue ((e.field? name).map Field.type) (read (.column name)).value)
    else none := by
  rw [shownRow, shownColumns, List.map_map]
  exact get?_ofEntries_map
    (fun c => shownValue ((e.field? c).map Field.type) (read (.column c)).value) e.columns name

/-- A row with a column `id` shows each of its columns, by the type of the field that has the
name. -/
theorem Table.get?_shown_of_id (first : "id" ∈ e.columns) {name : String}
    (mem : name ∈ e.columns) : (t.shown e row).get? name =
      some (shownValue ((e.field? name).map Field.type) (t.reader row (.column name)).value) := by
  have contained : (shownRow e (t.reader row)).contains "id" = true := by
    rw [ValueMap.contains, get?_shownRow, if_pos first]
    rfl
  rw [shown, withKey, contained, if_pos rfl, get?_shownRow, if_pos mem]

theorem mem_columns_of_system (template : e.layout = .template) {name : String}
    (system : name ∈ systemColumns) : name ∈ e.columns := by
  rw [Entity.columns, template]
  exact List.mem_append_left _ system

/-- A template has such a column. -/
theorem Table.get?_shown (template : e.layout = .template) {name : String}
    (mem : name ∈ e.columns) : (t.shown e row).get? name =
      some (shownValue ((e.field? name).map Field.type) (t.reader row (.column name)).value) :=
  get?_shown_of_id (mem_columns_of_system template (by decide)) mem

/-- A row of a template shows its record identifier, unless a field has taken that name. -/
theorem Table.get?_recordId (template : e.layout = .template)
    (free : e.field? "record_id" = none)
    (value : (t.reader row (.column "record_id")).value = .text key) :
    (t.shown e row).get? "record_id" = some (.text key) := by
  have mem : "record_id" ∈ e.columns := mem_columns_of_system template (by decide)
  rw [get?_shown template mem, free, value]
  rfl

/-! ### Lists -/

theorem queryRows_ok {o : QueryOptions} {plan : Selection}
    (planned : Query.overTable e o = .ok plan) (there : db.needTable e.table = .ok t)
    (short : ∀ c ∈ plan.conditions, c.isTooLong = false) :
    ∃ page, db.queryRows e o = .ok page ∧ page.items = (slice plan.limit.toNat plan.offset.toNat
      (t.select e.columns plan.conditions plan.order)).map (t.shown e) := by
  simp only [Database.queryRows, planned, Except.mapError, bind, Except.bind, there,
    Table.matchFault?, matchFault?_none short]
  exact ⟨_, rfl, rfl⟩

/-- A first page without a filter that has room for all rows shows all of them. -/
theorem queryRows_whole {o : QueryOptions} (all : o.filter = none) (first : o.offset = .ok 0)
    (large : t.rows.length ≤ o.top) (there : db.needTable e.table = .ok t) :
    ∃ page, db.queryRows e o = .ok page ∧ ∀ row ∈ t.rows, t.shown e row ∈ page.items := by
  obtain ⟨plan, planned, conditions, limit, offset⟩ : ∃ plan, Query.overTable e o = .ok plan ∧
      plan.conditions = [] ∧ plan.limit.toNat = o.top ∧ plan.offset.toNat = 0 := by
    refine ⟨_, by rw [Query.overTable, first]; rfl, ?_, rfl, rfl⟩
    simp only [all, Option.bind_none, Option.toList_none]
  obtain ⟨page, answered, items⟩ := queryRows_ok planned there fun c hc => by
    rw [conditions] at hc
    cases hc
  refine ⟨page, answered, fun row hr => ?_⟩
  have few : (t.select e.columns plan.conditions plan.order).length ≤ o.top := by
    rw [Table.select, sortRows, List.length_mergeSort]
    refine Nat.le_trans (List.length_filter_le _ _) ?_
    rw [(t.visited_perm _ _ _).length_eq]
    exact large
  rw [items, limit, offset, slice, List.drop_zero, List.take_of_length_le few]
  exact List.mem_map_of_mem (Table.mem_select.mpr ⟨hr, by rw [conditions]; rfl⟩)

/-- What is shown is a row of the table of a definition. -/
def Database.IsRowOf (db : Database) (e : Entity) (item : ValueMap) : Prop :=
  ∃ t ∈ db.tables, Text.sameFold t.name e.table = true ∧ ∃ row ∈ t.rows, item = t.shown e row

/-- A query shows rows of the table that statements read. -/
theorem Database.items_queryRows {o : QueryOptions} {page : Page ValueMap}
    (h : db.queryRows e o = .ok page) :
    ∃ t, db.needTable e.table = .ok t ∧
      ∃ rows, rows ⊆ t.rows ∧ page.items = rows.map (t.shown e) := by
  obtain ⟨plan, -, h⟩ := bind_ok h
  obtain ⟨t, needed, h⟩ := bind_ok h
  simp only at h
  split at h
  · cases h
  · refine ⟨t, mapError_ok needed, slice plan.limit.toNat plan.offset.toNat
      (t.select e.columns plan.conditions plan.order), fun row selected => ?_, ?_⟩
    · exact (Table.mem_select.mp (List.mem_of_mem_drop (List.mem_of_mem_take selected))).1
    · rw [← Except.ok.inj h]
      rfl

/-- Queries show rows of the table, and nothing else. -/
theorem Database.mem_queryRows {o : QueryOptions} {page : Page ValueMap} {item : ValueMap}
    (tidy : db.Tidy) (free : IsFree e.table) (h : db.queryRows e o = .ok page)
    (hi : item ∈ page.items) : db.IsRowOf e item := by
  obtain ⟨t, needed, rows, stored, items⟩ := items_queryRows h
  obtain ⟨ht, same⟩ := table?_some ((needTable_iff tidy free).mp needed)
  rw [items] at hi
  obtain ⟨row, hr, rfl⟩ := List.mem_map.mp hi
  exact ⟨t, ht, same, row, stored hr, rfl⟩

/-! ### Keys -/

/-- What a key names in a native table depends on the names of the key fields alone. -/
theorem keyConditions?_congr (layout : e'.layout = e.layout)
    (keys : e.layout = .native → e'.keys.map Field.name = e.keys.map Field.name) (key : String) :
    keyConditions? e' key = keyConditions? e key := by
  unfold keyConditions?
  rw [layout]
  cases native : e.layout with
  | template => rfl
  | native =>
    replace keys := keys native
    have lengths : e'.keys.length = e.keys.length := by simpa using congrArg List.length keys
    rcases h : e.keys with - | ⟨f, - | ⟨g, fs⟩⟩ <;>
      rcases h' : e'.keys with - | ⟨f', - | ⟨g', fs'⟩⟩ <;>
      rw [h, h'] at keys lengths <;> simp_all

theorem keyConditions?_template (template : e.layout = .template) (key : String) :
    keyConditions? e key = some [.compare (.column "record_id") .eq (.text key)] := by
  simp only [keyConditions?, template]

namespace Table

theorem meets_congr (layout : e'.layout = e.layout)
    (keys : e.layout = .native → e'.keys.map Field.name = e.keys.map Field.name) :
    t.Meets e' key row ↔ t.Meets e key row := by
  rw [Meets, Meets, keyConditions?_congr layout keys]

theorem getRow_of_meets (there : db.needTable e.table = .ok t) (meets : t.Meets e key row) :
    ∃ found, t.Meets e key found ∧ db.getRow e key = .ok (some (t.shown e found)) := by
  obtain ⟨hr, conditions, named, satisfied⟩ := meets
  simp only [Database.getRow, named, there]
  cases selected : t.select e.columns conditions [] with
  | nil =>
    have mem : row ∈ t.select e.columns conditions [] := mem_select.mpr ⟨hr, satisfied⟩
    rw [selected] at mem
    cases mem
  | cons found others =>
    have mem : found ∈ t.select e.columns conditions [] := by
      rw [selected]
      exact List.mem_cons_self
    obtain ⟨hf, satisfied⟩ := mem_select.mp mem
    exact ⟨found, ⟨hf, conditions, named, satisfied⟩, rfl⟩

/-- The rows that a record identifier of a template is looked for by. -/
theorem IsBuiltFrom.satisfies_recordId {m : Entity} (h : t.IsBuiltFrom m) (orderly : t.IsOrderly)
    (template : m.layout = .template) (hr : row ∈ t.rows) :
    (t.reader row).satisfiesAll [.compare (.column "record_id") .eq (.text key)] = true ↔
      (t.reader row (.column "record_id")).value = .text key := by
  obtain ⟨rest, columns⟩ := h.columns_template template
  have noNumber : (valueAt row 1).size? = none := by
    unfold valueAt
    cases stored : row.values[1]? with
    | none => rfl
    | some v =>
      exact orderly.filed row hr 1 recordIdColumn v (by rw [columns]; rfl) stored
        recordIdColumn_affinity
  have read := h.reader_recordId template row
  rw [Reader.satisfiesAll, List.all_cons, List.all_nil, Bool.and_true, Condition.holds, read]
  exact compares_textColumn (r := ⟨valueAt row 1, .text, .bytes⟩) noNumber rfl rfl

/-- A record identifier of a template names the one row that has it. -/
theorem IsBuiltFrom.meets_iff {m : Entity} (h : t.IsBuiltFrom m) (orderly : t.IsOrderly)
    (same : m.layout = e.layout) (template : e.layout = .template) (hr : row ∈ t.rows)
    (value : (t.reader row (.column "record_id")).value = .text key) {other : Row} :
    t.Meets e key other ↔ other = row := by
  have named := keyConditions?_template template key
  have ofTemplate := same.trans template
  constructor
  · rintro ⟨ho, conditions, named', meets⟩
    rw [named] at named'
    obtain rfl := Option.some.inj named'
    exact h.eq_of_recordId ofTemplate orderly ho hr
      ((h.satisfies_recordId orderly ofTemplate ho).mp meets) value
  · rintro rfl
    exact ⟨hr, _, named, (h.satisfies_recordId orderly ofTemplate hr).mpr value⟩

end Table

/-! ### New rows -/

/-- A row shows its number, unless a column hides the numbers of rows. -/
theorem Table.reader_number (plain : t.hasColumn "rowid" = false) (row : Row) :
    t.reader row (.plain "rowid") = { value := .integer row.number, affinity := .integer } := by
  have place : t.place? "rowid" = none := by simpa [hasColumn] using plain
  have number : isRowNumberName "rowid" = true := by decide
  simp [reader, reading?, resolve?, place, number]

/-- So it is found by its number. -/
theorem Table.satisfies_number (plain : t.hasColumn "rowid" = false) {n : Int} :
    (t.reader row).satisfiesAll [numberCondition n] = true ↔ row.number = n := by
  rw [Reader.satisfiesAll, List.all_cons, List.all_nil, Bool.and_true, numberCondition,
    Condition.holds, reader_number plain]
  exact compares_integer rfl rfl

/-- A new row has what its columns make of the values that are given for them. -/
def Table.Makes (t : Table) (given : List (String × Value)) (new : Row) : Prop :=
  ∃ context number values, new = ⟨number, t.numbered number values⟩ ∧
    t.columns.mapM (fun c =>
      if t.isNumberColumn c.name then pure .null else newValue context given c) = .ok values

namespace Database

variable {db' : Database}

theorem table?_putTable {u : Table} {name : String} (there : db.table? name = some t)
    (same : u.name = t.name) : (db.putTable u).table? name = some u := by
  have found := (table?_some there).2
  rw [Text.sameFold_iff] at found
  have named : (fun v => Text.sameFold v.name name) ∘
      (fun v => if Text.sameFold v.name u.name then u else v) =
        fun v => Text.sameFold v.name name := by
    funext v
    simp only [Function.comp]
    split
    · rename_i own
      rw [Text.sameFold_iff] at own
      rw [Bool.eq_iff_iff, Text.sameFold_iff, Text.sameFold_iff, own]
    · rfl
  rw [table?, putTable, List.find?_map, named]
  rw [table?] at there
  rw [there, Option.map_some, same, if_pos (Text.sameFold_refl _)]

/-- A new row stands in the table, in a template with the record identifier that was made for it.
What is reported is a row that stands there, and it is the new one unless a column hides the numbers
of rows. -/
theorem insertRow_ok {m : Entity} {data : ValueMap} {ambient : Ambient} {found : ValueMap}
    (tidy : db.Tidy) (built : db.IsBuilt) (free : IsFree e.table)
    (there : db.table? e.table = some t) (own : t.IsBuiltFrom m) (same : m.layout = e.layout)
    (h : db.insertRow e data ambient = (.ok found, db')) :
    ∃ u, db'.table? e.table = some u ∧ u.bare = t.bare ∧ u.IsOrderly ∧ ∃ new ∈ u.rows,
      t.Makes (newValues e data ambient) new ∧ ∃ row ∈ u.rows,
      found = u.shown e row ∧ (u.hasColumn "rowid" = false → row = new) ∧
      (e.layout = .template →
        (u.reader new (.column "record_id")).value = .text ambient.recordId) := by
  unfold insertRow at h
  simp only at h
  split at h
  · cases h
  · rename_i t' i inserted
    obtain ⟨there', inserted⟩ := insertionInto_table tidy free.unkept inserted
    obtain rfl : t' = t := Option.some.inj (there'.symm.trans there)
    split at h
    · cases h
    · rename_i d stored
      have place := tidy.table?_of_mem (table?_some there).1
      obtain ⟨write, s, settled, number, tables⟩ :=
        afterInsertion_ok tidy built.simple place inserted stored
      have now : d.table? e.table = some (t'.withRow s.row) := by
        rw [table?, tables]
        exact table?_putTable (u := t'.withRow s.row) there rfl
      have orderly := ((built.write tidy write) _ (table?_some now).1).1
      have new : s.row ∈ (t'.withRow s.row).rows := Table.mem_place.mpr (Or.inl rfl)
      rw [(needTable_iff ((write.frame tidy).tidy tidy) free).mpr now] at h
      obtain ⟨reported, rfl⟩ := Prod.mk.inj h
      have reported := mapError_ok reported
      unfold rowOfNumber at reported
      split at reported
      · cases reported
      · rename_i row others selected
        have mem : row ∈ (t'.withRow s.row).select e.columns [numberCondition d.lastInsert] [] := by
          rw [selected]
          exact List.mem_cons_self
        obtain ⟨hr, meant⟩ := Table.mem_select.mp mem
        obtain ⟨values, given, settled', -⟩ :=
          Table.insertion_ok (built.simple t' (table?_some there).1) inserted
        have made : s.row = ⟨i.number, t'.numbered i.number values⟩ := by
          rw [Option.some.inj (settled.symm.trans settled')]
        refine ⟨_, now, rfl, orderly, s.row, new, ⟨_, _, values, made, given⟩, row, hr,
          (Except.ok.inj reported).symm, fun plain => ?_, fun template => ?_⟩
        · refine orderly.eq_of_number hr new ?_
          rw [number]
          exact (Table.satisfies_number plain).mp meant
        · rw [newValues, template] at inserted
          obtain ⟨s', settled', value⟩ := own.insertion_recordId (same.trans template) inserted
          obtain rfl := Option.some.inj (settled'.symm.trans settled)
          exact value

end Database

end Store

end EntityEngine
