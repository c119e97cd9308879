import EntityEngine.Proofs.Store.OneRow
import EntityEngine.Proofs.Store.Stamps

/-! What the write of a row answers. A new row is read back by its number, in a statement of its
own, and so is a changed one. The answer is the row that was written as long as no column hides the
numbers of rows. -/

namespace EntityEngine.Store

open Sql

variable {db db' : Database} {t : Table} {m e : Entity} {key : String} {row next : Row}
  {data : ValueMap} {ambient : Ambient}

namespace Table

/-- A key of a definition names the row, and no other one of the table. -/
structure NamesOne (t : Table) (e : Entity) (key : String) (row : Row) : Prop where
  mem : row ∈ t.rows
  named : t.names e key row = true
  alone : ∀ s ∈ t.rows, t.names e key s = true → s = row

/-- The number of a new row is one that no row has. -/
theorem RowsMove.fresh {statement : Statement}
    (move : t.RowsMove statement (t.withRow row).rows)
    (once : (t.rows.map Row.number).Nodup) : row.number ∉ t.rows.map Row.number := by
  have apart : ((place row t.rows).map Row.number).Nodup := move.numbers once
  rw [((place_perm row t.rows).map Row.number).nodup_iff, List.map_cons, List.nodup_cons] at apart
  exact apart.1

/-- An update names fields and system columns, so it leaves the numbers of rows alone. -/
theorem IsBuiltFrom.changedNumber?_rowChanges (h : t.IsBuiltFrom m) (layout : m.layout = e.layout)
    (own : e.HasOwnNames) (serves : t.Serves e) (data : ValueMap) (ambient : Ambient) (row : Row) :
    t.changedNumber? (Database.rowChanges e data ambient) row = none := by
  cases kind : e.layout with
  | template =>
    exact (h.stamps_rowChanges (layout.trans kind) kind own serves.keepsNumbers data ambient
      ambient.now).1 row
  | native =>
    have noNumber (name : String) : t.isNumberColumn name = false := by
      rw [isNumberColumn, h.parts.2.2.1, Entity.numberColumn?_tableText h.derived,
        layout.trans kind]
      rfl
    rw [changedNumber?, List.find?_eq_none.mpr, Option.map_none]
    intro p hp
    obtain ⟨i, place⟩ := Option.isSome_iff_exists.mp
      (serves.changed data ambient p (List.mem_reverse.mp hp))
    simp only [resolve?, place, noNumber, Bool.false_eq_true, not_false_iff]

theorem number_of_changedRow {changes : List (String × Change)}
    (same : t.changedNumber? changes row = none) (changed : t.changedRow changes row = .ok next) :
    next.number = row.number := by
  simp only [changedRow, same] at changed
  exact (congrArg Row.number (Except.ok.inj changed)).symm

end Table

namespace Database

/-! ### New rows -/

/-- What comes of a new row: it is refused, and no table changes; or it stands beside the rows that
there were, under a number that none of them has, and is the answer. -/
inductive Inserts (db : Database) (e : Entity) (t : Table) (given : List (String × Value)) :
    Except EntityEngine.Fault ValueMap × Database → Prop
  | refused (f : Sql.Fault) (last : Int) :
      Inserts db e t given (.error (.database f), { db with lastInsert := last })
  | stored {row : Row} {db' : Database} (made : t.Makes given row)
      (fresh : row.number ∉ t.rows.map Row.number)
      (tables : db'.tables = (db.putTable (t.withRow row)).tables) :
      Inserts db e t given (.ok (t.shown e row), db')

/-- A new row that is stored is read back by its number. -/
theorem insertRow_stored (tidy : db.Tidy) (simple : db.IsSimple) (free : IsFree e.table)
    (there : db.table? e.table = some t) (data : ValueMap) (ambient : Ambient) :
    (∃ f last, db.insertRow e data ambient =
      (.error (.database f), { db with lastInsert := last })) ∨
    ∃ row db', t.Makes (newValues e data ambient) row ∧
      t.RowsMove (.insert (newValues e data ambient)) (t.withRow row).rows ∧
      db'.tables = (db.putTable (t.withRow row)).tables ∧
      db.insertRow e data ambient =
        ((rowOfNumber e (t.withRow row) row.number).mapError .database, db') := by
  have ht := (table?_some there).1
  unfold insertRow
  simp only
  split
  · rename_i f _
    exact Or.inl ⟨f, db.lastInsert, rfl⟩
  · rename_i t' i inserted
    obtain ⟨there', inserted⟩ := insertionInto_table tidy free.unkept inserted
    obtain rfl : t' = t := Option.some.inj (there'.symm.trans there)
    split
    · rename_i f _
      exact Or.inl ⟨f, _, rfl⟩
    · rename_i d stored
      obtain ⟨write, s, settled, number, tables⟩ :=
        afterInsertion_ok tidy simple (tidy.table?_of_mem ht) inserted stored
      obtain ⟨values, given, settled', move⟩ := Table.insertion_ok (simple t' ht) inserted
      have made : s.row = ⟨i.number, t'.numbered i.number values⟩ := by
        rw [Option.some.inj (settled.symm.trans settled')]
      have now : d.table? e.table = some (t'.withRow s.row) := by
        rw [table?, tables]
        exact table?_putTable (u := t'.withRow s.row) there rfl
      rw [← made] at move
      refine Or.inr ⟨s.row, d, ⟨_, _, values, made, given⟩, move, tables, ?_⟩
      rw [(needTable_iff ((write.frame tidy).tidy tidy) free).mpr now, number]

/-- A new row is refused or is the answer, unless a column hides the numbers of rows. -/
theorem inserts_of_plain (tidy : db.Tidy) (simple : db.IsSimple) (free : IsFree e.table)
    (there : db.table? e.table = some t) (orderly : t.IsOrderly)
    (once : (t.rows.map Row.number).Nodup) (plain : t.hasColumn "rowid" = false) (data : ValueMap)
    (ambient : Ambient) :
    db.Inserts e t (newValues e data ambient) (db.insertRow e data ambient) := by
  rcases insertRow_stored tidy simple free there data ambient with
    ⟨f, last, refused⟩ | ⟨row, db', made, move, tables, answer⟩
  · rw [refused]
    exact .refused f last
  · have stored : row ∈ (t.withRow row).rows := Table.mem_place.mpr (Or.inl rfl)
    have shown : rowOfNumber e (t.withRow row) row.number = .ok (t.shown e row) :=
      rowOfNumber_eq (t := t.withRow row) plain (move.orderly orderly) stored
    rw [answer, shown]
    exact .stored made (move.fresh once) tables

/-! ### Changed rows -/

/-- What comes of an update under a key. If the key names no row, there is none to update. If it
names one, the update changes nothing and the row is read; or what it makes of the row is refused; or
that is put in the place of the row, under its number, and is the answer. -/
inductive Updates (db : Database) (e : Entity) (t : Table) (key : String)
    (changes : List (String × Table.Change)) (setting : Setting) :
    Except EntityEngine.Fault (ValueMap × Database) → Prop
  | missing (none : ∀ r ∈ t.rows, t.names e key r = false) :
      Updates db e t key changes setting (.error (.recordNotFound (.key key)))
  | read {row : Row} (one : t.NamesOne e key row) (idle : changes = []) :
      Updates db e t key changes setting (.ok (t.shown e row, db))
  | refused {row : Row} (one : t.NamesOne e key row) {f : Sql.Fault}
      (refused : t.replacement setting changes row = .error f) :
      Updates db e t key changes setting (.error (.database f))
  | changed {row next : Row} (one : t.NamesOne e key row)
      (replaced : t.replacement setting changes row = .ok next)
      (number : next.number = row.number) :
      Updates db e t key changes setting
        (.ok (t.shown e next, db.putTable (t.storing next (some row))))

/-- A change of the rows of conditions that none meets finds no row. -/
theorem changeRows_none {conditions : List Condition} {changes : List (String × Table.Change)}
    (tidy : db.Tidy) (simple : db.IsSimple) (free : IsFree e.table)
    (there : db.table? e.table = some t)
    (known : ∀ name ∈ changes.map Prod.fst, t.hasColumn name = true)
    (none : matching conditions t.reader t.rows = []) :
    db.changeRows e changes conditions ambient = .ok .none := by
  have ht := (table?_some there).1
  have unkept : IsUnkept t.name := tidy.free t ht
  rw [changeRows, needTarget_of_table tidy free.unkept there]
  simp only [bind, Except.bind, Table.changeFault?_simple (simple t ht) known,
    Table.extentFaults_simple (simple t ht), updateFaults_simple simple ht unkept, List.append_nil,
    toldFault?, List.foldl_nil, Table.numbersOf, none, List.map_nil, changeNumbered,
    keepsReferences_simple simple unkept, Bool.not_true, Bool.false_eq_true, if_false]
  rfl

/-- An update under a key that names no row finds none. -/
theorem updateRow_missing (tidy : db.Tidy) (simple : db.IsSimple) (free : IsFree e.table)
    (there : db.table? e.table = some t) (serves : t.Serves e)
    (none : ∀ r ∈ t.rows, t.names e key r = false) (data : ValueMap) (ambient : Ambient) :
    db.updateRow e key data ambient = .error (.recordNotFound (.key key)) := by
  cases meant : keyConditions? e key with
  | none => simp only [updateRow, meant]
  | some conditions =>
    have unmet : ∀ r ∈ t.rows, (t.reader r).satisfiesAll conditions = false := by
      intro r hr
      have other := none r hr
      rwa [Table.names, meant] at other
    cases changes : rowChanges e data ambient with
    | nil =>
      have found : (t.select e.columns conditions []).head? = .none := by
        rw [List.head?_eq_none_iff, List.eq_nil_iff_forall_not_mem]
        intro r mem
        obtain ⟨hr, met⟩ := Table.mem_select.mp mem
        rw [unmet r hr] at met
        cases met
      have absent : db.getRow e key = .ok .none := by
        simp only [getRow, meant, (needTable_iff tidy free).mpr there, found, Option.map_none]
      simp only [updateRow, meant, changes, absent]
    | cons change others =>
      have known : ∀ name ∈ (change :: others).map Prod.fst, t.hasColumn name = true := by
        intro name mem
        rw [← changes] at mem
        obtain ⟨p, hp, rfl⟩ := List.mem_map.mp mem
        exact serves.changed data ambient p hp
      have empty : matching conditions t.reader t.rows = [] :=
        List.filter_eq_nil_iff.mpr fun r hr => by simp [unmet r hr]
      simp only [updateRow, meant, changes,
        changeRows_none tidy simple free there known empty]

/-- An update under a key that names one row at most is refused or gives the row as it is then,
unless a column hides the numbers of rows. -/
theorem updates_of_plain (tidy : db.Tidy) (simple : db.IsSimple) (free : IsFree e.table)
    (there : db.table? e.table = some t) (orderly : t.IsOrderly)
    (once : (t.rows.map Row.number).Nodup) (built : t.IsBuiltFrom m) (layout : m.layout = e.layout)
    (own : e.HasOwnNames) (serves : t.Serves e) (plain : t.hasColumn "rowid" = false)
    (keyed : ∀ r ∈ t.rows, ∀ s ∈ t.rows, t.names e key r = true → t.names e key s = true → r = s)
    (data : ValueMap) (ambient : Ambient) :
    db.Updates e t key (rowChanges e data ambient) (db.context ambient)
      (db.updateRow e key data ambient) := by
  by_cases any : ∃ row ∈ t.rows, t.names e key row = true
  · obtain ⟨row, hr, named⟩ := any
    have one : t.NamesOne e key row := ⟨hr, named, fun s hs own => keyed s hs row hr own named⟩
    have addressed := addresses_of_names tidy simple free there orderly once serves hr named one.alone
    by_cases idle : rowChanges e data ambient = []
    · rw [addressed.idle data ambient idle]
      exact .read one idle
    · cases replaced : t.replacement (db.context ambient) (rowChanges e data ambient) row with
      | error f =>
        rw [addressed.refused data ambient f idle replaced]
        exact .refused one replaced
      | ok next =>
        have ht := (table?_some there).1
        have number := Table.number_of_changedRow
          (built.changedNumber?_rowChanges layout own serves data ambient row)
          (Table.replacement_ok (simple t ht) hr replaced).1
        rw [addressed.updated plain data ambient next idle replaced]
        exact .changed one replaced number
  · have none : ∀ r ∈ t.rows, t.names e key r = false := fun r hr =>
      Bool.eq_false_iff.mpr fun named => any ⟨r, hr, named⟩
    rw [updateRow_missing tidy simple free there serves none]
    exact .missing none

end Database

end EntityEngine.Store
