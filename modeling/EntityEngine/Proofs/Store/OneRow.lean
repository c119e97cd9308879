import EntityEngine.Proofs.Store.RowKeys

/-! What is done under a key that names one row of a definition's table. The row is read, a deletion
removes it, and an update puts another row in its place, if the constraints of the table let it. -/

namespace EntityEngine.Store

open Sql

variable {db db' : Database} {t : Table} {m e : Entity} {key : String} {row : Row}
  {ambient : Ambient}

namespace Table

theorem resolve?_of_hasColumn {name : String} (there : t.hasColumn name = true) :
    (t.resolve? name).isSome = true := by
  obtain ⟨i, place⟩ := Option.isSome_iff_exists.mp there
  rw [resolve?, place]
  rfl

/-- Columns that the table has can be changed, for none of them follows from others. -/
theorem changeFault?_simple (simple : t.IsSimple) {names : List String}
    (there : ∀ name ∈ names, t.hasColumn name = true) : t.changeFault? names = none := by
  refine List.findSome?_eq_none_iff.mpr fun name mem => ?_
  have own : t.isDerived name = false := by
    unfold isDerived
    cases found : t.column? name with
    | none => rfl
    | some c =>
      rw [Option.any_some, (simple.plain c (List.mem_of_find?_eq_some found)).1]
      rfl
  have known : (t.resolve? name).isNone = false := by
    rw [← Option.not_isSome, resolve?_of_hasColumn (there name mem)]
    rfl
  simp only [known, own, Bool.false_eq_true, if_false]

/-- Where a key names one row, the table without the rows that it names is that without the row. -/
theorem withoutNamed_one (orderly : t.IsOrderly) (hr : row ∈ t.rows)
    (named : t.names e key row = true) (alone : ∀ s ∈ t.rows, t.names e key s = true → s = row) :
    t.withoutNamed e key = t.withoutRow row.number := by
  have same : ∀ s ∈ t.rows, (!t.names e key s) = decide (s.number ≠ row.number) := by
    intro s hs
    rw [Bool.eq_iff_iff, Bool.not_eq_true', decide_eq_true_eq, ← Bool.not_eq_true, not_iff_not]
    constructor
    · intro own
      rw [alone s hs own]
    · intro number
      rwa [orderly.eq_of_number hs hr number]
  rw [withoutNamed, withoutRow, List.filter_congr same]

end Table

namespace Database

theorem shownNumber_eq (plain : t.hasColumn "rowid" = false) (row : Row) :
    shownNumber t row = .ok row.number := by
  rw [shownNumber, Table.reader_number plain]

/-- The row of a number is the one that is shown for it. -/
theorem rowOfNumber_eq (plain : t.hasColumn "rowid" = false) (orderly : t.IsOrderly)
    (hr : row ∈ t.rows) : rowOfNumber e t row.number = .ok (t.shown e row) := by
  have met : row ∈ t.select e.columns [numberCondition row.number] [] :=
    Table.mem_select.mpr ⟨hr, (Table.satisfies_number plain).mpr rfl⟩
  unfold rowOfNumber
  cases selected : t.select e.columns [numberCondition row.number] [] with
  | nil =>
    rw [selected] at met
    cases met
  | cons first others =>
    have mem : first ∈ t.select e.columns [numberCondition row.number] [] := by
      rw [selected]
      exact List.mem_cons_self
    obtain ⟨hf, own⟩ := Table.mem_select.mp mem
    rw [orderly.eq_of_number hf hr ((Table.satisfies_number plain).mp own)]
    rfl

/-- An update that meets one row puts its replacement in its place. -/
theorem changeRows_one {conditions : List Condition} {changes : List (String × Table.Change)}
    (tidy : db.Tidy) (simple : db.IsSimple) (free : IsFree e.table)
    (there : db.table? e.table = some t) (orderly : t.IsOrderly) (hr : row ∈ t.rows)
    (known : ∀ name ∈ changes.map Prod.fst, t.hasColumn name = true)
    (only : matching conditions t.reader t.rows = [row]) :
    db.changeRows e changes conditions ambient = (do
      let next ← t.replacement (db.context ambient) changes row
      let number ← shownNumber t next
      let shown ← rowOfNumber e (t.storing next (some row)) number
      return some (shown, db.putTable (t.storing next (some row)))) := by
  have ht := (table?_some there).1
  have unkept : IsUnkept t.name := tidy.free t ht
  have place := tidy.table?_of_mem ht
  have numbers : t.numbersOf conditions = [row.number] := by
    rw [Table.numbersOf, only]
    rfl
  rw [changeRows, needTarget_of_table tidy free.unkept there]
  simp only [bind, Except.bind, Table.changeFault?_simple (simple t ht) known,
    Table.extentFaults_simple (simple t ht), updateFaults_simple simple ht unkept, List.append_nil,
    toldFault?, List.foldl_nil, numbers, changeNumbered_one tidy simple orderly place hr]
  cases replaced : t.replacement (db.context ambient) changes row with
  | error f => rfl
  | ok next =>
    have move := (Table.replacement_ok (simple t ht) hr replaced).2
    have write : RowWrite t.name (.update changes) db (db.putTable (t.storing next (some row))) :=
      .one (t := t) place move
    have now := table?_putTable (u := t.storing next (some row)) place rfl
    simp only [Except.map, keepsReferences_simple (write.simple tidy simple) unkept, Bool.not_true,
      Bool.false_eq_true, if_false, current_of_table? now]

/-- An update under a key that changes something gives the row that the change of the rows gives. -/
theorem updateRow_iff {conditions : List Condition} {data : ValueMap}
    {found : ValueMap × Database} (meant : keyConditions? e key = some conditions)
    (some : rowChanges e data ambient ≠ []) :
    db.updateRow e key data ambient = .ok found ↔
      db.changeRows e (rowChanges e data ambient) conditions ambient = .ok (.some found) := by
  simp only [updateRow, meant]
  cases db.changeRows e (rowChanges e data ambient) conditions ambient with
  | error f => simp
  | ok answer => cases answer <;> simp

theorem updateRow_error_iff {conditions : List Condition} {data : ValueMap} {f : Sql.Fault}
    (meant : keyConditions? e key = some conditions) (some : rowChanges e data ambient ≠ []) :
    db.updateRow e key data ambient = .error (.database f) ↔
      db.changeRows e (rowChanges e data ambient) conditions ambient = .error f := by
  simp only [updateRow, meant]
  cases db.changeRows e (rowChanges e data ambient) conditions ambient with
  | error g => simp [EntityEngine.Fault.database]
  | ok answer => cases answer <;> simp [EntityEngine.Fault.database]

/-- What is done under a key is done to one row. It is the row that is read and the row that a
deletion removes, and an update puts another row in its place, as far as the constraints of the table
let it. An update does not show its row if a column hides the numbers of rows. -/
structure Addresses (db : Database) (e : Entity) (t : Table) (key : String) (row : Row) : Prop where
  read : db.getRow e key = .ok (some (t.shown e row))
  removed : db.deleteRow e key = .ok (db.putTable (t.withoutRow row.number))
  idle : ∀ data ambient, rowChanges e data ambient = [] →
    db.updateRow e key data ambient = .ok (t.shown e row, db)
  refused : ∀ data ambient f, rowChanges e data ambient ≠ [] →
    t.replacement (db.context ambient) (rowChanges e data ambient) row = .error f →
      db.updateRow e key data ambient = .error (.database f)
  replaced : ∀ data ambient shown db', rowChanges e data ambient ≠ [] →
    db.updateRow e key data ambient = .ok (shown, db') →
      ∃ next, t.replacement (db.context ambient) (rowChanges e data ambient) row = .ok next ∧
        db' = db.putTable (t.storing next (some row))
  updated : t.hasColumn "rowid" = false → ∀ data ambient next, rowChanges e data ambient ≠ [] →
    t.replacement (db.context ambient) (rowChanges e data ambient) row = .ok next →
      db.updateRow e key data ambient =
        .ok (t.shown e next, db.putTable (t.storing next (some row)))

/-- An update under a key that names one row alone puts its replacement in its place. -/
theorem changeRows_named (tidy : db.Tidy) (simple : db.IsSimple) (free : IsFree e.table)
    (there : db.table? e.table = some t) (orderly : t.IsOrderly)
    (once : (t.rows.map Row.number).Nodup) (serves : t.Serves e) (hr : row ∈ t.rows)
    (named : t.names e key row = true) (alone : ∀ s ∈ t.rows, t.names e key s = true → s = row) :
    ∃ conditions, keyConditions? e key = some conditions ∧ ∀ data ambient,
      db.changeRows e (rowChanges e data ambient) conditions ambient = (do
        let next ← t.replacement (db.context ambient) (rowChanges e data ambient) row
        let number ← shownNumber t next
        let shown ← rowOfNumber e (t.storing next (some row)) number
        return some (shown, db.putTable (t.storing next (some row)))) := by
  obtain ⟨conditions, meant, met⟩ := (Option.any_eq_true _ _).mp named
  have same : ∀ s, t.names e key s = (t.reader s).satisfiesAll conditions := by
    intro s
    rw [Table.names, meant]
    rfl
  have only : matching conditions t.reader t.rows = [row] := by
    have apart : (matching conditions t.reader t.rows).Nodup := (List.Nodup.of_map _ once).filter _
    refine List.perm_singleton.mp ((List.perm_ext_iff_of_nodup apart (List.nodup_singleton row)).mpr ?_)
    intro s
    rw [matching, List.mem_filter, List.mem_singleton]
    constructor
    · rintro ⟨hs, own⟩
      exact alone s hs ((same s).trans own)
    · rintro rfl
      exact ⟨hr, met⟩
  refine ⟨conditions, meant, fun data ambient => ?_⟩
  refine changeRows_one tidy simple free there orderly hr (fun name mem => ?_) only
  obtain ⟨p, hp, rfl⟩ := List.mem_map.mp mem
  exact serves.changed data ambient p hp

/-- A key that names one row alone addresses it. -/
theorem addresses_of_names (tidy : db.Tidy) (simple : db.IsSimple) (free : IsFree e.table)
    (there : db.table? e.table = some t) (orderly : t.IsOrderly)
    (once : (t.rows.map Row.number).Nodup) (serves : t.Serves e) (hr : row ∈ t.rows)
    (named : t.names e key row = true) (alone : ∀ s ∈ t.rows, t.names e key s = true → s = row) :
    db.Addresses e t key row := by
  obtain ⟨conditions, meant, change⟩ :=
    changeRows_named tidy simple free there orderly once serves hr named alone
  have read : db.getRow e key = .ok (some (t.shown e row)) := by
    obtain ⟨found, meets, got⟩ := Table.getRow_of_meets ((needTable_iff tidy free).mpr there)
      (Table.meets_iff_names.mpr ⟨hr, named⟩)
    obtain ⟨hf, own⟩ := Table.meets_iff_names.mp meets
    rw [got, alone found hf own]
  constructor
  case read => exact read
  case removed =>
    have any : t.rows.any (t.names e key) = true := List.any_eq_true.mpr ⟨row, hr, named⟩
    rcases deleteRow_cases tidy simple free there once key with ⟨-, deleted⟩ | ⟨none, -⟩
    · rw [deleted, Table.withoutNamed_one orderly hr named alone]
    · rw [any] at none
      cases none
  case idle =>
    intro data ambient none
    simp only [updateRow, meant, none, read]
  case refused =>
    intro data ambient f some refused
    refine (updateRow_error_iff meant some).mpr ?_
    rw [change, refused]
    rfl
  case replaced =>
    intro data ambient shown db' some done
    have given := (updateRow_iff meant some).mp done
    rw [change] at given
    obtain ⟨next, replaced, given⟩ := bind_ok given
    obtain ⟨number, -, given⟩ := bind_ok given
    obtain ⟨found, -, given⟩ := bind_ok given
    exact ⟨next, replaced, (Prod.mk.inj (Option.some.inj (Except.ok.inj given))).2.symm⟩
  case updated =>
    intro plain data ambient next some replaced
    have ht := (table?_some there).1
    have move := (Table.replacement_ok (simple t ht) hr replaced).2
    have stored : next ∈ (t.storing next (.some row)).rows := Table.mem_place.mpr (Or.inl rfl)
    have shown : rowOfNumber e (t.storing next (.some row)) next.number = .ok (t.shown e next) :=
      rowOfNumber_eq (t := t.storing next (.some row)) plain (move.orderly orderly) stored
    refine (updateRow_iff meant some).mpr ?_
    rw [change, replaced]
    simp only [bind, Except.bind, shownNumber_eq plain, shown]
    rfl

end Database

end EntityEngine.Store
