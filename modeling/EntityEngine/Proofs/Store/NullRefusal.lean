import EntityEngine.Proofs.Store.KeptRows
import EntityEngine.Proofs.Store.RowAnswer

/-! Null in a column that may not be null. A new row, and a row that is to be changed, are refused
for the first such column among those that the statement touches, and for no other reason are they
refused so. -/

namespace EntityEngine

/-- In a list with the places of its elements, a test that depends on the elements alone finds the
one that it finds in the list. -/
theorem find?_zipIdx {α : Type} {l : List α} {q : α × Nat → Bool} {p : α → Bool} {n : Nat}
    (same : ∀ i a, l[i]? = some a → q (a, n + i) = p a) :
    ((l.zipIdx n).find? q).map Prod.fst = l.find? p := by
  induction l generalizing n with
  | nil => rfl
  | cons a l ih =>
    have first : q (a, n) = p a := same 0 a rfl
    have rest := ih (n := n + 1) fun i b hb => by
      rw [Nat.add_assoc, Nat.add_comm 1]
      exact same (i + 1) b hb
    rw [List.zipIdx_cons, List.find?_cons, List.find?_cons, first]
    cases p a with
    | true => rfl
    | false => exact rest

namespace Store

open Sql

namespace Table

variable {t : Table} {x : Extent} {row : Row} {context : Setting} {column : String}

theorem settleKeys_error {keys : List Key} {others : List Row} {f : Sql.Fault}
    (h : t.settleKeys row keys others = .error f) : ∃ names, f = .unique t.name names := by
  induction keys generalizing others with
  | nil => cases h
  | cons k keys ih =>
    unfold settleKeys at h
    split at h
    · exact ih h
    · split at h
      · cases h
      · exact ih h
      · exact ⟨_, (Except.error.inj h).symm⟩

/-- Where nothing is checked, a row is refused for null exactly if a column breaks that. -/
theorem accept_refused_iff (simple : t.IsSimple) (unchecked : t.checks = []) {others : List Row} :
    t.accept context x row others = .error (.notNull t.name column) ↔
      (t.nullColumn? x row).map Column.name = some column := by
  simp only [accept, derive_eq simple, settleNull_eq simple, unchecked, settleChecks, bind,
    Except.bind]
  cases t.nullColumn? x row with
  | some c => simp
  | none =>
    cases keys : t.settleKeys row t.keys others with
    | ok kept => simp [keys, pure, Except.pure]
    | error f =>
      obtain ⟨names, rfl⟩ := settleKeys_error keys
      simp [keys]

theorem numberFor_error {used : Int} {given : List (String × Value)} {f : Sql.Fault}
    (h : t.numberFor used given = .error f) (name : String) : f ≠ .notNull name column := by
  have next : ∀ f, t.nextNumber used = .error f → f = .other "database or disk is full" := by
    intro f h
    unfold nextNumber at h
    simp only at h
    split_ifs at h
    exact (Except.error.inj h).symm
  unfold numberFor at h
  split at h
  · rw [next f h]
    exact Sql.Fault.noConfusion
  · rw [next f h]
    exact Sql.Fault.noConfusion
  · split at h
    · cases h
    · rw [← Except.error.inj h]
      exact Sql.Fault.noConfusion

/-- A new row is refused for null exactly if it is given a number, and a column breaks that. -/
theorem insertion_refused_iff (simple : t.IsSimple) (unchecked : t.checks = []) {used : Int}
    {given : List (String × Value)} {values : List Value}
    (made : t.columns.mapM (fun c =>
      if t.isNumberColumn c.name then pure .null else newValue context given c) = .ok values) :
    t.insertion context used given = .error (.notNull t.name column) ↔
      ∃ number, t.numberFor used given = .ok number ∧
        (t.nullColumn? {} ⟨number, t.numbered number values⟩).map Column.name = some column := by
  have accepted (number : Int) : t.accept context {} ⟨number, t.numbered number values⟩ t.rows =
      .error (.notNull t.name column) ↔
        (t.nullColumn? {} ⟨number, t.numbered number values⟩).map Column.name = some column :=
    accept_refused_iff simple unchecked
  cases next : t.numberFor used given with
  | error f =>
    have other : f ≠ .notNull t.name column := numberFor_error next t.name
    simp [insertion, next, bind, Except.bind, other]
  | ok number =>
    rw [insertion, next]
    simp only [bind, Except.bind, made]
    cases settled : t.accept context {} ⟨number, t.numbered number values⟩ t.rows with
    | error f => simpa [settled] using accepted number
    | ok found => simpa [settled, pure, Except.pure] using accepted number

/-- A row is not changed exactly if a column that the change touches breaks that. -/
theorem replacement_refused_iff (simple : t.IsSimple) (unchecked : t.checks = [])
    {changes : List (String × Change)} {next : Row}
    (changed : t.changedRow changes row = .ok next) :
    t.replacement context changes row = .error (.notNull t.name column) ↔
      (t.nullColumn? (t.extentOf changes) next).map Column.name = some column := by
  have accepted : t.accept context (t.extentOf changes) next
      (t.rows.filter fun r => r.number ≠ row.number) = .error (.notNull t.name column) ↔
        (t.nullColumn? (t.extentOf changes) next).map Column.name = some column :=
    accept_refused_iff simple unchecked
  rw [← accepted, replacement, change, changed]
  show Except.map _ (t.accept context (t.extentOf changes) next _) = _ ↔ _
  cases t.accept context (t.extentOf changes) next
    (t.rows.filter fun r => decide (r.number ≠ row.number)) <;> simp [Except.map]

/-- The defaults of definitions can be evaluated. -/
theorem DefaultValue.faults_expression (d : DefaultValue) : d.expression.faults = [] := by
  cases d with
  | clock word =>
    unfold DefaultValue.expression
    simp only
    split
    · rfl
    · split <;> rfl
  | _ => rfl

/-- Columns that the table has can be given values. -/
theorem targetFault?_simple (simple : t.IsSimple) {as : String} {names : List String}
    (there : ∀ name ∈ names, t.hasColumn name = true) : t.targetFault? as names = none := by
  refine List.findSome?_eq_none_iff.mpr fun name mem => ?_
  have own : t.isDerived name = false := by
    unfold isDerived
    cases found : t.column? name with
    | none => rfl
    | some c =>
      rw [Option.any_some, (simple.plain c (List.mem_of_find?_eq_some found)).1]
      rfl
  have known : (t.resolve? name).isNone = false := by
    rw [← Option.not_isSome, resolve?_of_hasColumn (there name mem)]
    rfl
  simp only [known, own, Bool.false_eq_true, if_false]

theorem insertFaults_simple (simple : t.IsSimple) (plain : ∀ c ∈ t.columns, IsPlainColumn c)
    (given : List (String × Value)) : t.insertFaults given = [] := by
  rw [insertFaults, extentFaults_simple simple, List.append_nil]
  refine List.flatMap_eq_nil_iff.mpr fun c hc => ?_
  cases default : c.default with
  | none => rfl
  | some x =>
    obtain ⟨d, rfl⟩ := (plain c (List.mem_filter.mp hc).1).default x default
    exact DefaultValue.faults_expression d

end Table

namespace Database

variable {db : Database} {t : Table} {e : Entity} {column : String} {ambient : Ambient}

/-- A statement that gives values for columns of such a table comes down to the new row. -/
theorem insertionInto_eq (tidy : db.Tidy) (simple : db.IsSimple) {name : String}
    (free : IsUnkept name) (there : db.table? name = some t)
    (plain : ∀ c ∈ t.columns, Table.IsPlainColumn c) {given : List (String × Value)}
    (known : ∀ p ∈ given, t.hasColumn p.1 = true) :
    db.insertionInto name given ambient =
      (t.insertion (db.context ambient) (Sequence.largest db.sequences t.name) given).map
        fun i => (t, i) := by
  have ht := (table?_some there).1
  have named : ∀ column ∈ given.map Prod.fst, t.hasColumn column = true := by
    intro column mem
    obtain ⟨p, hp, rfl⟩ := List.mem_map.mp mem
    exact known p hp
  rw [insertionInto, needTarget_of_table tidy free there]
  simp only [bind, Except.bind, Table.targetFault?_simple (simple t ht) named,
    Table.insertFaults_simple (simple t ht) plain, followFault?_simple simple ht (tidy.free t ht),
    Option.toList_none, List.append_nil, toldFault?, List.foldl_nil]
  rfl

/-- A new row that keeps the constraints is not refused for null. -/
theorem afterInsertion_error {i : Table.Insertion} {used : Int} {given : List (String × Value)}
    {context setting : Setting} {f : Sql.Fault} (tidy : db.Tidy) (simple : db.IsSimple)
    (there : db.table? t.name = some t) (inserted : t.insertion setting used given = .ok i)
    (h : db.afterInsertion context t i = .error f) : f = .foreignKey := by
  obtain ⟨values, -, settled, move⟩ := Table.insertion_ok (simple t (table?_some there).1) inserted
  have stored : db.storeRow context t ⟨_, t.rows⟩ none = .ok (db.putTable (t.storing _ none)) :=
    storeRow_kept tidy simple there (fun r hr => Or.inl ⟨r, hr, rfl⟩) move
  simp only [afterInsertion, settled, stored] at h
  replace h : (if (db.putTable _).keepsReferences t then _ else _) = Except.error f := h
  split at h
  · replace h : (if t.isAutoincrement then _ else _) = Except.error f := h
    split at h <;> cases h
  · exact (Except.error.inj h).symm

theorem rowOfNumber_error {number : Int} {f : Sql.Fault}
    (h : rowOfNumber e t number = .error f) : f = .noRows := by
  unfold rowOfNumber at h
  split at h
  · exact (Except.error.inj h).symm
  · cases h

theorem shownNumber_error {row : Row} {name : String} {f : Sql.Fault}
    (h : shownNumber t row = .error f) : f ≠ .notNull name column := by
  unfold shownNumber at h
  split at h
  · cases h
  · rw [← Except.error.inj h]
    exact Sql.Fault.noConfusion

/-- A new row of a definition is refused for null as its table refuses it, and the answer is never
one of null otherwise. -/
theorem insertRow_refused_iff (tidy : db.Tidy) (simple : db.IsSimple) (free : IsFree e.table)
    (there : db.table? e.table = some t) (plain : ∀ c ∈ t.columns, Table.IsPlainColumn c)
    (serves : t.Serves e) {data : ValueMap} :
    (db.insertRow e data ambient).1 = .error (.database (.notNull t.name column)) ↔
      t.insertion (db.context ambient) (Sequence.largest db.sequences t.name)
        (newValues e data ambient) = .error (.notNull t.name column) := by
  have ht := (table?_some there).1
  have into : db.insertionInto e.table (newValues e data ambient) ambient = _ :=
    insertionInto_eq tidy simple free.unkept there plain (serves.inserted data ambient)
  cases inserted : t.insertion (db.context ambient) (Sequence.largest db.sequences t.name)
      (newValues e data ambient) with
  | error f =>
    rw [inserted] at into
    simp [insertRow, into, Except.map, EntityEngine.Fault.database]
  | ok i =>
    rw [inserted] at into
    refine iff_of_false (fun refused => ?_) (by simp)
    simp only [insertRow, into, Except.map] at refused
    split at refused
    · rename_i f failed
      rw [afterInsertion_error tidy simple (tidy.table?_of_mem ht) inserted failed] at refused
      cases refused
    · split at refused
      · rename_i f missing
        unfold needTable at missing
        split at missing
        · cases missing
        · rw [← Except.error.inj missing] at refused
          cases refused
      · rename_i u _
        rename_i d _ _ _
        cases shown : rowOfNumber e u d.lastInsert with
        | ok row =>
          rw [shown] at refused
          cases refused
        | error f =>
          rw [shown, rowOfNumber_error shown] at refused
          cases refused

/-- An update is refused for null exactly if its key names a row that it may not change so. -/
theorem updateRow_refused_iff (tidy : db.Tidy) (simple : db.IsSimple) (free : IsFree e.table)
    (there : db.table? e.table = some t) (orderly : t.IsOrderly)
    (once : (t.rows.map Row.number).Nodup) (serves : t.Serves e) {key : String}
    (keyed : ∀ r ∈ t.rows, ∀ s ∈ t.rows, t.names e key r = true → t.names e key s = true → r = s)
    {data : ValueMap} (some : rowChanges e data ambient ≠ []) :
    db.updateRow e key data ambient = .error (.database (.notNull t.name column)) ↔
      ∃ row ∈ t.rows, t.names e key row = true ∧
        t.replacement (db.context ambient) (rowChanges e data ambient) row =
          .error (.notNull t.name column) := by
  by_cases any : ∃ row ∈ t.rows, t.names e key row = true
  · obtain ⟨row, hr, named⟩ := any
    have alone : ∀ s ∈ t.rows, t.names e key s = true → s = row := fun s hs own =>
      keyed s hs row hr own named
    obtain ⟨conditions, meant, change⟩ :=
      changeRows_named tidy simple free there orderly once serves hr named alone
    replace change := change data ambient
    have only : (∃ row ∈ t.rows, t.names e key row = true ∧
        t.replacement (db.context ambient) (rowChanges e data ambient) row =
          .error (.notNull t.name column)) ↔
        t.replacement (db.context ambient) (rowChanges e data ambient) row =
          .error (.notNull t.name column) := by
      constructor
      · rintro ⟨s, hs, own, refused⟩
        rwa [alone s hs own] at refused
      · exact fun refused => ⟨row, hr, named, refused⟩
    rw [only, updateRow_error_iff meant some, change]
    constructor
    · intro refused
      rcases bind_error refused with refused | ⟨next, -, hidden⟩
      · exact refused
      · rcases bind_error hidden with hidden | ⟨number, -, missing⟩
        · exact absurd rfl (shownNumber_error hidden)
        · rcases bind_error missing with missing | ⟨_, -, done⟩
          · cases rowOfNumber_error missing
          · cases done
    · intro refused
      rw [refused]
      rfl
  · have none : ∀ r ∈ t.rows, t.names e key r = false := fun r hr =>
      Bool.eq_false_iff.mpr fun named => any ⟨r, hr, named⟩
    refine iff_of_false (fun refused => ?_) fun ⟨row, hr, named, _⟩ => any ⟨row, hr, named⟩
    rw [updateRow_missing tidy simple free there serves none] at refused
    cases refused

end Database

end Store

end EntityEngine
