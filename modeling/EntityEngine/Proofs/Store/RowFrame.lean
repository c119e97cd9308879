import EntityEngine.Proofs.Identifier
import EntityEngine.Proofs.Outcome
import EntityEngine.Store.Schema
import Mathlib.Data.List.Pairwise

/-! Writes of rows leave the form of every table as it is: its columns, its keys and its indexes.
Those of an entity's table, with all that follows from them, leave the definitions and the documents
as they are as well. -/

namespace EntityEngine.Store

open Sql

/-- A test finds the member of a list that passes it, if no other one does. -/
theorem find?_of_only {α : Type} {l : List α} {p : α → Bool} {a : α} (ha : a ∈ l)
    (own : p a = true) (only : ∀ b ∈ l, p b = true → b = a) : l.find? p = some a := by
  obtain ⟨b, found⟩ := Option.isSome_iff_exists.mp (List.find?_isSome.mpr ⟨a, ha, own⟩)
  rw [found, only b (List.mem_of_find?_eq_some found) (List.find?_some found)]

/-- A table without its rows. -/
def Table.bare (t : Table) : Table := { t with rows := [] }

theorem Table.bare_name (t : Table) : t.bare.name = t.name := rfl

namespace Database

/-- How the tables of a store are named: none of those that are not its own has a kept name, and no
two of them are named alike. -/
structure Tidy (db : Database) : Prop where
  sequences : db.sequences.name = "sqlite_sequence"
  free : ∀ t ∈ db.tables, IsUnkept t.name
  apart : db.tables.Pairwise fun t u => Text.sameFold t.name u.name = false

theorem Tidy.of_names {db db' : Database} (tidy : db.Tidy)
    (names : db'.tables.map Table.name = db.tables.map Table.name)
    (sequences : db'.sequences.name = db.sequences.name) : db'.Tidy := by
  constructor
  · rw [sequences, tidy.sequences]
  · intro t ht
    have mem : t.name ∈ db.tables.map Table.name := by
      rw [← names]
      exact List.mem_map_of_mem ht
    obtain ⟨u, hu, same⟩ := List.mem_map.mp mem
    rw [← same]
    exact tidy.free u hu
  · have apart : (db.tables.map Table.name).Pairwise fun a b => Text.sameFold a b = false :=
      List.pairwise_map.mpr tidy.apart
    rw [← names] at apart
    exact List.pairwise_map.mp apart

/-- `db'` is `db` with rows written. If only tables of entities are written, all else stays. -/
structure RowFrame (own : Prop) (db db' : Database) : Prop where
  tables : db'.tables.map Table.bare = db.tables.map Table.bare
  sequences : db'.sequences.bare = db.sequences.bare
  entities : own → db'.entities = db.entities
  documents : own → db'.documents = db.documents
  oddRows : own → db'.oddRows = db.oddRows

namespace RowFrame

variable {own own' : Prop} {db db' db'' : Database}

theorem refl (own : Prop) (db : Database) : RowFrame own db db :=
  ⟨rfl, rfl, fun _ => rfl, fun _ => rfl, fun _ => rfl⟩

theorem trans (h₁ : RowFrame own db db') (h₂ : RowFrame own db' db'') : RowFrame own db db'' :=
  ⟨h₂.tables.trans h₁.tables, h₂.sequences.trans h₁.sequences,
    fun h => (h₂.entities h).trans (h₁.entities h),
    fun h => (h₂.documents h).trans (h₁.documents h),
    fun h => (h₂.oddRows h).trans (h₁.oddRows h)⟩

theorem mono (h : RowFrame own db db') (weaker : own' → own) : RowFrame own' db db' :=
  ⟨h.tables, h.sequences, fun o => h.entities (weaker o), fun o => h.documents (weaker o),
    fun o => h.oddRows (weaker o)⟩

theorem names (h : RowFrame own db db') : db'.tables.map Table.name = db.tables.map Table.name := by
  have eq := congrArg (List.map Table.name) h.tables
  rwa [List.map_map, List.map_map] at eq

theorem tidy (h : RowFrame own db db') (tidy : db.Tidy) : db'.Tidy := by
  refine tidy.of_names h.names ?_
  rw [← Table.bare_name, h.sequences, Table.bare_name]

end RowFrame

variable {db db' : Database}

theorem empty_tidy : empty.Tidy where
  sequences := rfl
  free := by intro t ht; cases ht
  apart := List.Pairwise.nil

theorem table?_some {name : String} {t : Table} (h : db.table? name = some t) :
    t ∈ db.tables ∧ Text.sameFold t.name name = true :=
  ⟨List.mem_of_find?_eq_some h, by simpa using List.find?_some h⟩

/-- Tables with like names are one. -/
theorem Tidy.eq_of_sameFold (tidy : db.Tidy) {t u : Table} (ht : t ∈ db.tables)
    (hu : u ∈ db.tables) (same : Text.sameFold t.name u.name = true) : t = u := by
  by_cases eq : t = u
  · exact eq
  · have symmetric : Std.Symm fun a b : Table => Text.sameFold a.name b.name = false :=
      ⟨fun a b h => by rw [Text.sameFold_comm, h]⟩
    rw [tidy.apart.forall ht hu eq] at same
    cases same

theorem Tidy.table?_of_mem (tidy : db.Tidy) {t : Table} (ht : t ∈ db.tables) :
    db.table? t.name = some t :=
  find?_of_only ht (Text.sameFold_refl _) fun _ hu same => tidy.eq_of_sameFold hu ht same

theorem engineTable?_kept {name : String} {t : Table} (h : db.engineTable? name = some t) :
    t.name ∈ engineTables := by
  have mem := List.mem_of_find?_eq_some h
  simp only [List.mem_cons, List.not_mem_nil, or_false] at mem
  rcases mem with rfl | rfl | rfl
  · exact List.mem_cons_self
  · exact List.mem_cons_of_mem _ List.mem_cons_self
  · exact List.mem_cons_of_mem _ (List.mem_cons_of_mem _ List.mem_cons_self)

theorem kept_sequence : IsKept "sqlite_sequence" := Or.inr rfl

theorem kept_master : IsKept "sqlite_master" := Or.inr rfl

theorem kept_schema : IsKept "sqlite_schema" := Or.inr rfl

theorem kept_passing : IsKept "sqlite_temp_master" := Or.inr rfl

theorem kept_passingSchema : IsKept "sqlite_temp_schema" := Or.inr rfl

/-- A table as it is now is one of an entity, or one that the engine or the database keeps, or it is
not there, and then it is as it was. -/
theorem current_cases (db : Database) (t : Table) :
    db.table? t.name = some (db.current t) ∨
      (db.table? t.name = none ∧
        (db.current t = db.sequences ∨
          (IsKept (db.current t).name ∧ (db.current t).name ≠ "sqlite_sequence") ∨
          (db.current t = t ∧ Text.sameFold db.sequences.name t.name = false))) := by
  unfold current anyTable?
  cases own : db.table? t.name with
  | some u => exact Or.inl rfl
  | none =>
    refine Or.inr ⟨rfl, ?_⟩
    rw [Option.orElse_none]
    split
    · exact Or.inl rfl
    · rename_i notSequence
      refine Or.inr ?_
      split
      · exact Or.inl ⟨kept_master, show "sqlite_master" ≠ "sqlite_sequence" by decide⟩
      · split
        · exact Or.inl ⟨kept_passing, show "sqlite_temp_master" ≠ "sqlite_sequence" by decide⟩
        · cases engine : db.engineTable? t.name with
          | some u =>
            have kept := engineTable?_kept engine
            refine Or.inl ⟨Or.inl kept, fun same => ?_⟩
            rw [Option.getD_some] at same
            rw [same] at kept
            revert kept
            decide
          | none => exact Or.inr ⟨rfl, by simpa using notSequence⟩

theorem table?_none {name : String} (h : db.table? name = none) :
    ∀ t ∈ db.tables, Text.sameFold t.name name = false := by
  intro t ht
  simpa using List.find?_eq_none.mp h t ht

/-- A free name names a table of an entity, or nothing. -/
theorem Tidy.anyTable?_free (tidy : db.Tidy) {name : String} (free : IsUnkept name) :
    db.anyTable? name = db.table? name := by
  unfold anyTable?
  cases own : db.table? name with
  | some u => rfl
  | none =>
    rw [Option.orElse_none]
    have other : ∀ {kept}, IsKept kept → Text.sameFold kept name = false := by
      intro kept h
      rw [Text.sameFold_comm]
      exact free _ h
    have master : masterNames.any (Text.sameFold name) = false := by
      simp [masterNames, free _ kept_master,
        free _ kept_schema]
    have passing : passingNames.any (Text.sameFold name) = false := by
      simp [passingNames, free _ kept_passing,
        free _ kept_passingSchema]
    rw [tidy.sequences, other kept_sequence, master, passing]
    cases engine : db.engineTable? name with
    | some u =>
      have same : Text.sameFold u.name name = true := by simpa using List.find?_some engine
      rw [other (Or.inl (engineTable?_kept engine))] at same
      cases same
    | none => rfl

/-- What stands under a free name now has a free name. -/
theorem Tidy.current_free (tidy : db.Tidy) {t : Table} (free : IsUnkept t.name) :
    IsUnkept (db.current t).name := by
  unfold current
  rw [tidy.anyTable?_free free]
  cases own : db.table? t.name with
  | some u => exact tidy.free u (table?_some own).1
  | none => exact free

theorem engineTable_names : EngineTable.all.map EngineTable.name = engineTables := by decide

/-- Rows put into a table as it is now. -/
theorem Tidy.putAny_frame (tidy : db.Tidy) {t c : Table} (form : c.bare = (db.current t).bare) :
    RowFrame (IsUnkept (db.current t).name) db (db.putAny c) := by
  have name : c.name = (db.current t).name := by
    rw [← Table.bare_name, form, Table.bare_name]
  rw [← name]
  unfold putAny
  split
  · rename_i isSequence
    have kept : IsKept c.name := by
      rw [isSequence, tidy.sequences]
      exact kept_sequence
    have absurdity : ¬ IsUnkept c.name := fun free => free.ne kept rfl
    have isCurrent : db.current t = db.sequences := by
      rcases current_cases db t with own | ⟨-, same | ⟨-, ne⟩ | ⟨same, apart⟩⟩
      · have free := tidy.free _ (table?_some own).1
        rw [← name] at free
        exact absurd free absurdity
      · exact same
      · rw [← name, isSequence, tidy.sequences] at ne
        exact absurd rfl ne
      · rw [← isSequence, name, same, Text.sameFold_refl] at apart
        cases apart
    refine ⟨rfl, ?_, fun free => absurd free absurdity, fun free => absurd free absurdity,
      fun free => absurd free absurdity⟩
    rw [← isCurrent]
    exact form
  · split
    · rename_i isEngine
      have absurdity : ¬ IsUnkept c.name := by
        intro free
        obtain ⟨u, hu, same⟩ := List.any_eq_true.mp isEngine
        have mem : u.name ∈ engineTables := by
          rw [← engineTable_names]
          exact List.mem_map_of_mem hu
        exact free.ne (Or.inl mem) (by simpa using Eq.symm (by simpa using same))
      exact ⟨rfl, rfl, fun free => absurd free absurdity, fun free => absurd free absurdity,
        fun free => absurd free absurdity⟩
    · refine ⟨?_, rfl, fun _ => rfl, fun _ => rfl, fun _ => rfl⟩
      show (db.tables.map fun u => if Text.sameFold u.name c.name then c else u).map Table.bare = _
      rw [List.map_map]
      refine List.map_congr_left fun u hu => ?_
      show (if Text.sameFold u.name c.name then c else u).bare = u.bare
      split
      · rename_i same
        rw [name] at same
        -- A table of an entity that has the name is the one that stands there now.
        rcases current_cases db t with own | ⟨none, isSequence | ⟨kept, -⟩ | ⟨isOld, -⟩⟩
        · rw [form, tidy.eq_of_sameFold hu (table?_some own).1 same]
        · rw [isSequence, tidy.sequences,
            tidy.free u hu _ kept_sequence] at same
          cases same
        · rw [tidy.free u hu _ kept] at same
          cases same
        · rw [isOld, table?_none none u hu] at same
          cases same
      · rfl

/-! ### What follows from a change -/

theorem referring_free (db : Database) {t : Table} (free : IsUnkept t.name) :
    db.referring t = db.tables := by
  have ne : t.name ≠ EngineTable.definitions.name :=
    free.ne (Or.inl List.mem_cons_self)
  rw [referring, if_neg ne, List.nil_append]

theorem referrers_free (tidy : db.Tidy) {t : Table} (free : IsUnkept t.name)
    {child : Table} {k : ForeignKey} (h : (child, k) ∈ db.referrers t) : IsUnkept child.name := by
  obtain ⟨u, hu, mem⟩ := List.mem_flatMap.mp h
  obtain ⟨j, -, pair⟩ := List.mem_map.mp mem
  obtain ⟨rfl, -⟩ := Prod.mk.inj pair
  rw [referring_free db free, List.mem_reverse] at hu
  exact tidy.free u hu

theorem follow_frame (context : Setting) (fuel : Nat) : ∀ {db : Database} {t : Table} {old : Row}
    {new : Option Row} {db' : Database}, db.Tidy → follow context fuel db t old new = .ok db' →
      RowFrame (IsUnkept t.name) db db' := by
  induction fuel with
  | zero =>
    intro db t old new db' tidy h
    rw [follow] at h
    cases h
  | succ fuel ih =>
    intro db t old new db' tidy h
    rw [follow] at h
    refine foldlM_invariant (RowFrame (IsUnkept t.name) db) ?_ (.refl _ db) h
    rintro d ⟨child, k⟩ d' mem frame step
    have own : IsUnkept t.name → IsUnkept child.name := fun free => referrers_free tidy free mem
    have tidyNow := frame.tidy tidy
    refine frame.trans ?_
    simp only at step
    split at step
    · rw [← Except.ok.inj step]
      exact .refl _ d
    · split at step
      · rw [← Except.ok.inj step]
        exact .refl _ d
      · obtain ⟨-, step⟩ := unless_ok step
        obtain ⟨changes, -, step⟩ := bind_ok step
        -- Each row that refers to the old one goes away or changes, with what follows from that.
        refine foldlM_invariant (RowFrame (IsUnkept t.name) d) ?_ (.refl _ d) step
        intro e row e' _ frame step
        have tidyThen := frame.tidy tidyNow
        refine frame.trans ?_
        have free : IsUnkept t.name → IsUnkept (e.current (d.current child)).name := fun h =>
          tidyThen.current_free (tidyNow.current_free (own h))
        split at step
        · rw [← Except.ok.inj step]
          exact .refl _ e
        · rename_i there _
          split at step
          · have put := tidyThen.putAny_frame (t := d.current child)
              (c := (e.current (d.current child)).withoutRow there.number) rfl
            exact (put.trans (ih (put.tidy tidyThen) step)).mono free
          · obtain ⟨settled?, -, step⟩ := bind_ok step
            split at step
            · rw [← Except.ok.inj step]
              exact .refl _ e
            · rename_i s
              have put := tidyThen.putAny_frame (t := d.current child)
                (c := { e.current (d.current child) with rows := Table.place s.row s.others }) rfl
              exact (put.trans (ih (put.tidy tidyThen) step)).mono free

theorem removeRow_frame {context : Setting} {t : Table} {row : Row} (tidy : db.Tidy)
    (h : db.removeRow context t row = .ok db') : RowFrame (IsUnkept t.name) db db' := by
  simp only [removeRow] at h
  split at h
  · rw [← Except.ok.inj h]
    exact .refl _ db
  · rename_i there _
    have put := tidy.putAny_frame (t := t) (c := (db.current t).withoutRow there.number) rfl
    exact (put.trans (follow_frame context maxDepth (put.tidy tidy) h)).mono tidy.current_free

theorem removeRows_frame {context : Setting} {t : Table} {rows : List Row} (tidy : db.Tidy)
    (h : rows.foldlM (fun db row => removeRow db context t row) db = .ok db') :
    RowFrame (IsUnkept t.name) db db' := by
  refine foldlM_invariant (RowFrame (IsUnkept t.name) db) ?_ (.refl _ db) h
  intro d row d' _ frame step
  exact frame.trans (removeRow_frame (frame.tidy tidy) step)

theorem storeRow_frame {context : Setting} {t : Table} {s : Settled} {old : Option Row}
    (tidy : db.Tidy) (h : db.storeRow context t s old = .ok db') :
    RowFrame (IsUnkept t.name) db db' := by
  rw [storeRow] at h
  obtain ⟨d, removed, h⟩ := bind_ok h
  have first := removeRows_frame tidy removed
  have tidyNow := first.tidy tidy
  refine first.trans ?_
  cases old with
  | none =>
    rw [← Except.ok.inj h]
    exact (tidyNow.putAny_frame (t := t) (c := (d.current t).withRow s.row) rfl).mono
      tidyNow.current_free
  | some row =>
    have put := tidyNow.putAny_frame (t := t)
      (c := ((d.current t).withoutRow row.number).withRow s.row) rfl
    exact (put.trans (follow_frame context maxDepth (put.tidy tidyNow) h)).mono
      tidyNow.current_free

/-! ### The operations -/

theorem raise_bare (sequences : Table) (table : String) (n : Int) :
    (Sequence.raise sequences table n).bare = sequences.bare := by
  simp only [Sequence.raise]
  split
  · split <;> rfl
  · rfl

theorem needTable_of_unkept {name : String} {t : Table} (tidy : db.Tidy) (unkept : IsUnkept name) :
    db.needTable name = .ok t ↔ db.table? name = some t := by
  rw [needTable, tidy.anyTable?_free unkept]
  cases db.table? name with
  | none => simp
  | some u => simp

theorem needTable_iff {name : String} {t : Table} (tidy : db.Tidy) (free : IsFree name) :
    db.needTable name = .ok t ↔ db.table? name = some t := needTable_of_unkept tidy free.unkept

/-- A free name names a table of an entity. -/
theorem needTarget_table {name : String} {t : Table} (tidy : db.Tidy) (free : IsUnkept name)
    (h : db.needTarget name = .ok t) : db.table? name = some t := by
  rw [needTarget] at h
  obtain ⟨u, found, h⟩ := bind_ok h
  obtain ⟨-, h⟩ := unless_ok h
  rw [← Except.ok.inj h]
  exact (needTable_of_unkept tidy free).mp found

theorem needTarget_free {name : String} {t : Table} (tidy : db.Tidy) (free : IsUnkept name)
    (h : db.needTarget name = .ok t) : IsUnkept t.name :=
  tidy.free t (table?_some (needTarget_table tidy free h)).1

/-- The numbers that were used are no rows of an entity's table. -/
theorem numbers_frame (own : Prop) (db : Database) {sequences : Table} (last : Int)
    (same : sequences.bare = db.sequences.bare) :
    RowFrame own db { db with sequences, lastInsert := last } :=
  ⟨rfl, same, fun _ => rfl, fun _ => rfl, fun _ => rfl⟩

theorem afterInsertion_frame {context : Setting} {t : Table} {i : Table.Insertion}
    (tidy : db.Tidy) (h : db.afterInsertion context t i = .ok db') :
    RowFrame (IsUnkept t.name) db db' := by
  have counted : ∀ d : Database, (if t.isAutoincrement then
      pure { d with sequences := Sequence.raise d.sequences t.name i.number } else pure d) =
      (.ok db' : Except Sql.Fault Database) → RowFrame (IsUnkept t.name) d db' := by
    intro d h
    split at h
    · rw [← Except.ok.inj h]
      exact numbers_frame _ d _ (raise_bare _ _ _)
    · rw [← Except.ok.inj h]
      exact .refl _ d
  rw [afterInsertion] at h
  cases settled : i.settled with
  | none =>
    rw [settled] at h
    exact counted db h
  | some s =>
    simp only [settled] at h
    obtain ⟨d, stored, h⟩ := bind_ok h
    refine (storeRow_frame tidy stored).trans ?_
    split at h
    · exact (numbers_frame _ d i.number rfl).trans (counted _ h)
    · cases h

theorem insertionInto_table {name : String} {given : List (String × Value)} {ambient : Ambient}
    {t : Table} {i : Table.Insertion} (tidy : db.Tidy) (free : IsUnkept name)
    (h : db.insertionInto name given ambient = .ok (t, i)) : db.table? name = some t ∧
      t.insertion (db.context ambient) (Sequence.largest db.sequences t.name) given = .ok i := by
  rw [insertionInto] at h
  obtain ⟨u, found, h⟩ := bind_ok h
  split at h
  · cases h
  · simp only at h
    split at h
    · cases h
    · obtain ⟨j, inserted, h⟩ := bind_ok h
      obtain ⟨rfl, rfl⟩ := Prod.mk.inj (Except.ok.inj h)
      exact ⟨needTarget_table tidy free found, inserted⟩

/-- A new row is refused before it is stored, or it is stored. -/
theorem insertRow_cases (db : Database) (e : Entity) (data : ValueMap) (ambient : Ambient) :
    (∃ last, (db.insertRow e data ambient).2 = { db with lastInsert := last }) ∨
      ∃ t i, db.insertionInto e.table (newValues e data ambient) ambient = .ok (t, i) ∧
        db.afterInsertion (db.context ambient) t i = .ok (db.insertRow e data ambient).2 := by
  unfold insertRow
  simp only
  split
  · exact Or.inl ⟨db.lastInsert, rfl⟩
  · rename_i t i found
    split
    · exact Or.inl ⟨_, rfl⟩
    · rename_i d stored
      refine Or.inr ⟨t, i, found, stored.trans ?_⟩
      split
      · rfl
      · rfl

theorem insertRow_frame {e : Entity} {data : ValueMap} {ambient : Ambient} (tidy : db.Tidy)
    (free : IsFree e.table) : RowFrame True db (db.insertRow e data ambient).2 := by
  rcases insertRow_cases db e data ambient with ⟨last, eq⟩ | ⟨t, i, found, stored⟩
  · rw [eq]
    exact numbers_frame _ db last rfl
  · have own := tidy.free t (table?_some (insertionInto_table tidy free.unkept found).1).1
    exact (afterInsertion_frame tidy stored).mono fun _ => own

theorem changeNumbered_frame {context : Setting} {changes : List (String × Table.Change)}
    {numbers : List Int} {t : Table} (free : IsUnkept t.name) {rows : List Row} (tidy : db.Tidy)
    (h : db.changeNumbered context t changes numbers = .ok (db', rows)) :
    RowFrame True db db' := by
  induction numbers generalizing db t rows with
  | nil =>
    rw [changeNumbered] at h
    obtain ⟨rfl, -⟩ := Prod.mk.inj (Except.ok.inj h)
    exact .refl _ db
  | cons n numbers ih =>
    have freeNow := tidy.current_free free
    simp only [changeNumbered] at h
    split at h
    · exact ih freeNow tidy h
    · obtain ⟨settled?, -, h⟩ := bind_ok h
      split at h
      · exact ih freeNow tidy h
      · obtain ⟨d, stored, h⟩ := bind_ok h
        obtain ⟨⟨d', others⟩, changed, h⟩ := bind_ok h
        obtain ⟨rfl, -⟩ := Prod.mk.inj (Except.ok.inj h)
        have first : RowFrame True db d := (storeRow_frame tidy stored).mono fun _ => freeNow
        exact first.trans (ih freeNow (first.tidy tidy) changed)

/-- A row that is updated is changed with those that have its key, unless nothing is to change. -/
theorem updateRow_ok {e : Entity} {key : String} {data : ValueMap} {ambient : Ambient}
    {shown : ValueMap} (h : db.updateRow e key data ambient = .ok (shown, db')) :
    (rowChanges e data ambient = [] ∧ db' = db) ∨ ∃ conditions t row rows,
      keyConditions? e key = some conditions ∧ db.needTarget e.table = .ok t ∧
        db.changeNumbered (db.context ambient) t (rowChanges e data ambient)
          (t.numbersOf conditions) = .ok (db', row :: rows) := by
  simp only [updateRow] at h
  split at h
  · cases h
  · rename_i conditions named
    split at h
    · rename_i idle
      split at h
      · cases h
      · cases h
      · exact Or.inl ⟨idle, (Prod.mk.inj (Except.ok.inj h)).2.symm⟩
    · split at h
      · cases h
      · cases h
      · rename_i changed
        rw [Except.ok.inj h, changeRows] at changed
        obtain ⟨t, found, changed⟩ := bind_ok changed
        split at changed
        · cases changed
        · simp only at changed
          split at changed
          · cases changed
          · obtain ⟨⟨d, rows⟩, numbered, changed⟩ := bind_ok changed
            obtain ⟨-, changed⟩ := unless_ok changed
            split at changed
            · cases changed
            · rename_i row rows several
              obtain ⟨number, -, changed⟩ := bind_ok changed
              obtain ⟨shown, -, changed⟩ := bind_ok changed
              obtain ⟨-, rfl⟩ := Prod.mk.inj (Option.some.inj (Except.ok.inj changed))
              exact Or.inr ⟨conditions, t, row, rows, named, found, several ▸ numbered⟩

theorem updateRow_frame {e : Entity} {key : String} {data : ValueMap} {ambient : Ambient}
    {row : ValueMap} (tidy : db.Tidy) (free : IsFree e.table)
    (h : db.updateRow e key data ambient = .ok (row, db')) : RowFrame True db db' := by
  rcases updateRow_ok h with ⟨-, rfl⟩ | ⟨conditions, t, changed, others, -, found, changed⟩
  · exact .refl _ db'
  · exact changeNumbered_frame (needTarget_free tidy free.unkept found) tidy changed

theorem deleteFrom_ok {name : String} {conditions : List Condition} {n : Nat}
    (h : db.deleteFrom name conditions = .ok (db', n)) :
    ∃ (t : Table) (rows : List Row), db.needTarget name = .ok t ∧
      rows.foldlM (fun db row => removeRow db {} t row) db = .ok db' := by
  rw [deleteFrom] at h
  obtain ⟨t, found, h⟩ := bind_ok h
  split at h
  · cases h
  · obtain ⟨d, removed, h⟩ := bind_ok h
    split at h
    · obtain ⟨rfl, -⟩ := Prod.mk.inj (Except.ok.inj h)
      exact ⟨t, _, found, removed⟩
    · cases h

theorem deleteFrom_frame {name : String} {conditions : List Condition} {n : Nat}
    (tidy : db.Tidy) (h : db.deleteFrom name conditions = .ok (db', n)) :
    RowFrame (IsUnkept name) db db' := by
  obtain ⟨t, rows, found, removed⟩ := deleteFrom_ok h
  exact (removeRows_frame tidy removed).mono fun free => needTarget_free tidy free found

theorem deleteRow_ok {e : Entity} {key : String} (h : db.deleteRow e key = .ok db') :
    ∃ conditions n, db.deleteFrom e.table conditions = .ok (db', n) := by
  simp only [deleteRow] at h
  split at h
  · cases h
  · split at h
    · cases h
    · cases h
    · rename_i removed
      rw [← Except.ok.inj h]
      exact ⟨_, _, removed⟩

theorem deleteRow_frame {e : Entity} {key : String} (tidy : db.Tidy) (free : IsFree e.table)
    (h : db.deleteRow e key = .ok db') : RowFrame True db db' := by
  obtain ⟨conditions, n, removed⟩ := deleteRow_ok h
  exact (deleteFrom_frame tidy removed).mono fun _ => free.unkept

/-! ### Documents -/

/-- Writes of documents leave the tables of entities and the definitions as they are. -/
structure DocumentFrame (db db' : Database) : Prop where
  tables : db'.tables = db.tables
  sequences : db'.sequences.bare = db.sequences.bare
  entities : db'.entities = db.entities
  oddRows : db'.oddRows = db.oddRows

theorem DocumentFrame.rows (h : DocumentFrame db db') : RowFrame False db db' :=
  ⟨by rw [h.tables], h.sequences, fun o => o.elim, fun o => o.elim, fun o => o.elim⟩

theorem insertRecord_frame {entityId : Int} {entityCode : String} {appId : Int} {data : ValueMap}
    {actor : String} {ambient : Ambient} {r : Record}
    (h : db.insertRecord entityId entityCode appId data actor ambient = .ok (r, db')) :
    DocumentFrame db db' := by
  simp only [insertRecord] at h
  obtain ⟨id, -, h⟩ := bind_ok h
  obtain ⟨-, h⟩ := unless_ok h
  obtain ⟨-, h⟩ := unless_ok h
  obtain ⟨-, rfl⟩ := Prod.mk.inj (Except.ok.inj h)
  exact ⟨rfl, raise_bare _ _ _, rfl, rfl⟩

theorem updateRecord_frame {id : Int} {data : ValueMap} {actor : String} {ambient : Ambient}
    {r : Record} (h : db.updateRecord id data actor ambient = .ok (r, db')) :
    DocumentFrame db db' := by
  simp only [updateRecord] at h
  split at h
  · cases h
  · obtain ⟨-, rfl⟩ := Prod.mk.inj (Except.ok.inj h)
    exact ⟨rfl, rfl, rfl, rfl⟩

theorem deleteRecord_frame {id : Int} (h : db.deleteRecord id = .ok db') :
    DocumentFrame db db' := by
  unfold deleteRecord at h
  split at h
  · rw [← Except.ok.inj h]
    exact ⟨rfl, rfl, rfl, rfl⟩
  · cases h

theorem deleteRecordByKey_frame {entityId : Int} {key : String}
    (h : db.deleteRecordByKey entityId key = .ok db') : DocumentFrame db db' := by
  simp only [deleteRecordByKey] at h
  split at h
  · rw [← Except.ok.inj h]
    exact ⟨rfl, rfl, rfl, rfl⟩
  · cases h

end Database

end EntityEngine.Store
