import EntityEngine.Proofs.Store.KeptRows
import EntityEngine.Proofs.Store.Uniqueness

/-! The rows that a key names, and what an operation under a key makes of a table. It touches no row
that the key does not name. A key names one row at most if its fields tell rows apart, as they do
where a constraint of the table is on no other columns. -/

namespace EntityEngine.Store

open Sql

namespace Table

variable {t u : Table} {m e : Entity} {key : String} {r s : Row}

/-- Whether a key of a definition names a row. -/
def names (t : Table) (e : Entity) (key : String) (row : Row) : Bool :=
  (keyConditions? e key).any fun conditions => (t.reader row).satisfiesAll conditions

theorem meets_iff_names : t.Meets e key r ↔ r ∈ t.rows ∧ t.names e key r = true := by
  rw [Meets, names, Option.any_eq_true]

/-- Between two states of a table, no row is touched but some, and there are no more than before. -/
structure TouchesOnly (t u : Table) (named : Row → Bool) : Prop where
  bare : u.bare = t.bare
  few : u.rows.length ≤ t.rows.length
  others : ∀ r ∈ t.rows, named r = false → r ∈ u.rows

theorem TouchesOnly.refl (t : Table) (named : Row → Bool) : t.TouchesOnly t named :=
  ⟨rfl, Nat.le_refl _, fun _ hr _ => hr⟩

/-- A key of the definition tells rows of the table apart: it is the identifier of a template, or
there is none, or some constraint is on columns of key fields alone. -/
def IsKeyedBy (t : Table) (e : Entity) : Prop :=
  e.layout = .template ∨ e.keys = [] ∨ ∃ x ∈ t.indexes, x.isUnique = true ∧
    ∀ k ∈ x.columns, ∃ f ∈ e.keys, Text.sameFold f.name k.name = true

/-- Names that differ in the case of letters alone stand for one column. -/
theorem reader_congr {name name' : String} (same : Text.sameFold name name' = true)
    (there : t.hasColumn name' = true) (row : Row) :
    t.reader row (.column name) = t.reader row (.column name') := by
  have places : t.place? name = t.place? name' := by
    unfold place?
    congr 1
    funext c
    rw [Bool.eq_iff_iff, Text.sameFold_iff, Text.sameFold_iff, Text.sameFold_iff.mp same]
  obtain ⟨i, place⟩ := Option.isSome_iff_exists.mp there
  simp only [reader, reading?, resolve?, places, place, Option.map_some, Option.getD_some]

/-! ### One row for a key -/

theorem Suits.keeps (suits : t.Suits r) {i : Nat} {c : Column} (column : t.columns[i]? = some c)
    (plain : t.isNumberColumn c.name = false) : c.affinity.Keeps (valueAt r i) := by
  cases value : r.values[i]? with
  | none =>
    rw [valueAt, value]
    exact Affinity.keeps_null _
  | some v =>
    rw [valueAt, value]
    exact suits.kept i c v column value plain

namespace IsBuiltFrom

/-- What a column of a native table gives for its name. -/
theorem exists_reading (h : t.IsBuiltFrom m) (native : m.layout = .native) {name : String}
    (there : t.hasColumn name = true) : ∃ i c, t.place? name = some i ∧
      t.columns[i]? = some c ∧ c.affinity ≠ .real ∧ t.isNumberColumn c.name = false ∧
        ∀ row, t.reader row (.column name) = ⟨valueAt row i, c.affinity, .bytes⟩ := by
  obtain ⟨i, place⟩ := Option.isSome_iff_exists.mp there
  obtain ⟨bound, -, -⟩ := List.findIdx?_eq_some_iff_getElem.mp place
  have column := List.getElem?_eq_getElem bound
  have plain := h.isPlainColumn _ (List.getElem_mem bound)
  have noNumber : t.isNumberColumn t.columns[i].name = false := by
    rw [isNumberColumn, h.parts.2.2.1, Entity.numberColumn?_tableText h.derived, native]
    rfl
  refine ⟨i, t.columns[i], place, column, plain.affinity, noNumber, fun row => ?_⟩
  rw [reader_column place column, plain.collation]

/-- The columns of a constraint are columns of the table, compared byte by byte. -/
theorem unique_columns (h : t.IsBuiltFrom m) {c : UniqueSpec} (hc : c ∈ m.tableText.uniques) :
    ∀ k ∈ c.columns, k.collation = .bytes ∧ t.hasColumn k.name = true := by
  have declared : ∀ d ∈ m.tableText.columns, t.hasColumn d.name = true := by
    intro d hd
    obtain ⟨i, place, -⟩ := h.isMadeOf.place_of_mem hd
    exact Option.isSome_iff_exists.mpr ⟨i, place⟩
  intro k hk
  rcases List.mem_append.mp hc with column | primary
  · obtain ⟨d, hd, rfl⟩ := List.mem_map.mp column
    rw [List.mem_singleton.mp hk]
    exact ⟨rfl, declared d (List.mem_filter.mp hd).1⟩
  · split at primary
    · cases primary
    · rw [List.mem_singleton.mp primary] at hk
      obtain ⟨name, mem, rfl⟩ := List.mem_map.mp hk
      refine ⟨rfl, ?_⟩
      unfold Entity.tableText at mem
      simp only at mem
      split at mem
      · cases mem
      · obtain ⟨f, hf, rfl⟩ := List.mem_map.mp mem
        exact declared (f.columnText m.layout) (IsMadeOf.mem_columns (List.mem_filter.mp hf).1)

/-- Values of one column that equal one text are equal. -/
theorem same_of_compares (h : t.IsBuiltFrom m) (native : m.layout = .native)
    (first : t.Suits r) (second : t.Suits s) {name part : String}
    (there : t.hasColumn name = true)
    (hr : (t.reader r (.column name)).compares .eq (.text part) = true)
    (hs : (t.reader s (.column name)).compares .eq (.text part) = true) :
    (t.valueOf r name).isNull = false ∧ (t.valueOf s name).isNull = false ∧
      (t.valueOf r name).orderBy .bytes (t.valueOf s name) = .eq := by
  obtain ⟨i, c, -, column, other, plain, reading⟩ := h.exists_reading native there
  rw [valueOf, valueOf]
  rw [reading] at hr hs ⊢
  rw [reading]
  have own (row : Row) (suits : t.Suits row) :
      Reading.compares ⟨valueAt row i, c.affinity, .bytes⟩ .eq (.text part) = true ↔
        (valueAt row i).isNull = false ∧
          (valueAt row i).form = (c.affinity.convert (.text part)).form :=
    Reading.compares_iff (suits.keeps column plain) other rfl
  obtain ⟨given, same⟩ := (own r first).mp hr
  obtain ⟨given', same'⟩ := (own s second).mp hs
  exact ⟨given, given', Value.orderBy_bytes_iff.mpr (same.trans same'.symm)⟩

end IsBuiltFrom

/-- Rows whose values are equal in the columns of a constraint, and none of them null, share it. -/
theorem shares_of_parts {c : UniqueSpec}
    (parts : ∀ k ∈ c.columns, (t.valueOf r k.name).isNull = false ∧
      (t.valueOf s k.name).isNull = false ∧
        (t.valueOf r k.name).orderBy k.collation (t.valueOf s k.name) = .eq) :
    t.shares r s (.index (constraintIndex c)) = true := by
  simp only [shares, isIn, constraintIndex, Reader.satisfiesAll, List.all_nil, Bool.true_and]
  rw [sameKey, Bool.and_eq_true]
  refine ⟨by simp [indexKey], ?_⟩
  generalize c.columns = columns at parts
  induction columns with
  | nil => rfl
  | cons k columns ih =>
    obtain ⟨given, given', equal⟩ := parts k List.mem_cons_self
    have rest := ih fun k hk => parts k (List.mem_cons_of_mem _ hk)
    simp only [valueOf] at given given' equal
    simp only [indexKey, List.map_cons, List.zip_cons_cons, List.all_cons, given, given', equal]
    exact rest

/-- A key that names anything gives a part for each key field. -/
theorem exists_part (native : e.layout = .native) {conditions : List Condition}
    (named : keyConditions? e key = some conditions) {f : Field} (hf : f ∈ e.keys) :
    ∃ part, Condition.compare (.column f.name) .eq (.text part) ∈ conditions := by
  simp only [keyConditions?, native] at named
  split at named
  · cases named
  · rename_i only
    rw [only] at hf
    rw [← Option.some.inj named, List.mem_singleton.mp hf]
    exact ⟨key, List.mem_singleton_self _⟩
  · split at named
    · rename_i fs _ _ same
      obtain ⟨i, bound, rfl⟩ := List.getElem_of_mem hf
      rw [← Option.some.inj named]
      have inside : i < (Text.split ',' key).length := by omega
      refine ⟨(Text.split ',' key)[i], ?_⟩
      refine List.mem_iff_getElem.mpr ⟨i, by simp; omega, ?_⟩
      simp
    · cases named

/-- Where key fields tell rows apart, a key names one row at most. -/
theorem IsKeyedBy.eq_of_names (keyed : t.IsKeyedBy e) (h : t.IsBuiltFrom m)
    (same : m.layout = e.layout) (orderly : t.IsOrderly) (suits : ∀ r ∈ t.rows, t.Suits r)
    (hr : r ∈ t.rows) (hs : s ∈ t.rows) (first : t.names e key r = true)
    (second : t.names e key s = true) : r = s := by
  rw [names, Option.any_eq_true] at first second
  obtain ⟨conditions, named, first⟩ := first
  obtain ⟨conditions', named', second⟩ := second
  obtain rfl := Option.some.inj (named.symm.trans named')
  cases layout : e.layout with
  | template =>
    rw [keyConditions?_template layout] at named
    obtain rfl := Option.some.inj named
    have template := same.trans layout
    exact h.eq_of_recordId template orderly hr hs ((h.satisfies_recordId orderly template hr).mp first)
      ((h.satisfies_recordId orderly template hs).mp second)
  | native =>
    rcases keyed with template | none | ⟨x, hx, unique, covered⟩
    · rw [layout] at template
      cases template
    · simp only [keyConditions?, layout, none] at named
      cases named
    · have native := same.trans layout
      have mem := index_mem_keys.mpr ⟨hx, unique⟩
      obtain ⟨c, hc, rfl⟩ := h.mem_keys.mp mem
      have shares : ∀ a ∈ t.rows, ∀ b ∈ t.rows, (t.reader a).satisfiesAll conditions = true →
          (t.reader b).satisfiesAll conditions = true →
            t.shares a b (.index (constraintIndex c)) = true := by
        intro a ha b hb named₁ named₂
        have parts : ∀ k ∈ c.columns, (t.valueOf a k.name).isNull = false ∧
            (t.valueOf b k.name).isNull = false ∧
              (t.valueOf a k.name).orderBy k.collation (t.valueOf b k.name) = .eq := by
          intro k hk
          obtain ⟨bytes, there⟩ := h.unique_columns hc k hk
          obtain ⟨f, hf, own⟩ := covered k hk
          obtain ⟨part, condition⟩ := exists_part layout named hf
          have met (row : Row) (meets : (t.reader row).satisfiesAll conditions = true) :
              (t.reader row (.column k.name)).compares .eq (.text part) = true := by
            rw [← reader_congr own there]
            exact List.all_eq_true.mp meets _ condition
          rw [bytes]
          exact h.same_of_compares native (suits a ha) (suits b hb) there (met a named₁)
            (met b named₂)
        exact shares_of_parts parts
      by_contra ne
      rcases orderly.apart r hr s hs ne _ mem with apart | apart
      · rw [shares r hr s hs first second] at apart
        cases apart
      · rw [shares s hs r hr second first] at apart
        cases apart

theorem IsKeyedBy.length_names_le_one (keyed : t.IsKeyedBy e) (h : t.IsBuiltFrom m)
    (same : m.layout = e.layout) (orderly : t.IsOrderly) (suits : ∀ r ∈ t.rows, t.Suits r)
    (once : (t.rows.map Row.number).Nodup) (key : String) :
    (t.rows.filter (t.names e key)).length ≤ 1 := by
  have apart : t.rows.Pairwise fun r s => r ∈ t.rows ∧ s ∈ t.rows ∧ r ≠ s :=
    (List.Nodup.of_map _ once).imp_of_mem fun hr hs ne => ⟨hr, hs, ne⟩
  refine Database.length_filter_le_one apart fun r s first second pair => ?_
  obtain ⟨hr, hs, ne⟩ := pair
  exact ne (keyed.eq_of_names h same orderly suits hr hs first second)

/-- A definition that has the primary key of its table has key fields that tell rows apart. -/
theorem IsBuiltFrom.isKeyedBy (h : t.IsBuiltFrom m) (same : m.layout = e.layout)
    (primary : t.primaryColumns.map Text.fold = e.primaryKey.map Text.fold) : t.IsKeyedBy e := by
  cases layout : e.layout with
  | template => exact Or.inl layout
  | native =>
    refine Or.inr ?_
    have noNumber : t.numberColumn = none := by
      rw [h.parts.2.2.1, Entity.numberColumn?_tableText h.derived, same.trans layout]
    rw [primaryColumns, noNumber, Entity.primaryKey, layout] at primary
    simp only at primary
    split at primary
    · rename_i x found
      have hx := List.mem_of_find?_eq_some found
      have isPrimary : x.isPrimary = true := List.find?_some found
      refine Or.inr ⟨x, hx, ?_, fun k hk => ?_⟩
      · obtain ⟨further, plain, indexes⟩ := h.parts.2.2.2
        rw [indexes] at hx
        rcases List.mem_append.mp hx with own | other
        · obtain ⟨c, -, rfl⟩ := List.mem_map.mp own
          rfl
        · rw [(plain x other).2] at isPrimary
          cases isPrimary
      · have mem : Text.fold k.name ∈ (e.keys.map Field.name).map Text.fold := by
          rw [← primary]
          exact List.mem_map_of_mem (List.mem_map_of_mem hk)
        obtain ⟨name, hname, folded⟩ := List.mem_map.mp mem
        obtain ⟨f, hf, rfl⟩ := List.mem_map.mp hname
        exact ⟨f, hf, Text.sameFold_iff.mpr folded⟩
    · left
      simpa using primary.symm

end Table

/-! ### Rows that are removed -/

/-- The table without the rows that a key names. -/
def Table.withoutNamed (t : Table) (e : Entity) (key : String) : Table :=
  { t with rows := t.rows.filter fun r => !t.names e key r }

/-- A row that is put in the place of an older one touches that one alone. -/
theorem Table.touchesOnly_storing (t : Table) {old : Row} (hold : old ∈ t.rows) (next : Row) :
    t.TouchesOnly (t.storing next (some old)) fun r => decide (r.number = old.number) where
  bare := rfl
  few := by
    have fewer : (t.rows.filter fun r => decide (r.number ≠ old.number)).length < t.rows.length :=
      List.length_filter_lt_length_iff_exists.mpr ⟨old, hold, by simp⟩
    have placed := (Table.place_perm next (t.rows.filter fun r => decide (r.number ≠ old.number))).length_eq
    rw [List.length_cons] at placed
    show (place next (t.rows.filter fun r => decide (r.number ≠ old.number))).length ≤ _
    omega
  others r hr other := by
    refine mem_place.mpr (Or.inr (List.mem_filter.mpr ⟨hr, ?_⟩))
    rw [decide_eq_false_iff_not] at other
    exact decide_eq_true other

namespace Database

variable {db db' : Database} {t u : Table} {e m : Entity} {key : String} {ambient : Ambient}

theorem needTarget_of_table (tidy : db.Tidy) {name : String} (unkept : IsUnkept name)
    (there : db.table? name = some t) : db.needTarget name = .ok t := by
  have own := tidy.free t (table?_some there).1
  have writable : isReadOnly t = false := by
    rw [isReadOnly, Bool.or_eq_false_iff, beq_eq_false_iff_ne, beq_eq_false_iff_ne]
    exact ⟨own.ne kept_master, own.ne kept_passing⟩
  rw [needTarget, (needTable_of_unkept tidy unkept).mpr there]
  simp only [bind, Except.bind, writable]
  rfl

/-- Rows are gone once they are removed one after the other, and the others are as they were. -/
theorem removeRows_eq {context : Setting} (rows : List Row) (tidy : db.Tidy) (simple : db.IsSimple)
    (there : db.table? t.name = some u) :
    rows.foldlM (fun db row => removeRow db context t row) db = .ok (db.putTable
      { u with rows := u.rows.filter fun r => r.number ∉ rows.map Row.number }) := by
  induction rows generalizing db u with
  | nil =>
    have all : (u.rows.filter fun r => decide (r.number ∉ ([] : List Row).map Row.number)) = u.rows :=
      List.filter_eq_self.mpr fun r _ => by simp
    rw [all, putTable_self tidy (table?_some there).1]
    rfl
  | cons row rows ih =>
    have write : RowWrite t.name .delete db (db.putTable (u.withoutRow row.number)) :=
      .one there (.removed row.number)
    have now := table?_putTable (u := u.withoutRow row.number) there rfl
    have rest := ih ((write.frame tidy).tidy tidy) (write.simple tidy simple) now
    have left : (u.withoutRow row.number).rows.filter
        (fun r => decide (r.number ∉ rows.map Row.number)) =
          u.rows.filter fun r => decide (r.number ∉ (row :: rows).map Row.number) := by
      rw [Table.withoutRow, List.filter_filter]
      refine List.filter_congr fun r _ => ?_
      by_cases own : r.number = row.number <;> simp [own]
    rw [left, putTable_putTable] at rest
    · rw [List.foldlM_cons, removeRow_eq row tidy simple there]
      exact rest
    · rfl

/-- A deletion removes the rows that meet its conditions, and no others. -/
theorem deleteFrom_eq {name : String} (tidy : db.Tidy) (simple : db.IsSimple)
    (unkept : IsUnkept name) (there : db.table? name = some t)
    (once : (t.rows.map Row.number).Nodup) (conditions : List Condition) :
    db.deleteFrom name conditions = .ok (db.putTable
        { t with rows := t.rows.filter fun r => !(t.reader r).satisfiesAll conditions },
      (matching conditions t.reader t.rows).length) := by
  have ht := (table?_some there).1
  have free := tidy.free t ht
  have place := tidy.table?_of_mem ht
  have left : (t.rows.filter fun r => decide
      (r.number ∉ (matching conditions t.reader t.rows).map Row.number)) =
        t.rows.filter fun r => !(t.reader r).satisfiesAll conditions := by
    refine List.filter_congr fun r hr => ?_
    have own : r.number ∈ (matching conditions t.reader t.rows).map Row.number ↔
        (t.reader r).satisfiesAll conditions = true := by
      constructor
      · intro mem
        obtain ⟨s, hs, number⟩ := List.mem_map.mp mem
        obtain ⟨hs, met⟩ := List.mem_filter.mp hs
        rwa [← List.inj_on_of_nodup_map once hs hr number]
      · intro met
        exact List.mem_map_of_mem (List.mem_filter.mpr ⟨hr, met⟩)
    cases met : (t.reader r).satisfiesAll conditions <;> simp [own, met]
  have removed : (matching conditions t.reader t.rows).foldlM
      (fun db row => removeRow db {} t row) db = .ok (db.putTable
        { t with rows := t.rows.filter fun r => !(t.reader r).satisfiesAll conditions }) := by
    rw [← left]
    exact removeRows_eq (matching conditions t.reader t.rows) tidy simple place
  have write := removeRows_write tidy simple place removed
  rw [deleteFrom, needTarget_of_table tidy unkept there]
  simp only [bind, Except.bind, followFault?_simple simple ht free, removed,
    keepsReferences_simple (write.simple tidy simple) free, if_true]
  rfl

/-- A deletion under a key removes the rows that the key names, if it names any. -/
theorem deleteRow_cases (tidy : db.Tidy) (simple : db.IsSimple) (free : IsFree e.table)
    (there : db.table? e.table = some t) (once : (t.rows.map Row.number).Nodup) (key : String) :
    (t.rows.any (t.names e key) = true ∧
      db.deleteRow e key = .ok (db.putTable (t.withoutNamed e key))) ∨
    (t.rows.any (t.names e key) = false ∧
      db.deleteRow e key = .error (.recordNotFound (.key key))) := by
  cases named : keyConditions? e key with
  | none =>
    right
    constructor
    · refine List.any_eq_false.mpr fun r _ => ?_
      simp [Table.names, named]
    · simp only [deleteRow, named]
  | some conditions =>
    have names : ∀ r, t.names e key r = (t.reader r).satisfiesAll conditions := by
      intro r
      rw [Table.names, named]
      rfl
    have deleted := deleteFrom_eq tidy simple free.unkept there once conditions
    have any : t.rows.any (t.names e key) = true ↔
        (matching conditions t.reader t.rows).length ≠ 0 := by
      rw [matching, Nat.ne_zero_iff_zero_lt, List.length_filter_pos_iff, List.any_eq_true]
      simp only [names]
    cases count : (matching conditions t.reader t.rows).length with
    | zero =>
      right
      rw [count] at deleted any
      refine ⟨Bool.eq_false_iff.mpr fun some => any.mp some rfl, ?_⟩
      simp only [deleteRow, named, deleted]
    | succ n =>
      left
      rw [count] at deleted any
      refine ⟨any.mpr (Nat.succ_ne_zero n), ?_⟩
      simp only [deleteRow, named, deleted, Table.withoutNamed, names]

/-! ### Rows that are changed -/

/-- A change of the rows of some numbers leaves those of other numbers alone. -/
theorem changeNumbered_touches {context : Setting} {changes : List (String × Table.Change)}
    {numbers : List Int} {rows : List Row} (tidy : db.Tidy) (simple : db.IsSimple)
    (there : db.table? t.name = some u)
    (h : db.changeNumbered context t changes numbers = .ok (db', rows)) :
    ∃ v, db'.table? t.name = some v ∧ u.TouchesOnly v fun r => decide (r.number ∈ numbers) := by
  induction numbers generalizing db t u rows with
  | nil =>
    rw [changeNumbered] at h
    obtain ⟨rfl, -⟩ := Prod.mk.inj (Except.ok.inj h)
    exact ⟨u, there, .refl u _⟩
  | cons n numbers ih =>
    obtain ⟨hu, same⟩ := table?_some there
    have now := tidy.table?_of_mem hu
    have fewer : ∀ {v : Table}, u.TouchesOnly v (fun r => decide (r.number ∈ numbers)) →
        u.TouchesOnly v fun r => decide (r.number ∈ n :: numbers) := by
      intro v touches
      refine ⟨touches.bare, touches.few, fun r hr other => touches.others r hr ?_⟩
      rw [decide_eq_false_iff_not] at other ⊢
      exact fun mem => other (List.mem_cons_of_mem n mem)
    rw [changeNumbered_cons tidy simple there] at h
    split at h
    · obtain ⟨v, after, touches⟩ := ih tidy simple now h
      rw [table?_congr same] at after
      exact ⟨v, after, fewer touches⟩
    · rename_i row found
      have hr : row ∈ u.rows := List.mem_of_find?_eq_some found
      have number : row.number = n := by simpa using List.find?_some found
      obtain ⟨next, replaced, h⟩ := bind_ok h
      obtain ⟨⟨d, others⟩, rest, h⟩ := bind_ok h
      obtain ⟨rfl, -⟩ := Prod.mk.inj (Except.ok.inj h)
      obtain ⟨-, move⟩ := Table.replacement_ok (simple u hu) hr replaced
      have first : RowWrite u.name (.update changes) db (db.putTable (u.storing next (some row))) :=
        .one (t := u) now move
      have put := table?_putTable (u := u.storing next (some row)) now rfl
      obtain ⟨v, after, touches⟩ := ih ((first.frame tidy).tidy tidy) (first.simple tidy simple) put
        rest
      rw [table?_congr same] at after
      have stored := u.touchesOnly_storing hr next
      refine ⟨v, after, touches.bare.trans stored.bare, touches.few.trans stored.few, ?_⟩
      intro r hr other
      simp only [List.mem_cons, decide_eq_false_iff_not, not_or] at other
      refine touches.others r (stored.others r hr ?_) (decide_eq_false other.2)
      rw [number]
      exact decide_eq_false other.1

/-- An update under a key touches no row that the key does not name. -/
theorem updateRow_touches {data shown : ValueMap} (tidy : db.Tidy) (simple : db.IsSimple)
    (free : IsFree e.table) (there : db.table? e.table = some t)
    (once : (t.rows.map Row.number).Nodup)
    (h : db.updateRow e key data ambient = .ok (shown, db')) :
    ∃ u, db'.table? e.table = some u ∧ t.TouchesOnly u (t.names e key) := by
  rcases updateRow_ok h with ⟨-, rfl⟩ | ⟨conditions, target, row, rows, named, found, changed⟩
  · exact ⟨t, there, .refl t _⟩
  · obtain rfl : target = t :=
      Option.some.inj ((needTarget_table tidy free.unkept found).symm.trans there)
    obtain ⟨ht, same⟩ := table?_some there
    obtain ⟨u, after, touches⟩ :=
      changeNumbered_touches tidy simple (tidy.table?_of_mem ht) changed
    rw [table?_congr same] at after
    refine ⟨u, after, touches.bare, touches.few, fun r hr other => touches.others r hr ?_⟩
    rw [decide_eq_false_iff_not]
    intro mem
    obtain ⟨s, hs, number⟩ := List.mem_map.mp mem
    obtain ⟨hs, met⟩ := List.mem_filter.mp hs
    rw [← List.inj_on_of_nodup_map once hs hr number, Table.names, named, Option.any_some, met]
      at other
    cases other

end Database

end EntityEngine.Store
