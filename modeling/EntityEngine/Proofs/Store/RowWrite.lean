import EntityEngine.Proofs.Store.RowFrame
import Mathlib.Data.List.Find

/-! Writes of rows where no row refers to another one and none takes another one's place. Nothing
follows from a change then: a statement on the rows of one table leaves every other table as it is,
rows included, and no two rows of a table ever share a key. -/

namespace EntityEngine.Store

open Sql

/-- A row that is written is stored as it stands or refused, and nothing follows for other rows: no
column follows from others, no row is referred to, and none is removed because its key is used. -/
structure Table.IsSimple (t : Table) : Prop where
  unlinked : t.foreignKeys = []
  aborts : ∀ k ∈ t.keys, t.keyAction k = .abort
  plain : ∀ c ∈ t.columns, c.derivation = none ∧ (c.notNull = none ∨ c.notNull = some .abort)
  number : ∀ c ∈ t.columns, t.isNumberColumn c.name = true → c.affinity ≠ .text
  distinct : (t.columns.map fun c => Text.fold c.name).Nodup

/-- No number stands in a column of texts. -/
def Table.Files (t : Table) (row : Row) : Prop :=
  ∀ (i : Nat) (c : Column) (v : Value), t.columns[i]? = some c → row.values[i]? = some v →
    c.affinity = .text → v.size? = none

/-- Of the columns that a write touches, those that may not be null have a value. -/
def Table.FillsIn (t : Table) (x : Extent) (row : Row) : Prop :=
  ∀ (i : Nat) (c : Column), t.columns[i]? = some c → c.notNull.isSome = true →
    t.isNumberColumn c.name = false → Table.touches x i = true → (valueAt row i).isNull = false

/-- No two rows share a key, and columns of texts hold no numbers. -/
structure Table.IsOrderly (t : Table) : Prop where
  apart : ∀ r ∈ t.rows, ∀ s ∈ t.rows, r ≠ s →
    ∀ k ∈ t.keys, t.shares r s k = false ∨ t.shares s r k = false
  filed : ∀ r ∈ t.rows, t.Files r

/-- A statement on the rows of a table. -/
inductive Statement where
  | insert (given : List (String × Value))
  | update (changes : List (String × Table.Change))
  | delete

def Statement.IsInsert : Statement → Prop
  | insert _ => True
  | _ => False

/-- A row that a statement stores, and the rows that stay beside it. -/
inductive Table.Stores (t : Table) : Statement → Row → List Row → Prop
  | new {given : List (String × Value)} {context : Setting} {used number : Int}
      {values : List Value} (next : t.numberFor used given = .ok number)
      (found : t.columns.mapM (fun c =>
        if t.isNumberColumn c.name then pure .null else newValue context given c) = .ok values) :
      Stores t (.insert given) ⟨number, t.numbered number values⟩ t.rows
  | changed {changes : List (String × Table.Change)} {old next : Row} (there : old ∈ t.rows)
      (made : t.changedRow changes old = .ok next) :
      Stores t (.update changes) next (t.rows.filter fun r => r.number ≠ old.number)

/-- What one write of a statement makes of the rows of a table: a row is gone, or one is stored that
shares no key with those that stay beside it. -/
inductive Table.RowsMove (t : Table) : Statement → List Row → Prop
  | removed (number : Int) : RowsMove t .delete (t.rows.filter fun r => r.number ≠ number)
  | stored {statement : Statement} {row : Row} {others : List Row}
      (stores : t.Stores statement row others)
      (apart : ∀ k ∈ t.keys, ∀ r ∈ others, t.shares row r k = false)
      (files : (∀ r ∈ t.rows, t.Files r) → t.Files row)
      (fills : (∀ r ∈ t.rows, t.FillsIn {} r) → t.FillsIn {} row) :
      RowsMove t statement (Table.place row others)

namespace Table

variable {t : Table}

/-- The table with a row stored, in place of an older one if that is given. -/
def storing (t : Table) (row : Row) : Option Row → Table
  | none => t.withRow row
  | some old => (t.withoutRow old.number).withRow row

theorem mem_place {row r : Row} {rows : List Row} :
    r ∈ place row rows ↔ r = row ∨ r ∈ rows := by
  induction rows with
  | nil => simp [place]
  | cons s rows ih =>
    unfold place
    split
    · simp
    · simp only [List.mem_cons, ih]
      exact or_left_comm

theorem IsSimple.of_bare {u : Table} (h : u.IsSimple) (same : t.bare = u.bare) : t.IsSimple := by
  have bare : t.bare.IsSimple := by
    rw [same]
    exact ⟨h.unlinked, h.aborts, h.plain, h.number, h.distinct⟩
  exact ⟨bare.unlinked, bare.aborts, bare.plain, bare.number, bare.distinct⟩

theorem Stores.others {statement : Statement} {row : Row} {others : List Row}
    (stores : t.Stores statement row others) : ∀ r ∈ others, r ∈ t.rows := by
  cases stores with
  | new _ _ => exact fun r hr => hr
  | changed _ _ => exact fun r hr => (List.mem_filter.mp hr).1

theorem RowsMove.orderly {statement : Statement} {rows : List Row}
    (move : t.RowsMove statement rows) (orderly : t.IsOrderly) :
    ({ t with rows } : Table).IsOrderly := by
  cases move with
  | removed number =>
    refine ⟨fun r hr s hs => ?_, fun r hr => orderly.filed r (List.mem_filter.mp hr).1⟩
    exact orderly.apart r (List.mem_filter.mp hr).1 s (List.mem_filter.mp hs).1
  | @stored _ row others stores apart files _ =>
    have some := stores.others
    constructor
    · intro r hr s hs ne k hk
      rcases mem_place.mp hr with first | hr <;> rcases mem_place.mp hs with second | hs
      · exact absurd (first.trans second.symm) ne
      · rw [first]
        exact Or.inl (apart k hk s hs)
      · rw [second]
        exact Or.inr (apart k hk r hr)
      · exact orderly.apart r (some r hr) s (some s hs) ne k hk
    · intro r hr
      rcases mem_place.mp hr with rfl | hr
      · exact files orderly.filed
      · exact orderly.filed r (some r hr)

/-- Rows of one number are one. -/
theorem IsOrderly.eq_of_number (orderly : t.IsOrderly) {r s : Row} (hr : r ∈ t.rows)
    (hs : s ∈ t.rows) (same : r.number = s.number) : r = s := by
  have mem : Key.number ∈ t.keys := by
    unfold keys
    simp only
    split <;> simp
  by_contra ne
  rcases orderly.apart r hr s hs ne _ mem with apart | apart <;> simp [shares, same] at apart

/-! ### Rows that are stored as they stand -/

theorem derivedPlaces_eq (simple : t.IsSimple) : t.derivedPlaces = [] := by
  refine List.filter_eq_nil_iff.mpr fun i _ => ?_
  cases found : t.columns[i]? with
  | none => exact Bool.false_ne_true
  | some c =>
    rw [Option.any_some, (simple.plain c (List.mem_of_getElem? found)).1]
    exact Bool.false_ne_true

theorem derivations_simple (simple : t.IsSimple) : t.derivations = ([], []) := by
  unfold derivations
  rw [derivedPlaces_eq simple]
  cases t.columns.length with
  | zero => rfl
  | succ n => rfl

theorem derive_eq (simple : t.IsSimple) (context : Setting) (row : Row) :
    t.derive context row = .ok row := by
  rw [derive, derivations_simple simple]
  rfl

theorem nullAction?_simple (simple : t.IsSimple) {c : Column} (hc : c ∈ t.columns) :
    nullAction? c = c.notNull.map fun _ => .abort := by
  unfold nullAction?
  rcases (simple.plain c hc).2 with none | some
  · rw [none]
    rfl
  · rw [some]
    rfl

theorem replacesNull_simple (simple : t.IsSimple) {c : Column} (hc : c ∈ t.columns) (x : Extent)
    (i : Nat) : t.replacesNull x c i = false := by
  rw [replacesNull, nullAction?_simple simple hc]
  cases c.notNull <;> simp

/-- No expression is looked at before a row is. -/
theorem extentFaults_simple (simple : t.IsSimple) (x : Extent) : t.extentFaults x = [] := by
  simp only [extentFaults, derivations_simple simple]
  refine List.flatMap_eq_nil_iff.mpr fun p mem => ?_
  have kept : t.replacesNull x p.1 p.2 = false :=
    replacesNull_simple simple (List.fst_mem_of_mem_zipIdx mem) x p.2
  simp only [kept, Bool.false_eq_true, if_false]

/-- A column that a write touches may not be null, and is. -/
def breaksNull (t : Table) (x : Extent) (row : Row) (p : Column × Nat) : Bool :=
  touches x p.2 && p.1.notNull.isSome && !t.isNumberColumn p.1.name && (valueAt row p.2).isNull

/-- The first such column. -/
def nullColumn? (t : Table) (x : Extent) (row : Row) : Option Column :=
  (t.columns.zipIdx.find? (t.breaksNull x row)).map Prod.fst

/-- A row is refused for null alone, and else left as it is. -/
theorem settleNull_eq (simple : t.IsSimple) (context : Setting) (x : Extent) (row : Row) :
    t.settleNull context x row =
      match t.nullColumn? x row with
      | none => .ok (some row)
      | some c => .error (.notNull t.name c.name) := by
  have abort : ∀ p ∈ t.columns.zipIdx, nullAction? p.1 = p.1.notNull.map fun _ => .abort :=
    fun p hp => nullAction?_simple simple (List.fst_mem_of_mem_zipIdx hp)
  have early : t.nullAnswer (fun i => touches x i && !t.derivedPlaces.contains i)
      (fun c => (nullAction? c).filter fun action => action ≠ .replace) row =
        match t.nullColumn? x row with
        | none => .none
        | some c => .refused c.name := by
    have same : ∀ p ∈ t.columns.zipIdx,
        (touches x p.2 && !t.derivedPlaces.contains p.2 &&
          ((nullAction? p.1).filter fun action => decide (action ≠ .replace)).isSome &&
            !t.isNumberColumn p.1.name && (valueAt row p.2).isNull) = t.breaksNull x row p := by
      intro p hp
      rw [abort p hp, derivedPlaces_eq simple, breaksNull]
      cases p.1.notNull <;> simp [Option.filter]
    rw [nullAnswer, nullColumn?]
    simp only
    rw [List.find?_congr same]
    cases found : t.columns.zipIdx.find? (t.breaksNull x row) with
    | none => rfl
    | some p =>
      have action := abort p (List.mem_of_find?_eq_some found)
      simp only [Option.map_some, action]
      rw [if_neg]
      cases p.1.notNull <;> simp [Option.filter]
  have replaces : (t.columns.zipIdx.any fun p => t.replacesNull x p.1 p.2) = false := by
    refine List.any_eq_false.mpr fun p hp => ?_
    rw [replacesNull_simple simple (List.fst_mem_of_mem_zipIdx hp)]
    exact Bool.false_ne_true
  -- No null is left for a second look, for none is replaced and no column follows from others.
  have late (row : Row) : t.nullAnswer
      (fun i => t.derivedPlaces.contains i || (touches x i &&
        (t.columns[i]?).any fun c => nullAction? c == some .replace))
      (fun c => (nullAction? c).map fun action => if action = .replace then .abort else action)
      row = .none := by
    have none : ∀ p ∈ t.columns.zipIdx, (t.derivedPlaces.contains p.2 || (touches x p.2 &&
        (t.columns[p.2]?).any fun c => nullAction? c == some .replace)) = false := by
      intro p hp
      have column := List.mem_zipIdx_iff_getElem?.mp hp
      rw [derivedPlaces_eq simple, column, Option.any_some, abort p hp]
      cases p.1.notNull <;> simp
    rw [nullAnswer, List.find?_eq_none.mpr]
    intro p hp
    simp only [none p hp, Bool.false_and, Bool.false_eq_true, not_false_iff]
  unfold settleNull
  simp only [early, replaces, Bool.false_eq_true, if_false, pure_bind, late]
  cases t.nullColumn? x row <;> rfl

/-- A row is left as it is where null is looked for, and it has none where it may not. -/
theorem settleNull_ok (simple : t.IsSimple) {context : Setting} {x : Extent} {row : Row}
    {settled : Option Row} (ok : t.settleNull context x row = .ok settled) :
    settled = some row ∧ t.FillsIn x row := by
  rw [settleNull_eq simple, nullColumn?] at ok
  cases found : t.columns.zipIdx.find? (t.breaksNull x row) with
  | some p =>
    rw [found] at ok
    cases ok
  | none =>
    rw [found] at ok
    refine ⟨(Except.ok.inj ok).symm, fun i c column needed other touched => ?_⟩
    have kept := List.find?_eq_none.mp found (c, i) (List.mem_zipIdx_iff_getElem?.mpr column)
    simpa [breaksNull, touched, needed, other] using kept

/-- A row that is accepted shares no key with the others, all of which stay. -/
theorem settleKeys_ok {row : Row} {keys : List Key} (aborts : ∀ k ∈ keys, t.keyAction k = .abort)
    {others : List Row} {kept : Option (List Row)}
    (h : t.settleKeys row keys others = .ok kept) :
    kept = some others ∧ ∀ k ∈ keys, ∀ r ∈ others, t.shares row r k = false := by
  induction keys with
  | nil => exact ⟨(Except.ok.inj h).symm, fun k hk => absurd hk List.not_mem_nil⟩
  | cons k keys ih =>
    unfold settleKeys at h
    split at h
    · rename_i none
      obtain ⟨all, apart⟩ := ih (fun k hk => aborts k (List.mem_cons_of_mem _ hk)) h
      refine ⟨all, fun k' hk' r hr => ?_⟩
      rcases List.mem_cons.mp hk' with rfl | hk'
      · simpa using List.find?_eq_none.mp none r hr
      · exact apart k' hk' r hr
    · rw [aborts k List.mem_cons_self] at h
      cases h

/-- What is accepted is the row as it stands, beside all the others. -/
theorem accept_ok (simple : t.IsSimple) {context : Setting} {x : Extent} {row : Row}
    {others : List Row} {found : Option Settled} (h : t.accept context x row others = .ok found) :
    found = some ⟨row, others⟩ ∧ (∀ k ∈ t.keys, ∀ r ∈ others, t.shares row r k = false) ∧
      t.FillsIn x row := by
  unfold accept at h
  obtain ⟨derived, same, h⟩ := bind_ok h
  rw [derive_eq simple] at same
  obtain rfl := Except.ok.inj same
  obtain ⟨settled, null, h⟩ := bind_ok h
  obtain ⟨rfl, fills⟩ := settleNull_ok simple null
  obtain ⟨-, -, h⟩ := bind_ok h
  obtain ⟨kept, keys, h⟩ := bind_ok h
  obtain ⟨rfl, apart⟩ := settleKeys_ok simple.aborts keys
  exact ⟨(Except.ok.inj h).symm, apart, fills⟩

theorem size_store_text (v : Value) : (Affinity.text.store v).size? = none := by
  cases v <;> rfl

/-- The values of a row beside the columns, where the number column shows the number. -/
theorem numbered_getElem? {number : Int} {values : List Value} {i : Nat} {c : Column} {w : Value}
    (column : t.columns[i]? = some c) (value : (t.numbered number values)[i]? = some w) :
    ∃ v, values[i]? = some v ∧ w = if t.isNumberColumn c.name then .integer number else v := by
  rw [numbered, List.getElem?_map, Option.map_eq_some_iff] at value
  obtain ⟨⟨c', v⟩, pair, rfl⟩ := value
  obtain ⟨column', value⟩ := List.getElem?_zip_eq_some.mp pair
  rw [column] at column'
  obtain rfl := Option.some.inj column'
  exact ⟨v, value, rfl⟩

theorem files_numbered (simple : t.IsSimple) (number : Int) {values : List Value}
    (files : ∀ (i : Nat) (c : Column) (v : Value), t.columns[i]? = some c → values[i]? = some v →
      t.isNumberColumn c.name = false → c.affinity = .text → v.size? = none) :
    t.Files ⟨number, t.numbered number values⟩ := by
  intro i c w column value textual
  obtain ⟨v, given, rfl⟩ := numbered_getElem? column value
  cases own : t.isNumberColumn c.name with
  | true => exact absurd textual (simple.number c (List.mem_of_getElem? column) own)
  | false => exact files i c v column given own textual

/-- A new row that is accepted is stored, with the values that it was given. -/
theorem insertion_ok (simple : t.IsSimple) {context : Setting} {used : Int}
    {given : List (String × Value)} {i : Insertion} (h : t.insertion context used given = .ok i) :
    ∃ values, t.columns.mapM (fun c =>
        if t.isNumberColumn c.name then pure .null else newValue context given c) = .ok values ∧
      i.settled = some ⟨⟨i.number, t.numbered i.number values⟩, t.rows⟩ ∧
      t.RowsMove (.insert given) (place ⟨i.number, t.numbered i.number values⟩ t.rows) := by
  obtain ⟨number, next, h⟩ := bind_ok h
  obtain ⟨values, found, h⟩ := bind_ok h
  obtain ⟨settled, accepted, h⟩ := bind_ok h
  obtain ⟨rfl, apart, fills⟩ := accept_ok simple accepted
  rw [← Except.ok.inj h]
  refine ⟨values, found, rfl, .stored (.new next found) apart (fun _ => ?_) fun _ => fills⟩
  refine files_numbered simple number ?_
  intro i c v column value other textual
  have made := mapM_ok found column value
  simp only [other, Bool.false_eq_true, if_false, newValue] at made
  split at made
  · rw [← Except.ok.inj made, textual]
    exact size_store_text _
  · split at made
    · obtain ⟨w, -, rfl⟩ := map_ok made
      rw [textual]
      exact size_store_text w
    · rw [← Except.ok.inj made]
      rfl

theorem changedRow_ok {changes : List (String × Change)} {row next : Row}
    (h : t.changedRow changes row = .ok next) : ∃ number, next = ⟨number, t.numbered number
      ((t.columns.zip row.values).map fun (c, v) => changedValue changes c v)⟩ := by
  simp only [changedRow] at h
  split at h
  · exact ⟨row.number, (Except.ok.inj h).symm⟩
  · split at h
    · exact ⟨_, (Except.ok.inj h).symm⟩
    · cases h

theorem files_changed (simple : t.IsSimple) {changes : List (String × Change)} {row next : Row}
    (changed : t.changedRow changes row = .ok next) (filed : t.Files row) : t.Files next := by
  obtain ⟨number, rfl⟩ := changedRow_ok changed
  refine files_numbered simple number ?_
  intro i c v column value other textual
  rw [List.getElem?_map, Option.map_eq_some_iff] at value
  obtain ⟨⟨c', old⟩, pair, rfl⟩ := value
  obtain ⟨column', value⟩ := List.getElem?_zip_eq_some.mp pair
  rw [column] at column'
  obtain rfl := Option.some.inj column'
  show (changedValue changes c old).size? = none
  unfold changedValue
  split
  · rw [textual]
    exact size_store_text _
  · exact filed i c old column value textual

/-- Names of columns are apart, so each finds its own. -/
theorem IsSimple.place?_of_sameFold (simple : t.IsSimple) {i : Nat} {c : Column} {name : String}
    (column : t.columns[i]? = some c) (same : Text.sameFold name c.name = true) :
    t.place? name = some i := by
  obtain ⟨bound, rfl⟩ := List.getElem?_eq_some_iff.mp column
  refine List.findIdx?_eq_some_iff_getElem.mpr ⟨bound, ?_, fun j less => ?_⟩
  · rwa [Text.sameFold_comm]
  · have apart := List.pairwise_iff_getElem.mp simple.distinct j i (by simp; omega) (by simpa) less
    rw [List.getElem_map, List.getElem_map] at apart
    rw [Text.sameFold_iff] at same ⊢
    rw [same]
    exact apart

/-- A column that had a value has what the changes make of it. -/
theorem valueAt_changed {changes : List (String × Change)} {row next : Row}
    (changed : t.changedRow changes row = .ok next) {i : Nat} {c : Column}
    (column : t.columns[i]? = some c) (plain : t.isNumberColumn c.name = false)
    (before : (valueAt row i).isNull = false) :
    valueAt next i = changedValue changes c (valueAt row i) := by
  obtain ⟨number, rfl⟩ := changedRow_ok changed
  cases value : row.values[i]? with
  | none =>
    rw [valueAt, value] at before
    cases before
  | some v =>
    have pair : (t.columns.zip row.values)[i]? = some (c, v) :=
      List.getElem?_zip_eq_some.mpr ⟨column, value⟩
    have mapped : ((t.columns.zip row.values).map fun (c, v) => changedValue changes c v)[i]? =
        some (changedValue changes c v) := by
      rw [List.getElem?_map, pair]
      rfl
    rw [valueAt, numbered, List.getElem?_map,
      List.getElem?_zip_eq_some (z := (c, changedValue changes c v)).mpr ⟨column, mapped⟩]
    simp [plain, valueAt, value]

/-- What a change does not touch has the value that it had. -/
theorem fillsIn_changed (simple : t.IsSimple) {changes : List (String × Change)} {row next : Row}
    (changed : t.changedRow changes row = .ok next) (filled : t.FillsIn {} row)
    (fills : t.FillsIn (t.extentOf changes) next) : t.FillsIn {} next := by
  intro i c column needed other _
  by_cases touched : touches (t.extentOf changes) i = true
  · exact fills i c column needed other touched
  · have before := filled i c column needed other rfl
    have none : changes.reverse.find? (fun p => Text.sameFold p.1 c.name) = Option.none := by
      refine List.find?_eq_none.mpr fun p hp own => touched ?_
      have place := simple.place?_of_sameFold column own
      refine List.contains_iff_mem.mpr (List.mem_filterMap.mpr ?_)
      exact ⟨p, List.mem_reverse.mp hp, place⟩
    rw [valueAt_changed changed column other before, changedValue, none]
    exact before

theorem change_ok (simple : t.IsSimple) {context : Setting} {changes : List (String × Change)}
    {row : Row} (hr : row ∈ t.rows) {found : Option Settled}
    (h : t.change context changes row = .ok found) :
    ∃ next, found = some ⟨next, t.rows.filter fun r => r.number ≠ row.number⟩ ∧
      t.changedRow changes row = .ok next ∧
        t.RowsMove (.update changes) (t.storing next (some row)).rows := by
  obtain ⟨next, changed, accepted⟩ := bind_ok h
  obtain ⟨rfl, apart, fills⟩ := accept_ok simple accepted
  refine ⟨next, rfl, changed, .stored (.changed hr changed) apart (fun filed => ?_) fun filled => ?_⟩
  · exact files_changed simple changed (filed row hr)
  · exact fillsIn_changed simple changed (filled row hr) fills

/-- The row that some changes put in the place of another one. -/
def replacement (t : Table) (context : Setting) (changes : List (String × Change)) (row : Row) :
    Except Sql.Fault Row :=
  (t.change context changes row).map fun found => (found.map Settled.row).getD row

theorem replacement_ok (simple : t.IsSimple) {context : Setting} {changes : List (String × Change)}
    {row next : Row} (hr : row ∈ t.rows) (h : t.replacement context changes row = .ok next) :
    t.changedRow changes row = .ok next ∧
      t.RowsMove (.update changes) (t.storing next (some row)).rows := by
  obtain ⟨found, changed, rfl⟩ := map_ok h
  obtain ⟨next, rfl, made, move⟩ := change_ok simple hr changed
  exact ⟨made, move⟩

end Table

namespace Database

variable {db db' db'' : Database}

def IsSimple (db : Database) : Prop := ∀ t ∈ db.tables, t.IsSimple

def IsOrderly (db : Database) : Prop := ∀ t ∈ db.tables, t.IsOrderly

theorem IsSimple.of_bare (h : db.IsSimple)
    (bare : ∀ t ∈ db'.tables, t.bare ∈ db.tables.map Table.bare) : db'.IsSimple := by
  intro t ht
  obtain ⟨u, hu, same⟩ := List.mem_map.mp (bare t ht)
  exact (h u hu).of_bare same.symm

theorem RowFrame.bare {own : Prop} (h : RowFrame own db db') :
    ∀ t ∈ db'.tables, t.bare ∈ db.tables.map Table.bare := by
  intro t ht
  rw [← h.tables]
  exact List.mem_map_of_mem ht

theorem table?_congr {name name' : String} (same : Text.sameFold name name' = true) :
    db.table? name = db.table? name' := by
  rw [Text.sameFold_iff] at same
  refine congrArg (List.find? · db.tables) (funext fun t => ?_)
  rw [Bool.eq_iff_iff, Text.sameFold_iff, Text.sameFold_iff, same]

theorem table?_map_bare (db : Database) (name : String) : (db.table? name).map Table.bare =
    (db.tables.map Table.bare).find? fun t => Text.sameFold t.name name := by
  rw [List.find?_map]
  rfl

/-- What a statement on the rows of the table of a name comes to, write by write. A new row is
written once. -/
inductive RowWrite (name : String) (statement : Statement) (db : Database) : Database → Prop
  | refl : RowWrite name statement db db
  | counted {db' : Database} {sequences : Table} (last : Int) : RowWrite name statement db db' →
      sequences.bare = db'.sequences.bare →
      RowWrite name statement db { db' with sequences, lastInsert := last }
  | put {db' : Database} {t : Table} {rows : List Row} : RowWrite name statement db db' →
      (statement.IsInsert → db' = db) → db'.table? name = some t → t.RowsMove statement rows →
      RowWrite name statement db (db'.putTable { t with rows })

namespace RowWrite

variable {name : String} {statement : Statement}

theorem trans (h₁ : RowWrite name statement db db') (h₂ : RowWrite name statement db' db'')
    (many : ¬ statement.IsInsert) : RowWrite name statement db db'' := by
  induction h₂ with
  | refl => exact h₁
  | counted last _ same ih => exact ih.counted last same
  | put _ _ there move ih => exact ih.put (fun once => absurd once many) there move

theorem one {t : Table} {rows : List Row} (there : db.table? name = some t)
    (move : t.RowsMove statement rows) :
    RowWrite name statement db (db.putTable { t with rows }) :=
  RowWrite.refl.put (fun _ => rfl) there move

theorem of_sameFold {name' : String} (h : RowWrite name statement db db')
    (same : Text.sameFold name name' = true) : RowWrite name' statement db db' := by
  induction h with
  | refl => exact .refl
  | counted last _ same ih => exact ih.counted last same
  | put _ once there move ih =>
    rw [table?_congr same] at there
    exact ih.put once there move

theorem frame (h : RowWrite name statement db db') (tidy : db.Tidy) : RowFrame True db db' := by
  induction h with
  | refl => exact .refl _ db
  | counted last _ same ih => exact ih.trans (numbers_frame True _ last same)
  | @put d t rows _ _ there _ ih =>
    refine ih.trans ⟨?_, rfl, fun _ => rfl, fun _ => rfl, fun _ => rfl⟩
    obtain ⟨ht, -⟩ := table?_some there
    rw [putTable, List.map_map]
    refine List.map_congr_left fun u hu => ?_
    show (if Text.sameFold u.name t.name then _ else u).bare = u.bare
    split
    · rename_i same
      rw [(ih.tidy tidy).eq_of_sameFold hu ht same]
      rfl
    · rfl

/-- Other tables stay as they are, with all their rows. -/
theorem others (h : RowWrite name statement db db') :
    ∀ t ∈ db.tables, Text.sameFold t.name name = false → t ∈ db'.tables := by
  induction h with
  | refl => exact fun t ht _ => ht
  | counted _ _ _ ih => exact ih
  | @put d u rows _ _ there _ ih =>
    intro t ht other
    refine List.mem_map.mpr ⟨t, ih t ht other, if_neg fun same => ?_⟩
    have found := (table?_some there).2
    rw [Text.sameFold_iff] at same found
    rw [Text.sameFold_iff.mpr (same.trans found)] at other
    cases other

theorem orderly (h : RowWrite name statement db db') (orderly : db.IsOrderly) : db'.IsOrderly := by
  induction h with
  | refl => exact orderly
  | counted _ _ _ ih => exact ih
  | @put d u rows _ _ there move ih =>
    intro t ht
    obtain ⟨x, hx, rfl⟩ := List.mem_map.mp ht
    split
    · exact move.orderly (ih u (table?_some there).1)
    · exact ih x hx

theorem simple (h : RowWrite name statement db db') (tidy : db.Tidy) (simple : db.IsSimple) :
    db'.IsSimple :=
  simple.of_bare (h.frame tidy).bare

theorem map_bare_table? (h : RowWrite name statement db db') (tidy : db.Tidy) (other : String) :
    (db'.table? other).map Table.bare = (db.table? other).map Table.bare := by
  rw [table?_map_bare, table?_map_bare, (h.frame tidy).tables]

/-- A table that was there is there still, but for its rows. -/
theorem table? (h : RowWrite name statement db db') (tidy : db.Tidy) {t : Table} {other : String}
    (there : db.table? other = some t) : ∃ u, db'.table? other = some u ∧ u.bare = t.bare := by
  have same := h.map_bare_table? tidy other
  rw [there] at same
  exact Option.map_eq_some_iff.mp same

/-- Under another name stands what stood there, with all its rows. -/
theorem table?_other (h : RowWrite name statement db db') (tidy : db.Tidy) {other : String}
    (apart : Text.sameFold other name = false) : db'.table? other = db.table? other := by
  cases there : db.table? other with
  | none =>
    have same := h.map_bare_table? tidy other
    rw [there] at same
    exact Option.map_eq_none_iff.mp same
  | some t =>
    obtain ⟨ht, same⟩ := table?_some there
    rw [← Text.sameFold_congr same name] at apart
    rw [← table?_congr same]
    exact ((h.frame tidy).tidy tidy).table?_of_mem (h.others t ht apart)

end RowWrite

/-! ### Nothing follows -/

theorem putAny_free (tidy : db.Tidy) {t : Table} (free : IsUnkept t.name) :
    db.putAny t = db.putTable t := by
  unfold putAny
  rw [if_neg, if_neg]
  · intro engine
    obtain ⟨u, hu, same⟩ := List.any_eq_true.mp engine
    have mem : u.name ∈ engineTables := by
      rw [← engineTable_names]
      exact List.mem_map_of_mem hu
    exact free.ne (Or.inl mem) (of_decide_eq_true same).symm
  · rw [tidy.sequences]
    exact free.ne kept_sequence

theorem putTable_self (tidy : db.Tidy) {t : Table} (ht : t ∈ db.tables) : db.putTable t = db := by
  have same : (db.tables.map fun u => if Text.sameFold u.name t.name then t else u) = db.tables := by
    refine (List.map_congr_left fun u hu => ?_).trans (List.map_id _)
    split
    · rename_i own
      exact (tidy.eq_of_sameFold hu ht own).symm
    · rfl
  rw [putTable, same]

/-- Of two tables that are put in one place, the later one stays. -/
theorem putTable_putTable (db : Database) {t u : Table} (same : u.name = t.name) :
    (db.putTable t).putTable u = db.putTable u := by
  have later : ∀ v : Table, (if Text.sameFold (if Text.sameFold v.name t.name then t else v).name
      u.name then u else if Text.sameFold v.name t.name then t else v) =
        if Text.sameFold v.name u.name then u else v := by
    intro v
    rw [same]
    by_cases own : Text.sameFold v.name t.name = true
    · rw [if_pos own, if_pos own, if_pos (Text.sameFold_refl t.name)]
    · rw [if_neg own, if_neg own]
  simp only [putTable, List.map_map, Function.comp_def, later]

theorem current_of_table? {t u : Table} (there : db.table? t.name = some u) :
    db.current t = u := by
  simp only [current, anyTable?, there, Option.orElse_some, Option.getD_some]

/-- No row of such tables refers to another one. -/
theorem referrers_simple (simple : db.IsSimple) {t : Table} (free : IsUnkept t.name) :
    db.referrers t = [] := by
  refine List.flatMap_eq_nil_iff.mpr fun u hu => ?_
  rw [referring_free db free, List.mem_reverse] at hu
  rw [(simple u hu).unlinked]
  rfl

theorem followFault?_simple (simple : db.IsSimple) {t : Table} (there : t ∈ db.tables)
    (free : IsUnkept t.name) (isMeant isReferrerMeant : ForeignKey → Bool) :
    db.followFault? t isMeant isReferrerMeant = none := by
  rw [followFault?, Table.referenceFault?, (simple t there).unlinked, referrerFault?,
    referrers_simple simple free]
  rfl

theorem updateFaults_simple (simple : db.IsSimple) {t : Table} (there : t ∈ db.tables)
    (free : IsUnkept t.name) (x : Extent) : db.updateFaults t x = [] := by
  simp only [updateFaults, (simple t there).unlinked, referrers_simple simple free,
    followFault?_simple simple there free, List.any_nil, Bool.or_self, Bool.false_eq_true, if_false,
    Option.toList_none, List.append_nil]

theorem keepsReferences_simple (simple : db.IsSimple) {t : Table} (free : IsUnkept t.name) :
    db.keepsReferences t = true := by
  rw [keepsReferences, referring_free db free, List.all_eq_true]
  intro u hu
  rw [Table.keepsReferences, (simple u hu).unlinked]
  rfl

theorem follow_simple (context : Setting) (simple : db.IsSimple) {t : Table} (free : IsUnkept t.name)
    (old : Row) (new : Option Row) : follow context maxDepth db t old new = .ok db := by
  rw [maxDepth, follow, referrers_simple simple free]
  rfl

/-! ### Statements on rows -/

section Statements

variable {context : Setting} {t u : Table}

/-- Nothing follows from the removal of a row. -/
theorem removeRow_eq (row : Row) (tidy : db.Tidy) (simple : db.IsSimple)
    (there : db.table? t.name = some u) :
    db.removeRow context t row = .ok (db.putTable (u.withoutRow row.number)) := by
  have hu := (table?_some there).1
  simp only [removeRow, current_of_table? there]
  cases found : u.row? row.number with
  | none =>
    have all : u.rows.filter (fun r => decide (r.number ≠ row.number)) = u.rows := by
      refine List.filter_eq_self.mpr fun r hr => ?_
      simpa using List.find?_eq_none.mp found r hr
    rw [Table.withoutRow, all, putTable_self tidy hu]
  | some r =>
    have same : r.number = row.number := by simpa using List.find?_some found
    have free := tidy.free u hu
    have put : RowWrite t.name .delete db (db.putTable (u.withoutRow row.number)) :=
      .one there (.removed row.number)
    simp only
    rw [same, putAny_free (t := u.withoutRow row.number) tidy free,
      follow_simple context (put.simple tidy simple) free]

theorem removeRow_write {row : Row} (tidy : db.Tidy) (simple : db.IsSimple)
    (there : db.table? t.name = some u) (h : db.removeRow context t row = .ok db') :
    RowWrite t.name .delete db db' := by
  rw [removeRow_eq row tidy simple there] at h
  rw [← Except.ok.inj h]
  exact .one there (.removed row.number)

theorem removeRows_write {rows : List Row} (tidy : db.Tidy) (simple : db.IsSimple)
    (there : db.table? t.name = some u)
    (h : rows.foldlM (fun db row => removeRow db context t row) db = .ok db') :
    RowWrite t.name .delete db db' := by
  refine foldlM_invariant (RowWrite t.name .delete db) ?_ .refl h
  intro d row d' _ write step
  obtain ⟨v, now, -⟩ := write.table? tidy there
  exact write.trans
    (removeRow_write ((write.frame tidy).tidy tidy) (write.simple tidy simple) now step) id

/-- Where no row has to go, a row is put in its place. -/
theorem storeRow_kept {statement : Statement} {row : Row} {others : List Row} {old : Option Row}
    (tidy : db.Tidy) (simple : db.IsSimple) (there : db.table? t.name = some t)
    (kept : ∀ r ∈ t.rows, (∃ o ∈ others, o.number = r.number) ∨ ∃ o ∈ old, o.number = r.number)
    (move : t.RowsMove statement (t.storing row old).rows) :
    db.storeRow context t ⟨row, others⟩ old = .ok (db.putTable (t.storing row old)) := by
  have free := tidy.free t (table?_some there).1
  have none : t.rows.filter (fun r => !(others.any (fun other => other.number == r.number) ||
      old.any fun other => other.number == r.number)) = [] := by
    refine List.filter_eq_nil_iff.mpr fun r hr => ?_
    have stays : (others.any fun other => other.number == r.number) = true ∨
        (old.any fun other => other.number == r.number) = true := by
      simpa [Option.any_eq_true] using kept r hr
    rw [Bool.or_eq_true_iff.mpr stays]
    exact Bool.false_ne_true
  have current : db.current t = t := current_of_table? there
  rw [storeRow, none, List.foldlM_nil]
  show Except.bind (.ok db) _ = _
  rw [Except.bind]
  cases old with
  | none =>
    show Except.ok (db.putAny ((db.current t).withRow row)) = _
    rw [current, putAny_free (t := t.withRow row) tidy free]
    rfl
  | some was =>
    have put : RowWrite t.name statement db (db.putTable ((t.withoutRow was.number).withRow row)) :=
      .one (t := t) there move
    show follow context maxDepth (db.putAny (((db.current t).withoutRow was.number).withRow row))
      (db.current t) was (some row) = _
    rw [current, putAny_free (t := (t.withoutRow was.number).withRow row) tidy free,
      follow_simple context (put.simple tidy simple) free]
    rfl

/-- A changed row is put in place of the one that it was. -/
theorem storeRow_changed {statement : Statement} {row next : Row} (tidy : db.Tidy)
    (simple : db.IsSimple) (there : db.table? t.name = some t)
    (move : t.RowsMove statement (t.storing next (some row)).rows) :
    db.storeRow context t ⟨next, t.rows.filter fun r => r.number ≠ row.number⟩ (some row) =
      .ok (db.putTable (t.storing next (some row))) := by
  refine storeRow_kept tidy simple there (fun r hr => ?_) move
  by_cases own : r.number = row.number
  · exact Or.inr ⟨row, rfl, own.symm⟩
  · exact Or.inl ⟨r, List.mem_filter.mpr ⟨hr, by simpa using own⟩, rfl⟩

/-- A new row is put beside the others, and its number is kept. -/
theorem afterInsertion_ok {i : Table.Insertion} {used : Int} {given : List (String × Value)}
    {setting : Setting} (tidy : db.Tidy) (simple : db.IsSimple) (there : db.table? t.name = some t)
    (inserted : t.insertion setting used given = .ok i)
    (h : db.afterInsertion context t i = .ok db') : RowWrite t.name (.insert given) db db' ∧
      ∃ s, i.settled = some s ∧ s.row.number = db'.lastInsert ∧
        db'.tables = (db.putTable (t.withRow s.row)).tables := by
  obtain ⟨values, -, settled, move⟩ := Table.insertion_ok (simple t (table?_some there).1) inserted
  generalize row_eq : (⟨i.number, t.numbered i.number values⟩ : Row) = row at settled move
  have number : row.number = i.number := by rw [← row_eq]
  have stored : db.storeRow context t ⟨row, t.rows⟩ none = .ok (db.putTable (t.withRow row)) :=
    storeRow_kept tidy simple there (fun r hr => Or.inl ⟨r, hr, rfl⟩) move
  have put : RowWrite t.name (.insert given) db (db.putTable (t.withRow row)) := .one there move
  simp only [afterInsertion, settled, stored] at h
  suffices RowWrite t.name (.insert given) db db' ∧ i.number = db'.lastInsert ∧
      db'.tables = (db.putTable (t.withRow row)).tables from
    ⟨this.1, _, settled, number.trans this.2.1, this.2.2⟩
  replace h : (if (db.putTable (t.withRow row)).keepsReferences t then _ else _) =
      Except.ok db' := h
  split at h
  · replace h : (if t.isAutoincrement then _ else _) = Except.ok db' := h
    split at h
    · rw [← Except.ok.inj h]
      exact ⟨.counted i.number (.counted i.number put rfl) (raise_bare _ _ _), rfl, rfl⟩
    · rw [← Except.ok.inj h]
      exact ⟨.counted i.number put rfl, rfl, rfl⟩
  · cases h

/-- Rows are changed one after the other, each in its place. -/
theorem changeNumbered_cons {changes : List (String × Table.Change)} {number : Int}
    {numbers : List Int} (tidy : db.Tidy) (simple : db.IsSimple)
    (there : db.table? t.name = some u) :
    db.changeNumbered context t changes (number :: numbers) =
      match u.row? number with
      | none => db.changeNumbered context u changes numbers
      | some row => do
        let next ← u.replacement context changes row
        let (d, others) ← (db.putTable (u.storing next (some row))).changeNumbered context u changes
          numbers
        return (d, next :: others) := by
  have hu := (table?_some there).1
  simp only [changeNumbered, current_of_table? there]
  cases found : u.row? number with
  | none => rfl
  | some row =>
    have hr : row ∈ u.rows := List.mem_of_find?_eq_some found
    cases changed : u.change context changes row with
    | error f =>
      simp only [Table.replacement, changed]
      rfl
    | ok settled =>
      obtain ⟨next, rfl, -, move⟩ := Table.change_ok (simple u hu) hr changed
      simp only [Table.replacement, changed, Except.map, bind, Except.bind,
        storeRow_changed tidy simple (tidy.table?_of_mem hu) move]
      rfl

theorem changeNumbered_write {changes : List (String × Table.Change)} {numbers : List Int}
    {rows : List Row} (tidy : db.Tidy) (simple : db.IsSimple) (there : db.table? t.name = some u)
    (h : db.changeNumbered context t changes numbers = .ok (db', rows)) :
    RowWrite t.name (.update changes) db db' := by
  induction numbers generalizing db t u rows with
  | nil =>
    rw [changeNumbered] at h
    obtain ⟨rfl, -⟩ := Prod.mk.inj (Except.ok.inj h)
    exact .refl
  | cons n numbers ih =>
    obtain ⟨hu, same⟩ := table?_some there
    have now := tidy.table?_of_mem hu
    rw [changeNumbered_cons tidy simple there] at h
    split at h
    · exact (ih tidy simple now h).of_sameFold same
    · rename_i row found
      obtain ⟨next, replaced, h⟩ := bind_ok h
      obtain ⟨⟨d, others⟩, rest, h⟩ := bind_ok h
      obtain ⟨rfl, -⟩ := Prod.mk.inj (Except.ok.inj h)
      obtain ⟨-, move⟩ := Table.replacement_ok (simple u hu) (List.mem_of_find?_eq_some found) replaced
      have first : RowWrite u.name (.update changes) db (db.putTable (u.storing next (some row))) :=
        .one (t := u) now move
      obtain ⟨v, next, -⟩ := first.table? tidy now
      exact (first.trans (ih ((first.frame tidy).tidy tidy) (first.simple tidy simple) next
        rest) id).of_sameFold same

end Statements

/-! ### The operations -/

section Operations

variable {e : Entity} {ambient : Ambient}

theorem insertRow_write {data : ValueMap} (tidy : db.Tidy) (simple : db.IsSimple)
    (free : IsFree e.table) :
    RowWrite e.table (.insert (newValues e data ambient)) db (db.insertRow e data ambient).2 := by
  rcases insertRow_cases db e data ambient with ⟨last, eq⟩ | ⟨t, i, found, stored⟩
  · rw [eq]
    exact .counted last .refl rfl
  · obtain ⟨there, inserted⟩ := insertionInto_table tidy free.unkept found
    obtain ⟨ht, same⟩ := table?_some there
    exact (afterInsertion_ok tidy simple (tidy.table?_of_mem ht) inserted stored).1.of_sameFold same

theorem updateRow_write {key : String} {data : ValueMap} {row : ValueMap} (tidy : db.Tidy)
    (simple : db.IsSimple) (free : IsFree e.table)
    (h : db.updateRow e key data ambient = .ok (row, db')) :
    RowWrite e.table (.update (rowChanges e data ambient)) db db' := by
  rcases updateRow_ok h with ⟨-, rfl⟩ | ⟨conditions, t, first, others, -, found, changed⟩
  · exact .refl
  · obtain ⟨ht, same⟩ := table?_some (needTarget_table tidy free.unkept found)
    exact (changeNumbered_write tidy simple (tidy.table?_of_mem ht) changed).of_sameFold same

theorem deleteRow_write {key : String} (tidy : db.Tidy) (simple : db.IsSimple)
    (free : IsFree e.table) (h : db.deleteRow e key = .ok db') :
    RowWrite e.table .delete db db' := by
  obtain ⟨conditions, n, removed⟩ := deleteRow_ok h
  obtain ⟨t, rows, found, removed⟩ := deleteFrom_ok removed
  obtain ⟨ht, same⟩ := table?_some (needTarget_table tidy free.unkept found)
  exact (removeRows_write tidy simple (tidy.table?_of_mem ht) removed).of_sameFold same

end Operations

end Database

end EntityEngine.Store
