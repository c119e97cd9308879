import EntityEngine.Proofs.Query.Parameters
import EntityEngine.Proofs.Store.Chronology

/-! Results in pages. A page starts at a multiple of its size, so the pages of a result make it up
one after the other, and the page that a number of skipped rows leads to is the one on which the
next row stands. -/

namespace EntityEngine

open Number Sql Store

/-! ### Pages of a list -/

/-- A list in pages of a size: none is empty, and all but the last one are full. -/
structure IsPaged {α : Type} (size : Nat) (whole : List α) (pages : List (List α)) : Prop where
  flatten : pages.flatten = whole
  filled : ∀ page ∈ pages, page ≠ []
  full : ∀ page ∈ pages.dropLast, page.length = size
  /-- What stands at a place of the list stands on the page of the place. -/
  place : ∀ k, (pages.getD (k / size) [])[k % size]? = whole[k]?

def pagesOf {α : Type} (size : Nat) (whole : List α) : List (List α) :=
  (List.range ((whole.length + size - 1) / size)).map fun i => slice size (i * size) whole

section

variable {α : Type} {size i : Nat} {whole : List α}

theorem length_slice (limit offset : Nat) (l : List α) :
    (slice limit offset l).length = min limit (l.length - offset) := by
  rw [slice, List.length_take, List.length_drop]

theorem slice_map {β : Type} (f : α → β) (limit offset : Nat) (l : List α) :
    slice limit offset (l.map f) = (slice limit offset l).map f := by
  rw [slice, slice, List.map_take, List.map_drop]

/-- A page is there if something is left for it. -/
theorem lt_pages_iff (some : 0 < size) :
    i < (whole.length + size - 1) / size ↔ i * size < whole.length := by
  rw [← Nat.succ_le_iff, Nat.le_div_iff_mul_le some, Nat.succ_mul]
  omega

theorem getD_pagesOf (some : 0 < size) (i : Nat) :
    (pagesOf size whole).getD i [] = slice size (i * size) whole := by
  rw [pagesOf, List.getD_eq_getElem?_getD, List.getElem?_map]
  by_cases inside : i < (whole.length + size - 1) / size
  · rw [List.getElem?_range inside]
    rfl
  · have beyond : (List.range ((whole.length + size - 1) / size))[i]? = none := by
      rw [List.getElem?_eq_none_iff, List.length_range]
      omega
    rw [lt_pages_iff some] at inside
    rw [beyond, slice, List.drop_eq_nil_of_le (by omega), List.take_nil]
    rfl

theorem flatten_slices (size : Nat) (whole : List α) (n : Nat) :
    ((List.range n).map fun i => slice size (i * size) whole).flatten =
      whole.take (n * size) := by
  induction n with
  | zero => rw [Nat.zero_mul]; rfl
  | succ n ih =>
    rw [List.range_succ, List.map_append, List.flatten_append, ih, Nat.succ_mul, List.take_add]
    simp [slice]

theorem isPaged_pagesOf (some : 0 < size) (whole : List α) :
    IsPaged size whole (pagesOf size whole) where
  flatten := by
    have all : ¬ (whole.length + size - 1) / size < (whole.length + size - 1) / size :=
      Nat.lt_irrefl _
    rw [lt_pages_iff some] at all
    rw [pagesOf, flatten_slices, List.take_of_length_le (by omega)]
  filled := by
    intro page hp
    obtain ⟨i, hi, rfl⟩ := List.mem_map.mp hp
    have left := (lt_pages_iff some).mp (List.mem_range.mp hi)
    refine List.ne_nil_of_length_pos ?_
    rw [length_slice]
    omega
  full := by
    intro page hp
    rw [pagesOf, ← List.map_dropLast, List.dropLast_eq_take, List.take_range,
      List.length_range] at hp
    obtain ⟨i, hi, rfl⟩ := List.mem_map.mp hp
    have next : i + 1 < (whole.length + size - 1) / size := by
      have := List.mem_range.mp hi
      omega
    rw [lt_pages_iff some, Nat.succ_mul] at next
    rw [length_slice]
    omega
  place := by
    intro k
    rw [getD_pagesOf some, slice, List.getElem?_take_of_lt (Nat.mod_lt k some), List.getElem?_drop,
      Nat.div_add_mod']

end

/-! ### Pages of a selection -/

namespace Query

variable {e : Entity} {o : QueryOptions} {offset : Nat}

/-- What a filter asks of documents, besides that they are those of the entity. -/
def documentConditions (e : Entity) (filter : Option Filter) : List Condition :=
  scope e ++ (filter.map fun f => documentCondition (documentOperand e f.field) f).toList

/-- What a filter asks of rows: nothing, if it names no column. -/
def columnConditions (e : Entity) (filter : Option Filter) : List Condition :=
  (filter.bind fun f =>
    (e.column? f.field).map fun column => columnCondition (.column column) f).toList

/-- What a filter asks of the records of an entity. -/
def conditions (e : Entity) (filter : Option Filter) : List Condition :=
  if e.tableCreated then columnConditions e filter else documentConditions e filter

end Query

/-- A number of skipped rows leads to the start of a page, if its page can be counted. -/
theorem QueryOptions.offset_of_skip {o : QueryOptions} (some : 0 < o.top)
    (counted : o.skip / o.top + 1 ≤ maxNat32) : o.offset = .ok (o.skip / o.top * o.top) := by
  have page : o.page = .ok (o.skip / o.top + 1) := by
    rw [QueryOptions.page, Nat.max_eq_left some, add32, if_pos counted]
  rw [(Query.offset_eq page).1, Nat.add_sub_cancel]

namespace Store

variable {db : Database} {e : Entity} {o : QueryOptions} {t : Table} {offset : Nat}

/-- The answer of a query on documents, the newest first, is a part of all that meet its
conditions. -/
theorem Database.queryRecords_newest (plain : o.orderBy = []) (paged : o.offset = .ok offset)
    (small : offset ≤ maxNat32)
    (answers :
      matchFault? (Query.documentConditions e o.filter) documentReader db.documents = none) :
    db.queryRecords e o =
      let found := db.selectDocuments (Query.documentConditions e o.filter) Query.documentOrder
      .ok {
        items := (slice o.top offset found).map readBack
        total := if o.count then some found.length else none } := by
  have planned : Query.overDocuments e o = .ok {
      source := .documents
      columns := Query.recordColumns.map .plain
      conditions := Query.documentConditions e o.filter
      order := Query.documentOrder
      limit := o.top
      offset := (offset : Int) } := by
    rw [Query.overDocuments, paged, plain]
    simp only [bind, Except.bind, Query.boundedOffset_eq small]
    rfl
  simp only [queryRecords, planned, Except.mapError, bind, Except.bind, answers]
  rfl

/-- The answer of a query on a table. -/
theorem Database.queryRows_newest (plain : o.orderBy = []) (paged : o.offset = .ok offset)
    (small : offset ≤ maxNat32) (there : db.needTable e.table = .ok t)
    (answers : t.matchFault? (Query.columnConditions e o.filter) = none) :
    db.queryRows e o =
      let found := t.select e.columns (Query.columnConditions e o.filter)
        (Query.tableOrder e.layout)
      .ok {
        items := (slice o.top offset found).map (t.shown e)
        total :=
          if o.count then some (t.count (Query.columnConditions e o.filter)) else none } := by
  have planned : Query.overTable e o = .ok {
      source := .table e.table
      columns := e.columns.map .column
      conditions := Query.columnConditions e o.filter
      order := Query.tableOrder e.layout
      limit := o.top
      offset := (offset : Int) } := by
    rw [Query.overTable, paged, plain]
    simp only [bind, Except.bind, Query.boundedOffset_eq small]
    rfl
  simp only [queryRows, planned, Except.mapError, bind, Except.bind, there, answers]
  rfl

end Store

end EntityEngine
