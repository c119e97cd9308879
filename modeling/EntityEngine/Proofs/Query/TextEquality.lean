import EntityEngine.Proofs.Query.FilterText
import EntityEngine.Proofs.Sql.NumberText
import EntityEngine.Proofs.Store.RowSearch

/-! Queries for the records that hold a text in a field, or do not hold it. The text stands in
quotes in the filter, and is taken as a number all the same if it looks like one. -/

namespace EntityEngine

open Sql Store

theorem Sql.Asks.congr {op : Comparison} {p q : Prop} (h : p ↔ q) : Asks op p ↔ Asks op q := by
  unfold Asks
  split
  · exact h
  · exact not_congr h

variable {op : Comparison} {v name : String}

theorem Literal.scalar_of_none (number : EntityEngine.number? v = none) :
    (Literal.quoted v).scalar = .text v := by
  unfold scalar
  rw [show (quoted v).number? = none from number]

theorem Literal.scalar_of_some {n : Scalar} (number : EntityEngine.number? v = some n) :
    (Literal.quoted v).scalar = n := by
  unfold scalar
  rw [show (quoted v).number? = some n from number]

/-! ### Documents -/

namespace Store

variable {r : Record} {e : Entity}

theorem holds_documentCondition (equality : op.isOrdering = false)
    (stored : r.data.get? name = some (.text v)) :
    (Query.documentCondition (.member name) (.compare name op (.quoted v))).holds
      (documentReader r) = true ↔ Asks op (IsFoundInDocuments v) := by
  have read : documentReader r (.member name) = { value := .text v } := by
    show Reading.mk (storedValue ((r.data.get? name).getD .null)) .none .bytes = _
    rw [stored]
    rfl
  cases number : number? v with
  | none =>
    have condition : Query.documentCondition (.member name) (.compare name op (.quoted v)) =
        .compare (.member name) op (.text v) := by
      have asked : (Literal.quoted v).number? = none := number
      unfold Query.documentCondition
      simp only [asked, equality, Literal.scalar_of_none number, Bool.false_eq_true, if_false]
      rfl
    rw [condition, Condition.holds, compares_text equality (congrArg Reading.value read)
      (congrArg Reading.collation read) (Or.inl (congrArg Reading.affinity read))]
    exact Asks.congr (iff_of_true rfl (.text number))
  | some n =>
    have condition : Query.documentCondition (.member name) (.compare name op (.quoted v)) =
        .compareNumber (.member name) op (.ofScalar n) := by
      have asked : (Literal.quoted v).number? = some n := number
      unfold Query.documentCondition
      simp only [asked]
    have other := ne_text_of_number? number
    obtain ⟨k, left⟩ := exists_size_cast v
    obtain ⟨m, right⟩ := exists_size_ofScalar other
    rw [condition, Condition.holds, read, isFoundInDocuments_iff number, left, right,
      satisfies_sizes equality left ((size_convert n other).trans right)]
    exact Asks.congr Option.some_inj.symm

theorem not_tooLong_documentCondition {operand : Operand} {value : Literal} :
    (Query.documentCondition operand (.compare name op value)).isTooLong = false := by
  unfold Query.documentCondition
  dsimp only
  split
  · rfl
  · split <;> rfl

theorem documentOperand_field {f : Field} (hf : f ∈ e.fields) :
    Query.documentOperand e f.name = .member f.name := by
  have declared : e.declares f.name = true := by
    rw [Entity.declares, Entity.field?, List.find?_isSome]
    exact ⟨f, hf, by simp⟩
  rw [Query.documentOperand, if_pos declared]

theorem queryRecords_ok {o : QueryOptions} {plan : Selection}
    (planned : Query.overDocuments e o = .ok plan)
    (short : ∀ c ∈ plan.conditions, c.isTooLong = false) (db : Database) :
    ∃ page, db.queryRecords e o = .ok page ∧ page.items = (slice plan.limit.toNat plan.offset.toNat
      (db.selectDocuments plan.conditions plan.order)).map readBack := by
  have none : matchFault? plan.conditions documentReader db.documents = Option.none :=
    matchFault?_none short
  simp only [Database.queryRecords, planned, Except.mapError, bind, Except.bind, none]
  exact ⟨_, rfl, rfl⟩

/-- A query with a comparison is answered, and of the documents under the code it selects those for
which its condition holds. -/
theorem compared_documents {o : QueryOptions} {value : Literal}
    (filter : o.filter = some (.compare name op value)) {offset : Nat}
    (paged : o.offset = .ok offset) (db : Database) :
    ∃ plan page, Query.overDocuments e o = .ok plan ∧ db.queryRecords e o = .ok page ∧
      page.items = (slice plan.limit.toNat plan.offset.toNat
        (db.selectDocuments plan.conditions plan.order)).map readBack ∧
      ∀ r ∈ db.documents, r.appId = e.appId → r.entityCode = e.code → r.deleted = false →
        (r ∈ db.selectDocuments plan.conditions plan.order ↔
          (Query.documentCondition (Query.documentOperand e name) (.compare name op value)).holds
            (documentReader r) = true) := by
  obtain ⟨plan, planned, conditions⟩ : ∃ plan, Query.overDocuments e o = .ok plan ∧
      plan.conditions = Query.scope e ++
        [Query.documentCondition (Query.documentOperand e name) (.compare name op value)] := by
    refine ⟨_, by rw [Query.overDocuments, paged]; rfl, ?_⟩
    simp only [filter, Option.map_some, Option.toList_some, Filter.field]
  have short : ∀ c ∈ plan.conditions, c.isTooLong = false := by
    rw [conditions]
    intro c hc
    rcases List.mem_append.mp hc with scope | hc
    · simp only [Query.scope, List.mem_cons, List.not_mem_nil, or_false] at scope
      rcases scope with rfl | rfl | rfl <;> rfl
    · rw [List.mem_singleton.mp hc]
      exact not_tooLong_documentCondition
  obtain ⟨page, answered, items⟩ := queryRecords_ok planned short db
  refine ⟨plan, page, planned, answered, items, fun r hr app code kept => ?_⟩
  rw [Database.mem_selectDocuments, conditions, Reader.satisfiesAll, List.all_append,
    ← Reader.satisfiesAll, satisfies_scope.mpr ⟨app, code, kept⟩, List.all_cons, List.all_nil,
    Bool.and_true, Bool.true_and]
  exact and_iff_right hr

/-- A query for a text is answered, and of the documents that hold the text it selects those that it
asks for. -/
theorem query_documents {f : Field} (hf : f ∈ e.fields) (equality : op.isOrdering = false)
    {o : QueryOptions} (filter : o.filter = some (.compare f.name op (.quoted v))) {offset : Nat}
    (paged : o.offset = .ok offset) (db : Database) :
    ∃ plan page, Query.overDocuments e o = .ok plan ∧ db.queryRecords e o = .ok page ∧
      page.items = (slice plan.limit.toNat plan.offset.toNat
        (db.selectDocuments plan.conditions plan.order)).map readBack ∧
      ∀ r ∈ db.documents, r.appId = e.appId → r.entityCode = e.code → r.deleted = false →
        r.data.get? f.name = some (.text v) →
          (r ∈ db.selectDocuments plan.conditions plan.order ↔ Asks op (IsFoundInDocuments v)) := by
  obtain ⟨plan, page, planned, answered, items, selects⟩ :=
    compared_documents (e := e) filter paged db
  refine ⟨plan, page, planned, answered, items, fun r hr app code kept stored => ?_⟩
  rw [selects r hr app code kept, documentOperand_field hf,
    holds_documentCondition equality stored]

/-! ### Tables -/

variable {t : Table} {row : Row} {f : Field}

theorem holds_columnCondition (own : t.IsMadeOf e) (hf : f ∈ e.fields)
    (textual : f.type.isTextual = true) (equality : op.isOrdering = false)
    (stored : (t.reader row (.column f.name)).value = .text v) :
    (Query.columnCondition (.column f.name) (.compare f.name op (.quoted v))).holds
      (t.reader row) = true ↔ Asks op (IsFoundInColumn v) := by
  have kind := own.reader_textual hf textual row
  have bytes := (own.reader_field hf row).2
  cases number : number? v with
  | none =>
    have condition : Query.columnCondition (.column f.name) (.compare f.name op (.quoted v)) =
        .compare (.column f.name) op (.text v) := by
      rw [Query.columnCondition, Literal.scalar_of_none number]
      rfl
    rw [condition, Condition.holds, compares_text equality stored bytes (Or.inr kind)]
    exact Asks.congr (iff_of_true rfl (.text number))
  | some n =>
    have condition : Query.columnCondition (.column f.name) (.compare f.name op (.quoted v)) =
        .compare (.column f.name) op (.ofScalar n) := by
      rw [Query.columnCondition, Literal.scalar_of_some number]
    rw [condition, Condition.holds,
      compares_number equality stored bytes kind (ne_text_of_number? number)]
    exact Asks.congr (isFoundInColumn_iff number).symm

/-- A query of rows with a comparison is answered, and it selects those for which its condition
holds. -/
theorem compared_rows {o : QueryOptions} {value : Literal} {column : String}
    (filter : o.filter = some (.compare name op value)) (known : e.column? name = some column)
    {offset : Nat} (paged : o.offset = .ok offset) {db : Database}
    (there : db.needTable e.table = .ok t) :
    ∃ plan page, Query.overTable e o = .ok plan ∧ db.queryRows e o = .ok page ∧
      page.items = (slice plan.limit.toNat plan.offset.toNat
        (t.select e.columns plan.conditions plan.order)).map (fun row =>
          withKey e (shownRow e (t.reader row))) ∧
      ∀ row ∈ t.rows, (row ∈ t.select e.columns plan.conditions plan.order ↔
        (Query.columnCondition (.column column) (.compare name op value)).holds (t.reader row) =
          true) := by
  obtain ⟨plan, planned, conditions⟩ : ∃ plan, Query.overTable e o = .ok plan ∧
      plan.conditions = [Query.columnCondition (.column column) (.compare name op value)] := by
    refine ⟨_, by rw [Query.overTable, paged]; rfl, ?_⟩
    simp only [filter, Option.bind_some, Filter.field, known, Option.map_some, Option.toList_some]
  have short : ∀ c ∈ plan.conditions, c.isTooLong = false := by
    rw [conditions]
    intro c hc
    rw [List.mem_singleton.mp hc]
    rfl
  obtain ⟨page, answered, items⟩ := queryRows_ok planned there short
  refine ⟨plan, page, planned, answered, items, fun row hr => ?_⟩
  rw [Table.mem_select, conditions, Reader.satisfiesAll, List.all_cons, List.all_nil,
    Bool.and_true]
  exact and_iff_right hr

theorem query_rows (own : t.IsMadeOf e) (hf : f ∈ e.fields) (textual : f.type.isTextual = true)
    (free : isSystemColumn f.name = false) (equality : op.isOrdering = false)
    {o : QueryOptions} (filter : o.filter = some (.compare f.name op (.quoted v))) {offset : Nat}
    (paged : o.offset = .ok offset) {db : Database} (there : db.needTable e.table = .ok t) :
    ∃ plan page, Query.overTable e o = .ok plan ∧ db.queryRows e o = .ok page ∧
      page.items = (slice plan.limit.toNat plan.offset.toNat
        (t.select e.columns plan.conditions plan.order)).map (fun row =>
          withKey e (shownRow e (t.reader row))) ∧
      ∀ row ∈ t.rows, (t.reader row (.column f.name)).value = .text v →
        (row ∈ t.select e.columns plan.conditions plan.order ↔ Asks op (IsFoundInColumn v)) := by
  obtain ⟨plan, page, planned, answered, items, selects⟩ :=
    compared_rows filter (own.column?_field hf free) paged there
  refine ⟨plan, page, planned, answered, items, fun row hr stored => ?_⟩
  rw [selects row hr, holds_columnCondition own hf textual equality stored]

end Store

end EntityEngine
