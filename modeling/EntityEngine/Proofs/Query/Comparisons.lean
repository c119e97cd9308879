import EntityEngine.Proofs.Query.TextEquality
import EntityEngine.Proofs.Store.ShownValues

/-! The six comparisons of a field with a literal, taken together. None of them selects a record
without a value in the field. Of any other record equality and inequality tell the same, and where
all six compare in one order, they tell whether the value is below the literal, at it or above. -/

namespace EntityEngine

open Sql Store

/-- Comparisons that hold as they do at one place of an order: below, at or above another one. -/
structure IsTrichotomy (holds : Comparison → Prop) : Prop where
  one : (holds .lt ∧ ¬ holds .eq ∧ ¬ holds .gt) ∨ (¬ holds .lt ∧ holds .eq ∧ ¬ holds .gt) ∨
    (¬ holds .lt ∧ ¬ holds .eq ∧ holds .gt)
  ne : holds .ne ↔ ¬ holds .eq
  le : holds .le ↔ holds .lt ∨ holds .eq
  ge : holds .ge ↔ holds .gt ∨ holds .eq

theorem IsTrichotomy.congr {p q : Comparison → Prop} (h : IsTrichotomy p)
    (same : ∀ op, q op ↔ p op) : IsTrichotomy q := by
  rw [funext fun op => propext (same op)]
  exact h

/-- How comparisons of one field with literals agree: a record that has no value there meets none,
any other one meets either equality or inequality, and has a place beside the literals that are
ordered. -/
structure AreConsistent (given : Prop) (ordered : Literal → Prop)
    (holds : Literal → Comparison → Prop) : Prop where
  none : ¬ given → ∀ value op, ¬ holds value op
  equality : given → ∀ value, holds value .ne ↔ ¬ holds value .eq
  order : given → ∀ value, ordered value → IsTrichotomy (holds value)

theorem AreConsistent.congr {given given' : Prop} {ordered : Literal → Prop}
    {p q : Literal → Comparison → Prop} (h : AreConsistent given ordered p)
    (present : given' ↔ given) (same : ∀ value op, q value op ↔ p value op) :
    AreConsistent given' ordered q where
  none absent value op := by
    rw [same]
    exact h.none (mt present.mpr absent) value op
  equality some value := by
    rw [same, same]
    exact h.equality (present.mp some) value
  order some value known := (h.order (present.mp some) value known).congr (same value)

/-! ### Values -/

namespace Sql

theorem isTrichotomy_answers (o : Ordering) : IsTrichotomy fun op => answers op o = true := by
  cases o <;> exact ⟨by decide, by decide, by decide, by decide⟩

variable {a b : Value} {r : Reading}

theorem satisfies_null (null : a.isNull = true) (op : Comparison) : satisfies op a b = false := by
  rw [satisfies, null]
  rfl

theorem isTrichotomy_satisfies (left : a.isNull = false) (right : b.isNull = false) :
    IsTrichotomy fun op => satisfies op a b = true := by
  refine (isTrichotomy_answers (a.order b)).congr fun op => ?_
  rw [satisfies, left, right]
  exact Iff.rfl

theorem Reading.compares_null (null : r.value.isNull = true) (op : Comparison) :
    r.compares op b = false := by
  rw [compares, null]
  rfl

theorem Reading.isTrichotomy_compares (left : r.value.isNull = false) (right : b.isNull = false) :
    IsTrichotomy fun op => r.compares op b = true := by
  refine (isTrichotomy_answers ((r.affinity.aligned r.value b).1.orderBy r.collation
    (r.affinity.aligned r.value b).2)).congr fun op => ?_
  rw [compares, left, right]
  exact Iff.rfl

theorem Value.isNull_ofScalar (n : Scalar) : (ofScalar n).isNull = false := by cases n <;> rfl

end Sql

/-! ### Conditions -/

namespace Query

/-- On a column all comparisons are made in one order, whatever the literal. -/
theorem consistent_columnCondition (read : Reader) (operand : Operand) (name : String) :
    AreConsistent ((read operand).value.isNull = false) (fun _ => True) fun value op =>
      (columnCondition operand (.compare name op value)).holds read = true where
  none absent value op := by
    rw [Bool.not_eq_false] at absent
    show ¬ (read operand).compares op (.ofScalar value.scalar) = true
    rw [Reading.compares_null absent]
    exact Bool.false_ne_true
  equality some value :=
    (Reading.isTrichotomy_compares some (Value.isNull_ofScalar value.scalar)).ne
  order some value _ := Reading.isTrichotomy_compares some (Value.isNull_ofScalar value.scalar)

theorem documentCondition_number {value : Literal} {n : Scalar} (number : value.number? = some n)
    (operand : Operand) (name : String) (op : Comparison) :
    documentCondition operand (.compare name op value) =
      .compareNumber operand op (.ofScalar n) := by
  unfold documentCondition
  simp only [number]

theorem documentCondition_word {value : Literal} (number : value.number? = none)
    (operand : Operand) (name : String) (op : Comparison) :
    documentCondition operand (.compare name op value) =
      if op.isOrdering then .compareNumbers operand op value.text
      else .compare operand op (.ofScalar value.scalar) := by
  unfold documentCondition
  simp only [number]

/-- On documents a number is compared as one under all six comparisons. Another literal is compared
as it is for equality, and as the number that it starts with for order. -/
theorem consistent_documentCondition (read : Reader) (operand : Operand) (name : String) :
    AreConsistent ((read operand).value.isNull = false) (fun value => value.number?.isSome = true)
      fun value op => (documentCondition operand (.compare name op value)).holds read = true := by
  have number : ∀ {value : Literal} {n : Scalar}, value.number? = some n →
      (read operand).value.isNull = false → IsTrichotomy fun op =>
        (documentCondition operand (.compare name op value)).holds read = true := by
    intro value n number some
    refine (isTrichotomy_satisfies (a := cast (read operand).value)
      (b := Affinity.numeric.convert (.ofScalar n)) ?_ ?_).congr fun op => ?_
    · rw [Value.isNull_cast, some]
    · rw [Value.isNull_convert, Value.isNull_ofScalar]
    · rw [documentCondition_number number]
      exact Iff.rfl
  constructor
  · intro absent value op
    rw [Bool.not_eq_false] at absent
    have cast : (cast (read operand).value).isNull = true := by rw [Value.isNull_cast, absent]
    rw [Bool.not_eq_true]
    cases read' : value.number? with
    | some n =>
      rw [documentCondition_number read']
      exact satisfies_null cast op
    | none =>
      rw [documentCondition_word read']
      split
      · exact satisfies_null cast op
      · exact Reading.compares_null absent op
  · intro some value
    cases read' : value.number? with
    | some n => exact (number read' some).ne
    | none =>
      -- For equality both sides are compared as they are, and only for order as numbers.
      rw [documentCondition_word read', documentCondition_word read']
      exact (Reading.isTrichotomy_compares some (Value.isNull_ofScalar value.scalar)).ne
  · intro some value known
    obtain ⟨n, read'⟩ := Option.isSome_iff_exists.mp known
    exact number read' some

end Query

/-! ### Queries -/

/-- A query with a comparison in place of its filter. -/
def QueryOptions.comparing (o : QueryOptions) (name : String) (value : Literal)
    (op : Comparison) : QueryOptions := { o with filter := some (.compare name op value) }

namespace Store.Database

/-- A query is answered, and the document is among those that it finds, on one of its pages. -/
def FindsDocument (db : Database) (e : Entity) (o : QueryOptions) (r : Record) : Prop :=
  ∃ plan page, Query.overDocuments e o = .ok plan ∧ db.queryRecords e o = .ok page ∧
    page.items = (slice plan.limit.toNat plan.offset.toNat
      (db.selectDocuments plan.conditions plan.order)).map readBack ∧
    r ∈ db.selectDocuments plan.conditions plan.order

/-- A query is answered, and the row of the table is among those that it finds. -/
def FindsRow (db : Database) (e : Entity) (t : Table) (o : QueryOptions) (row : Row) : Prop :=
  ∃ plan page, Query.overTable e o = .ok plan ∧ db.queryRows e o = .ok page ∧
    page.items = (slice plan.limit.toNat plan.offset.toNat
      (t.select e.columns plan.conditions plan.order)).map (t.shown e) ∧
    row ∈ t.select e.columns plan.conditions plan.order

variable {db : Database} {e : Entity} {o : QueryOptions} {name : String} {value : Literal}
  {op : Comparison} {offset : Nat} {r : Record} {t : Table} {column : String} {row : Row}

theorem findsDocument_iff (paged : o.offset = .ok offset) (hr : r ∈ db.documents)
    (app : r.appId = e.appId) (code : r.entityCode = e.code) (kept : r.deleted = false) :
    db.FindsDocument e (o.comparing name value op) r ↔
      (Query.documentCondition (Query.documentOperand e name) (.compare name op value)).holds
        (documentReader r) = true := by
  obtain ⟨plan, page, planned, answered, items, selects⟩ :=
    compared_documents (e := e) (o := o.comparing name value op) rfl paged db
  rw [← selects r hr app code kept]
  constructor
  · rintro ⟨plan', _, planned', -, -, found⟩
    rw [Except.ok.inj (planned.symm.trans planned')]
    exact found
  · exact fun found => ⟨plan, page, planned, answered, items, found⟩

theorem findsRow_iff (paged : o.offset = .ok offset) (there : db.needTable e.table = .ok t)
    (known : e.column? name = some column) (hr : row ∈ t.rows) :
    db.FindsRow e t (o.comparing name value op) row ↔
      (Query.columnCondition (.column column) (.compare name op value)).holds (t.reader row) =
        true := by
  obtain ⟨plan, page, planned, answered, items, selects⟩ :=
    compared_rows (o := o.comparing name value op) rfl known paged there
  rw [← selects row hr]
  constructor
  · rintro ⟨plan', _, planned', -, -, found⟩
    rw [Except.ok.inj (planned.symm.trans planned')]
    exact found
  · exact fun found => ⟨plan, page, planned, answered, items, found⟩

end Store.Database

end EntityEngine
