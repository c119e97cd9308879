import EntityEngine.Query.Options
import EntityEngine.Sql.Selection

/-!
The selection that answers a query, over the documents of an entity or over its table. On
documents a comparison with a number, and every comparison of order, takes the stored value as a
number; the columns of a table are compared as they are. Without an order the newest come first.
-/

namespace EntityEngine.Query

open Number Sql

/-- The columns of a stored document. -/
def recordColumns : List String :=
  ["id", "record_id", "entity_id", "entity_code", "app_id", "data_json", "version", "status",
    "properties", "created_by", "created_at", "updated_by", "updated_at", "deleted"]

/-- The system attributes of a document that queries may name. -/
def storedNames : List String := ["created_at", "updated_at", "version", "status"]

/-- What a name means on documents: a declared field is a value of the document, whatever its
name; otherwise `id` is the record's identifier, and the other system attributes are columns. -/
def documentOperand (e : Entity) (name : String) : Operand :=
  if e.declares name then .member name
  else if name = "id" then .plain "record_id"
  else if storedNames.contains name then .plain name
  else .member name

/-- A filter as a condition on documents. -/
def documentCondition (operand : Operand) : Filter → Condition
  | .test _ t value => .like operand (t.pattern value)
  | .compare _ op value =>
    match value.number? with
    | some n => .compareNumber operand op (.ofScalar n)
    | none =>
      if op.isOrdering then .compareNumbers operand op value.text
      else .compare operand op (.ofScalar value.scalar)

/-- A filter as a condition on a column. -/
def columnCondition (operand : Operand) : Filter → Condition
  | .test _ t value => .like operand (t.pattern value)
  | .compare _ op value => .compare operand op (.ofScalar value.scalar)

/-- The largest offset that a statement can carry. -/
def boundedOffset (offset : Nat) : Int := min (offset : Int) maxInt64

/-- The documents of an entity. -/
def scope (e : Entity) : List Condition := [
  .compare (.plain "app_id") .eq (.integer e.appId),
  .compare (.plain "entity_code") .eq (.text e.code),
  .kept]

/-- The newest documents first. -/
def documentOrder : List OrderTerm :=
  [⟨.plain "created_at", .descending⟩, ⟨.plain "id", .descending⟩]

/-- The selection of documents that answers a query. -/
def overDocuments (e : Entity) (o : QueryOptions) : Except Overflow Selection := do
  let offset ← o.offset
  return {
    source := .documents
    columns := recordColumns.map .plain
    conditions := scope e ++
      (o.filter.map fun f => documentCondition (documentOperand e f.field) f).toList
    order :=
      if o.orderBy.isEmpty then documentOrder
      else o.orderBy.map fun c => ⟨documentOperand e c.field, c.direction⟩
    limit := o.top
    offset := boundedOffset offset }

/-- The newest rows first. -/
def tableOrder : Layout → List OrderTerm
  | .template => [⟨.column "created_at", .descending⟩, ⟨.column "id", .descending⟩]
  | .native => [⟨.plain "rowid", .descending⟩]

/-- The terms of an order, if each names a column. -/
def columnOrder? (e : Entity) (clauses : List OrderClause) : Option (List OrderTerm) :=
  clauses.mapM fun c => (e.column? c.field).map fun column => ⟨.column column, c.direction⟩

/-- The selection of rows that answers a query. A filter on a name that is no column is left out,
and so is an order with such a name in it. -/
def overTable (e : Entity) (o : QueryOptions) : Except Overflow Selection := do
  let offset ← o.offset
  return {
    source := .table e.table
    columns := e.columns.map .column
    conditions :=
      (o.filter.bind fun f =>
        (e.column? f.field).map fun column => columnCondition (.column column) f).toList
    order :=
      match columnOrder? e o.orderBy with
      | some [] | none => tableOrder e.layout
      | some terms => terms
    limit := o.top
    offset := boundedOffset offset }

end EntityEngine.Query
