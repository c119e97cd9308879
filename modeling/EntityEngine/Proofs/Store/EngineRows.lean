import EntityEngine.Proofs.Outcome
import EntityEngine.Proofs.Time.StoredReading
import EntityEngine.Store.EngineRows

/-! Rows of the engine's tables are read back. Each attribute has a column, numbers stay numbers and
names, times and JSON come back from their texts, as long as numbers have the sizes of their
columns. -/

namespace EntityEngine

open Time

/-- The texts of the times mean these times. -/
structure Audit.IsKept (a : Audit) : Prop where
  created : Instant.parse? a.createdAt.stored = some a.createdAt
  updated : Instant.parse? a.updatedAt.stored = some a.updatedAt

/-- A number of 32 bits. -/
def IsSmall (n : Int) : Prop := -0x80000000 ≤ n ∧ n < 0x80000000

instance (n : Int) : Decidable (IsSmall n) := inferInstanceAs (Decidable (_ ∧ _))

/-- JSON that is read back from its text. -/
def IsReread (v : Option Json) : Prop := ∀ j ∈ v, Json.parse? j.render = some j

/-- A field whose row is read back. -/
structure Field.IsKept (f : Field) : Prop where
  length : ∀ n ∈ f.length, n ≤ Number.maxNat32
  scale : ∀ n ∈ f.scale, n ≤ Number.maxNat32
  sortOrder : IsSmall f.sortOrder
  properties : IsReread f.properties
  audit : f.audit.IsKept

/-- A definition whose rows are read back. -/
structure Entity.IsKept (e : Entity) : Prop where
  sortOrder : IsSmall e.sortOrder
  properties : IsReread e.properties
  audit : e.audit.IsKept
  fields : ∀ f ∈ e.fields, f.IsKept
  sorted : e.fields.Pairwise fun f g => f.sortOrder ≤ g.sortOrder

namespace Store

open Sql

theorem decodeJson_encodeJson {v : Option Json} (h : IsReread v) : decodeJson (encodeJson v) = .ok v := by
  cases v with
  | none => rfl
  | some j =>
    have read := h j rfl
    simp only [encodeJson, Option.map_some, decodeJson, read]

theorem decodeName_name {parse? : String → Option α} {s column : String} {a : α}
    (h : parse? s = some a) : decodeName column parse? s = .ok a := by
  rw [decodeName, h]

namespace Cells

variable {c : Cells} (name : String)

theorem get_of_read {name : String} {read : Value → Option α} {a : α} (h : read (c.value name) = some a) :
    c.get read name = .ok a := by
  simp only [get, h]

theorem text_of_value (s : String) (h : c.value name = .text s) : c.text name = .ok s := by
  apply get_of_read
  rw [h]

theorem text?_of_value (s : Option String) (h : c.value name = optionalText s) :
    c.text? name = .ok s := by
  apply get_of_read
  rw [h]
  cases s <;> rfl

theorem integer_of_value (n : Int) (h : c.value name = .integer n) : c.integer name = .ok n := by
  apply get_of_read
  rw [h]

theorem small_of_value (n : Int) (small : IsSmall n) (h : c.value name = .integer n) :
    c.small name = .ok n := by
  apply get_of_read
  rw [h]
  exact if_pos small

theorem count?_of_value (n : Option Nat) (bound : ∀ m ∈ n, m ≤ Number.maxNat32)
    (h : c.value name = optionalNumber n) : c.count? name = .ok n := by
  apply get_of_read
  rw [h]
  cases n with
  | none => rfl
  | some m =>
    have small := bound m rfl
    show (if 0 ≤ (m : Int) ∧ (m : Int) ≤ Number.maxNat32 then some (some (m : Int).toNat) else none) = _
    rw [if_pos (by omega), Int.toNat_natCast]

theorem flag_of_value (b : Bool) (h : c.value name = .ofBool b) : c.flag name = .ok b := by
  apply get_of_read
  rw [h]
  cases b <;> rfl

end Cells

/-- The times of a row are read as the audit that wrote them. -/
theorem AuditText.decode_stored {a : Audit} (h : a.IsKept) :
    AuditText.decode ⟨a.createdBy, a.createdAt.stored, a.updatedBy, a.updatedAt.stored⟩ = .ok a := by
  simp only [AuditText.decode, decodeInstant, h.created, h.updated]
  rfl

theorem fieldOf_fieldRow {f : Field} (h : f.IsKept) (deleted : Bool) :
    fieldOf (fieldRow deleted f) = .ok (f, deleted) := by
  have type : FieldType.parse? f.type.name = some f.type := by cases f.type <;> decide
  have status := ItemStatus.ofName?_name f.status
  have text := @Cells.text_of_value (.ofRow .fields (Cells.names .fields) (fieldRow deleted f))
  have text? := @Cells.text?_of_value (.ofRow .fields (Cells.names .fields) (fieldRow deleted f))
  have flag := @Cells.flag_of_value (.ofRow .fields (Cells.names .fields) (fieldRow deleted f))
  have count? := @Cells.count?_of_value (.ofRow .fields (Cells.names .fields) (fieldRow deleted f))
  have integer := @Cells.integer_of_value (.ofRow .fields (Cells.names .fields) (fieldRow deleted f))
  have small := @Cells.small_of_value (.ofRow .fields (Cells.names .fields) (fieldRow deleted f))
  simp only [fieldOf, Cells.audit, integer "entity_id" f.entityId rfl,
    small "sort_order" f.sortOrder h.sortOrder rfl, text "field_name" f.name rfl,
    text "field_code" f.code rfl, text? "display_name" f.displayName rfl,
    text? "description" f.description rfl, text "field_type" f.type.name rfl,
    text "db_type" f.columnType rfl, count? "field_length" f.length h.length rfl,
    count? "decimal_places" f.scale h.scale rfl, flag "is_primary_key" f.isKey rfl,
    flag "is_not_null" f.isNotNull rfl, flag "is_unique" f.isUnique rfl,
    flag "is_indexed" f.isIndexed rfl, text? "default_value" f.default rfl,
    text "status" f.status.name rfl, text? "validation_rules" f.rules rfl,
    text? "properties" (encodeJson f.properties) rfl,
    text "created_by" f.audit.createdBy rfl, text "created_at" f.audit.createdAt.stored rfl,
    text "updated_by" f.audit.updatedBy rfl, text "updated_at" f.audit.updatedAt.stored rfl,
    flag "deleted" deleted rfl]
  simp only [bind, Except.bind, pure, Except.pure, FieldRow.decode, decodeName_name type,
    decodeName_name status, decodeJson_encodeJson h.properties, AuditText.decode_stored h.audit]
  rfl

/-- The row of a definition is read as the definition, next to the fields that are its own among
those of all definitions. -/
theorem entityOf_entityRow {e : Entity} (h : e.IsKept) {fields : List (Field × Bool)}
    (own : (fields.filter fun (f, deleted) => f.entityId = e.id && deleted == e.deleted) =
      e.fields.map fun f => (f, e.deleted)) :
    entityOf fields (entityRow e) = .ok e := by
  have kind := EntityKind.ofName?_name e.kind
  have status := EntityStatus.ofName?_name e.status
  have text := @Cells.text_of_value (.ofRow .definitions (Cells.names .definitions) (entityRow e))
  have text? := @Cells.text?_of_value (.ofRow .definitions (Cells.names .definitions) (entityRow e))
  have flag := @Cells.flag_of_value (.ofRow .definitions (Cells.names .definitions) (entityRow e))
  have integer :=
    @Cells.integer_of_value (.ofRow .definitions (Cells.names .definitions) (entityRow e))
  have small := @Cells.small_of_value (.ofRow .definitions (Cells.names .definitions) (entityRow e))
  have sorted : sortFields e.fields = e.fields := by
    apply List.mergeSort_of_pairwise
    exact h.sorted.imp fun le => decide_eq_true le
  have read : (e.fields.map fun f => (f, e.deleted)).map Prod.fst = e.fields := by
    rw [List.map_map]
    exact List.map_id _
  simp only [entityOf, Cells.audit, small "sort_order" e.sortOrder h.sortOrder rfl,
    text "entity_name" e.name rfl,
    text "entity_code" e.code rfl, text "table_name" e.table rfl,
    text? "display_name" e.displayName rfl, text? "description" e.description rfl,
    integer "app_id" e.appId rfl, text "entity_type" e.kind.name rfl,
    text "status" e.status.name rfl, flag "auto_create_table" e.autoCreate rfl,
    flag "table_created" e.tableCreated rfl, integer "version" e.version rfl,
    text? "properties" (encodeJson e.properties) rfl,
    text "created_by" e.audit.createdBy rfl, text "created_at" e.audit.createdAt.stored rfl,
    text "updated_by" e.audit.updatedBy rfl, text "updated_at" e.audit.updatedAt.stored rfl,
    flag "deleted" e.deleted rfl]
  simp only [bind, Except.bind, pure, Except.pure, EntityRow.decode, decodeName_name kind,
    decodeName_name status, decodeJson_encodeJson h.properties, AuditText.decode_stored h.audit,
    List.mapM_nil]
  have number : (entityRow e).number = e.id := rfl
  simp only [number, own, read, sorted]

end Store

end EntityEngine
