import EntityEngine.Proofs.Engine.DocumentWrites
import EntityEngine.Proofs.Engine.Documents
import EntityEngine.Proofs.Engine.TextQuery
import EntityEngine.Proofs.Query.Comparisons
import EntityEngine.Proofs.Time.ShownText

/-! Times as rows and bodies of documents show them, looked for as texts. A document stores times
that are cut off at the microsecond, with six digits of the second, and a query compares the texts;
so a shown time finds its document exactly if it needs six digits as well. -/

namespace EntityEngine

open Sql Store Time

/-! ### Stored times -/

/-- Both times are cut off at the microsecond. -/
def Audit.IsCut (a : Audit) : Prop := a.createdAt.IsCut ∧ a.updatedAt.IsCut

theorem Audit.isCut_fresh (actor : String) (now : Instant) : (Audit.fresh actor now.toMicros).IsCut :=
  ⟨now.isCut_toMicros, now.isCut_toMicros⟩

theorem Audit.IsCut.touched {a : Audit} (h : a.IsCut) (actor : String) (now : Instant) :
    (a.touched actor now.toMicros).IsCut := ⟨h.1, now.isCut_toMicros⟩

namespace Store.Database

variable {db db' : Database} {r : Record} {actor : String} {ambient : Ambient}

/-- The times of all documents are cut off at the microsecond. -/
def CutsTimes (db : Database) : Prop := ∀ r ∈ db.documents, r.audit.IsCut

theorem CutsTimes.insertRecord (cuts : db.CutsTimes) {entityId : Int} {code : String} {appId : Int}
    {data : ValueMap} (h : db.insertRecord entityId code appId data actor ambient = .ok (r, db')) :
    db'.CutsTimes := by
  obtain ⟨-, -, -, -, -, s, documents, -, same⟩ := insertRecord_stored h
  intro x hx
  rw [documents] at hx
  rcases List.mem_append.mp hx with hx | hx
  · exact cuts x hx
  · rw [List.mem_singleton.mp hx, same]
    exact Audit.isCut_fresh actor ambient.now

theorem CutsTimes.updateRecord (cuts : db.CutsTimes) {id : Int} {data : ValueMap}
    (h : db.updateRecord id data actor ambient = .ok (r, db')) : db'.CutsTimes := by
  unfold Database.updateRecord at h
  split at h
  · cases h
  · rename_i s found
    obtain ⟨-, rfl⟩ := Prod.mk.inj (Except.ok.inj h)
    intro x hx
    obtain ⟨y, hy, rfl⟩ := List.mem_map.mp hx
    split
    · exact (cuts s (List.mem_of_find?_eq_some found)).touched actor ambient.now
    · exact cuts y hy

end Store.Database

/-! ### Times in a run -/

theorem Engine.DocumentWrite.cutsTimes {g g' : Engine} {written : Option (Record × ValueMap)}
    (write : g.DocumentWrite g' written) (cuts : g.database.CutsTimes) :
    g'.database.CutsTimes := by
  cases write with
  | made _ _ inserted => exact cuts.insertRecord inserted
  | changed _ _ _ _ updated => exact cuts.updateRecord updated
  | less subset => exact fun r hr => cuts r (subset hr)

theorem PlainRun.cutsTimes {g : Engine} (h : PlainRun g) : g.database.CutsTimes := by
  induction h with
  | start baseUrl => exact fun r hr => nomatch hr
  | step op run plain ih => exact (op.documentWrite run.reached.inv run.owned plain).cutsTimes ih
  | reload baseUrl _ ih => exact ih

/-! ### What shows a time, and what finds it -/

/-- The time of a document under a name. -/
def Record.timeOf (r : Record) (name : String) : Instant :=
  if name = "created_at" then r.audit.createdAt else r.audit.updatedAt

/-- The row and the body of a document show a text under a name. -/
structure Record.ShowsText (r : Record) (e : Entity) (name text : String) : Prop where
  row : (r.row e).get? name = some (.text text)
  body : ∃ entries, r.toJson = .object entries ∧ ValueMap.get? entries name = some (.text text)

namespace Store.Database

/-- A query for a text under a name is answered, and it finds the document on one of its pages
exactly if the condition holds. -/
def FindsTextIff (db : Database) (e : Entity) (name text : String) (r : Record)
    (condition : Prop) : Prop :=
  ∀ (params : Params) (offset : Nat),
    params.lookup "$filter" = some (comparisonText name .eq text) →
    (QueryOptions.ofParams params).offset = .ok offset →
      (∃ page, db.queryRecords e (.ofParams params) = .ok page) ∧
        (db.FindsDocument e (.ofParams params) r ↔ condition)

end Store.Database

variable {e : Entity} {r : Record} {name : String} {db : Database}

theorem Audit.IsCut.timeOf (h : r.audit.IsCut) (name : String) : (r.timeOf name).IsCut := by
  unfold Record.timeOf
  split
  · exact h.1
  · exact h.2

/-- No name stands twice in the body of a document. -/
theorem Record.bodyNames_nodup : ["id", "record_id", "entity_id", "entity_code", "app_id", "data",
    "version", "status", "properties", "deleted", "created_by", "created_at", "updated_by",
    "updated_at"].Nodup := by decide

/-- Rows and bodies show a time in one and the same text. -/
theorem Record.showsText_timeOf (time : name = "created_at" ∨ name = "updated_at")
    (undeclared : e.declares name = false) : r.ShowsText e name (r.timeOf name).shown := by
  constructor
  · refine get?_row_of_system (p := (name, .text (r.timeOf name).shown)) ?_ undeclared
    rcases time with rfl | rfl <;> simp [systemValues, timeOf]
  · refine ⟨_, rfl, get?_insertAll_of_mem (p := (name, .text (r.timeOf name).shown)) ?_ ?_ []⟩
    · exact bodyNames_nodup
    rcases time with rfl | rfl <;> simp [Audit.entries, timeOf]

theorem operand_timeOf (time : name = "created_at" ∨ name = "updated_at")
    (undeclared : e.declares name = false) :
    documentReader r (Query.documentOperand e name) =
      { value := .text (r.timeOf name).stored, affinity := .text } := by
  rw [Query.documentOperand, undeclared, if_neg Bool.false_ne_true]
  rcases time with rfl | rfl <;> rfl

theorem QueryOptions.comparing_of_filter {o : QueryOptions} {op : Comparison} {value : Literal}
    (h : o.filter = some (.compare name op value)) : o.comparing name value op = o := by
  rw [comparing, ← h]

/-- A query for a text that is no number finds a document by a time exactly if it stores the time as
this text. -/
theorem findsTextIff_stored (time : name = "created_at" ∨ name = "updated_at")
    (undeclared : e.declares name = false) (hr : r ∈ db.documents) (app : r.appId = e.appId)
    (code : r.entityCode = e.code) (kept : r.deleted = false) {text : String}
    (word : number? text = none) :
    db.FindsTextIff e name text r ((r.timeOf name).stored = text) := by
  intro params offset asked paged
  have named : isIdentifier name = true := by rcases time with rfl | rfl <;> decide +kernel
  have filter := filter_comparisonText named asked
  obtain ⟨-, page, -, answered, -⟩ := compared_documents (e := e) filter paged db
  have condition : Query.documentCondition (Query.documentOperand e name)
      (.compare name .eq (.quoted text)) =
        .compare (Query.documentOperand e name) .eq (.text text) := by
    have none : (Literal.quoted text).number? = none := word
    rw [Query.documentCondition_word none, Literal.scalar_of_none word]
    rfl
  refine ⟨⟨page, answered⟩, ?_⟩
  rw [← QueryOptions.comparing_of_filter filter, Database.findsDocument_iff paged hr app code kept,
    condition, Condition.holds, operand_timeOf time undeclared]
  exact compares_text rfl rfl rfl (Or.inr rfl)

end EntityEngine
