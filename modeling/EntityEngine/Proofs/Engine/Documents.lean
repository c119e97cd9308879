import EntityEngine.Proofs.Engine.Ownership
import EntityEngine.Proofs.Record.Preparation
import EntityEngine.Proofs.Query.TextEquality
import EntityEngine.Proofs.Store.ShownValues

/-! What is stored as a document is what every way of reading gives back, as long as no operation
names the document: by its id and under its identifier, in lists, and in the rows of queries, which
show system values besides under names that are not declared. -/

namespace EntityEngine

open Store

variable {g g' : Engine} {e : Entity} {r s : Record} {d values : ValueMap}

/-! ### Data that reads back -/

/-- Every value is read back from its own text. -/
def ValueMap.ReadsBack (d : ValueMap) : Prop := ∀ p ∈ d, Json.parse? p.2.render = some p.2

theorem readBack_of_readsBack (h : s.data.ReadsBack) : readBack s = s := by
  have same : s.data.map (fun p => (p.1, p.2.reread)) = s.data := by
    refine (List.map_congr_left fun p hp => ?_).trans (List.map_id _)
    show (p.1, (Json.parse? p.2.render).getD p.2) = p
    rw [h p hp]
    rfl
  show { s with data := s.data.map fun p => (p.1, p.2.reread) } = s
  rw [same]

/-! ### Reading a document -/

namespace Engine

/-- Whatever way of reading leads to the document gives it as it is, and every way does. -/
structure Shows (g : Engine) (e : Entity) (s : Record) : Prop where
  record : g.record s.id = .ok s
  byKey : (g.recordByKey e.id s.recordId).1 = .ok (.document s)
  list : ∀ page size records, (g.listRecords e.appId e.code page size).1 = .ok records →
    ∀ r, .document r ∈ records → r.id = s.id → r = s
  listed : ∀ size, g.database.documents.length ≤ size →
    ∃ records, (g.listRecords e.appId e.code 1 size).1 = .ok records ∧ .document s ∈ records
  query : ∀ options result, (g.query e.appId e.code options).1 = .ok result →
    ∃ page, g.database.queryRecords e options = .ok page ∧
      result.rows = page.items.map (fun r => options.project (r.row e)) ∧
      ∀ r ∈ page.items, r.id = s.id → r = s
  queried : ∀ options, options.filter = none → options.offset = .ok 0 →
    g.database.documents.length ≤ options.top →
      ∃ result, (g.query e.appId e.code options).1 = .ok result ∧
        options.project (s.row e) ∈ result.rows

/-- A first page without a filter that has room for all documents has every one of the entity. -/
theorem queryRecords_whole {db : Database} {o : QueryOptions} (all : o.filter = none)
    (first : o.offset = .ok 0) (large : db.documents.length ≤ o.top) :
    ∃ page, db.queryRecords e o = .ok page ∧ ∀ r ∈ db.documents, r.appId = e.appId →
      r.entityCode = e.code → r.deleted = false → readBack r ∈ page.items := by
  obtain ⟨plan, planned, conditions, limit, offset⟩ : ∃ plan, Query.overDocuments e o = .ok plan ∧
      plan.conditions = Query.scope e ∧ plan.limit.toNat = o.top ∧ plan.offset.toNat = 0 := by
    refine ⟨_, by rw [Query.overDocuments, first]; rfl, ?_, rfl, rfl⟩
    simp only [all, Option.map_none, Option.toList_none, List.append_nil]
  obtain ⟨page, answered, items⟩ := queryRecords_ok planned (fun c hc => by
    rw [conditions] at hc
    simp only [Query.scope, List.mem_cons, List.not_mem_nil, or_false] at hc
    rcases hc with rfl | rfl | rfl <;> rfl) db
  refine ⟨page, answered, fun r hr app code kept => ?_⟩
  have few : (db.selectDocuments plan.conditions plan.order).length ≤ o.top := by
    rw [Database.selectDocuments, Sql.sortRows, List.length_mergeSort]
    exact (List.length_filter_le _ _).trans large
  rw [items, limit, offset, slice, List.drop_zero, List.take_of_length_le few, conditions]
  exact List.mem_map_of_mem
    (Database.mem_selectDocuments.mpr ⟨hr, satisfies_scope.mpr ⟨app, code, kept⟩⟩)

theorem record_ok (owned : g.database.Owned) (hs : s ∈ g.database.documents) :
    g.record s.id = .ok (readBack s) := by
  have found : g.database.document? s.id = some s := by
    cases found : g.database.document? s.id with
    | none => exact absurd (List.find?_eq_none.mp found s hs) (by simp)
    | some r =>
      have id : r.id = s.id := by simpa using List.find?_some found
      rw [owned.eq_of_id (List.mem_of_find?_eq_some found) hs id]
  rw [record, Database.record?, found, Option.map_some]

/-- Every document of a definition without a table shows, if its data reads back. -/
theorem shows (inv : g.Inv) (owned : g.database.Owned) (he : e ∈ g.database.live)
    (unmade : e.tableCreated = false) (hs : s ∈ g.database.documents) (own : s.entityId = e.id)
    (reads : s.data.ReadsBack) : g.Shows e s := by
  have same := readBack_of_readsBack reads
  obtain ⟨d, hd, id, app, code⟩ := owned.owner s hs
  obtain rfl := inv.sound.eq_of_id hd (Database.mem_live.mp he).1 (id.trans own)
  have kept := owned.kept s hs
  have only : ∀ r ∈ g.database.documents, (readBack r).id = s.id → readBack r = s := by
    intro r hr same'
    rw [owned.eq_of_id hr hs same', same]
  constructor
  case record => rw [record_ok owned hs, same]
  case byKey =>
    have finds := (findsOwn_readBack inv owned he unmade hs own).2
    rwa [same] at finds
  case list =>
    intro page size records answer r hr id
    rw [listRecords_documents inv he unmade] at answer
    obtain ⟨found, listed, rfl⟩ := map_ok answer
    obtain ⟨r', hr', eq⟩ := List.mem_map.mp hr
    obtain rfl := StoredRecord.document.inj eq
    obtain ⟨x, hx, rfl, -⟩ := Database.mem_listRecords (during_ok listed) hr'
    exact only x hx id
  case listed =>
    intro size large
    obtain ⟨records, listed, whole⟩ := g.database.listRecords_whole d
      (large.trans (Nat.le_max_left size 1))
    refine ⟨records.map .document, ?_, List.mem_map_of_mem ?_⟩
    · rw [listRecords_documents inv he unmade, Nat.max_self, listed]
      rfl
    · have shown := whole s hs app.symm code.symm kept
      rwa [same] at shown
  case query =>
    intro options result answer
    obtain ⟨page, queried, rows⟩ := query_documents inv he unmade answer
    refine ⟨page, queried, rows, fun r hr id => ?_⟩
    obtain ⟨x, hx, rfl, -⟩ := Database.mem_queryRecords queried hr
    exact only x hx id
  case queried =>
    intro options all first large
    obtain ⟨page, queried, whole⟩ := queryRecords_whole (e := d) all first large
    have shown := whole s hs app.symm code.symm kept
    rw [same] at shown
    simp only [query, inv.resolve_live he, foundRows, unmade, queried, during, Except.mapError,
      Except.map]
    refine ⟨_, rfl, ?_⟩
    rw [List.map_map]
    exact List.mem_map_of_mem shown

end Engine

/-! ### A document that is kept -/

/-- What the services may come to while no operation names a document: other operations follow, each
of which may fail, and the services may be started anew. -/
inductive Since (s : Record) (g : Engine) : Engine → Prop
  | refl : Since s g g
  | step {g' : Engine} (op : Operation) : Since s g g' → op.IsPlain g' → ¬ op.Names s →
      Since s g (op.run g')
  | reload {g' : Engine} (baseUrl : String) : Since s g g' →
      Since s g (Engine.start g'.database baseUrl)

namespace Since

theorem plainRun (since : Since s g g') (h : PlainRun g) : PlainRun g' := by
  induction since with
  | refl => exact h
  | step op _ plain _ ih => exact .step op ih plain
  | reload baseUrl _ ih => exact .reload baseUrl ih

theorem mem (since : Since s g g') (h : PlainRun g) (hs : s ∈ g.database.documents) :
    s ∈ g'.database.documents := by
  induction since with
  | refl => exact hs
  | step op before plain other ih =>
    have run := before.plainRun h
    have move := (op.run_documents run.reached.inv run.owned plain).1
    exact run.owned.mem_of_move move ih other
  | reload _ _ ih => exact ih

end Since

/-- The stored document is the one that is given, but for the times, which are cut short. -/
theorem Store.Database.insertRecord_stored {db db' : Database} {entityId appId : Int} {code : String}
    {actor : String} {ambient : Ambient}
    (h : db.insertRecord entityId code appId d actor ambient = .ok (r, db')) :
    r.data = d ∧ r.audit = .fresh actor ambient.now ∧ r.appId = appId ∧ r.entityCode = code ∧
      r.deleted = false ∧ ∃ s, db'.documents = db.documents ++ [s] ∧ s.entityId = entityId ∧
        s = { r with audit := .fresh actor ambient.now.toMicros } := by
  obtain ⟨id, -, h⟩ := bind_ok h
  obtain ⟨-, h⟩ := unless_ok h
  obtain ⟨-, h⟩ := unless_ok h
  obtain ⟨rfl, rfl⟩ := Prod.mk.inj (Except.ok.inj h)
  exact ⟨rfl, rfl, rfl, rfl, rfl, _, useIds_documents _ _ _, rfl, rfl⟩

/-- A document that is made is given as it is inserted into the documents. -/
theorem Engine.createRecord_inserts (inv : g.Inv) (he : e ∈ g.database.live)
    (unmade : e.tableCreated = false) {actor : String} {ambient : Ambient} {stored : StoredRecord}
    (created : (g.createRecord e.appId e.code values actor ambient).1 = .ok stored) :
    ∃ r, stored = .document r ∧
      g.database.insertRecord e.id e.code e.appId (values.restrict e.declares) actor ambient =
        .ok (r, (g.createRecord e.appId e.code values actor ambient).2.database) := by
  simp only [createRecord, inv.resolve_live he, unmade, Bool.false_eq_true, if_false] at created ⊢
  cases prepared : prepareValues e values with
  | error f =>
    rw [prepared] at created
    cases created
  | ok data =>
    rw [prepared] at created
    obtain rfl := prepareValues_ok prepared
    simp only at created ⊢
    cases inserted : g.database.insertRecord e.id e.code e.appId (values.restrict e.declares) actor
        ambient with
    | error f =>
      rw [inserted] at created
      cases created
    | ok p =>
      rw [inserted] at created
      exact ⟨p.1, (Except.ok.inj created).symm, rfl⟩

theorem Engine.createRecord_document (inv : g.Inv) (he : e ∈ g.database.live)
    (unmade : e.tableCreated = false) {actor : String} {ambient : Ambient} {stored : StoredRecord}
    (created : (g.createRecord e.appId e.code values actor ambient).1 = .ok stored) :
    ∃ r s, stored = .document r ∧ r.data = values.restrict e.declares ∧
      s ∈ (g.createRecord e.appId e.code values actor ambient).2.database.documents ∧
      s.entityId = e.id ∧ s = { r with audit := s.audit } := by
  obtain ⟨r, answer, inserted⟩ := createRecord_inserts inv he unmade created
  obtain ⟨data, -, -, -, -, s, documents, own, same⟩ := Database.insertRecord_stored inserted
  refine ⟨r, s, answer, data, ?_, own, by rw [same]⟩
  rw [documents]
  exact List.mem_append_right _ (List.mem_singleton_self s)

/-- In every run whose statements hold no further ones, a document that is stored is given back with
the declared values and no others; every way of reading it afterwards gives them again, a row agrees
with them and shows system values besides; and whatever follows, but an update or a removal of the
document, its id gives it as it was stored, and so do all other ways while its definition is there
without a table. -/
theorem document_round_trip (h : PlainRun g) (he : e ∈ g.database.live)
    (unmade : e.tableCreated = false) {actor : String} {ambient : Ambient} {stored : StoredRecord}
    (created : (g.createRecord e.appId e.code values actor ambient).1 = .ok stored)
    (reads : (values.restrict e.declares).ReadsBack) :
    ∃ r s, stored = .document r ∧ r.data = values.restrict e.declares ∧ s.data = r.data ∧
      s.id = r.id ∧ s.recordId = r.recordId ∧
      (g.createRecord e.appId e.code values actor ambient).2.Shows e s ∧
      (∀ key v, r.data.get? key = some v → (s.row e).get? key = some v) ∧
      (∀ key, (s.row e).contains key = true → r.data.contains key = true ∨
        key ∈ ["id", "version", "status", "created_at", "updated_at"] ∧
          e.declares key = false) ∧
      ∀ g', Since s (g.createRecord e.appId e.code values actor ambient).2 g' →
        g'.record r.id = .ok s ∧ ∀ e' ∈ g'.database.live, e'.id = e.id → e'.tableCreated = false →
          g'.Shows e' s := by
  have inv := h.reached.inv
  obtain ⟨r, s, rfl, data, hs, own, same⟩ := Engine.createRecord_document inv he unmade created
  have id : s.id = r.id := by rw [same]
  have sameData : s.data = r.data := by rw [same]
  have reads' : s.data.ReadsBack := by rwa [sameData, data]
  -- The new engine is one of a run itself, so its documents can be read and kept from there on.
  have run : PlainRun (g.createRecord e.appId e.code values actor ambient).2 :=
    .step (.createRecord e.appId e.code values actor ambient) h fun _ _ makes => nomatch makes
  have step : Engine.RecordStep _ _ (fun _ => True) g _ :=
    Engine.createRecord_step inv e.appId e.code values actor ambient
  have he' : e ∈ (g.createRecord e.appId e.code values actor ambient).2.database.live := by
    rw [step.live]
    exact he
  refine ⟨r, s, rfl, data, sameData, id, by rw [same],
    Engine.shows run.reached.inv run.owned he' unmade hs own reads', ?_, ?_, ?_⟩
  · intro key v there
    have declared : e.declares key = true := by
      rw [data] at there
      obtain ⟨before, after, eq, -⟩ := List.lookup_eq_some_iff.mp there
      have mem : (key, v) ∈ values.restrict e.declares := by simp [eq]
      exact ValueMap.keep_of_restrict mem
    rw [Record.get?_row_of_declares declared, sameData]
    exact there
  · intro key there
    rw [← sameData]
    exact Record.contains_row there
  · intro g' since
    have run' := since.plainRun run
    have hs' := since.mem run hs
    constructor
    · rw [← id, Engine.record_ok run'.owned hs', readBack_of_readsBack reads']
    · intro e' he' same' unmade'
      exact Engine.shows run'.reached.inv run'.owned he' unmade' hs' (own.trans same'.symm) reads'

/-- The note is declared with its one field. -/
def DeclaresNote (db : Database) : Prop :=
  (db.entity? 1).any (fun e => !e.tableCreated && e.appId == 1 && e.code == "note" &&
    ValueMap.restrict e.declares [("body", .text "first")] == [("body", .text "first")]) = true

instance (db : Database) : Decidable (DeclaresNote db) := inferInstanceAs (Decidable (_ = true))

/-- A note shows as it is stored, also once its definition is deleted. -/
theorem note_round_trip : ∃ e s, s.data = [("body", .text "first")] ∧ notes.Shows e s ∧
    (deleteNote.run notes).record s.id = .ok s := by
  have declared : DeclaresNote (declareNote.run (.start .empty "")).database := by decide +kernel
  rw [DeclaresNote, Option.any_eq_true] at declared
  obtain ⟨e, found, facts⟩ := declared
  simp only [Bool.and_eq_true, beq_iff_eq, Bool.not_eq_true'] at facts
  obtain ⟨⟨⟨unmade, app⟩, code⟩, restricted⟩ := facts
  have he := List.mem_of_find?_eq_some found
  obtain ⟨stored, created⟩ : ∃ stored, ((declareNote.run (.start .empty "")).createRecord e.appId
      e.code [("body", .text "first")] "a" ⟨⟨0, 0⟩, "r", "c"⟩).1 = .ok stored := by
    have done : ((declareNote.run (.start .empty "")).createRecord 1 "note"
        [("body", .text "first")] "a" ⟨⟨0, 0⟩, "r", "c"⟩).1.toOption.isSome = true := by
      decide +kernel
    rw [app, code]
    cases created : ((declareNote.run (.start .empty "")).createRecord 1 "note"
        [("body", .text "first")] "a" ⟨⟨0, 0⟩, "r", "c"⟩).1 with
    | error f =>
      rw [created] at done
      cases done
    | ok stored => exact ⟨stored, rfl⟩
  have reads : (ValueMap.restrict e.declares [("body", .text "first")]).ReadsBack := by
    rw [restricted]
    intro p hp
    rw [List.mem_singleton.mp hp]
    decide +kernel
  obtain ⟨r, s, -, data, same, id, -, shows, -, -, later⟩ :=
    document_round_trip plainRun_declaredNotes he unmade created reads
  rw [app, code] at shows later
  refine ⟨e, s, same.trans (data.trans restricted), shows, ?_⟩
  rw [id]
  exact (later _ (.step deleteNote .refl (Operation.isPlain_of_none rfl) fun names => names)).1

end EntityEngine
