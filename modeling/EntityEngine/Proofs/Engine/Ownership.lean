import EntityEngine.Proofs.Engine.Agreement

/-! Documents and their definitions, in runs whose statements hold no further ones. Every document
carries the code of the definition that it belongs to. A code is free again once its definition is
deleted, but the documents stay; so the lists of a new definition under the code show them as
well. -/

namespace EntityEngine

open Store

/-- The runs in which no text of a table holds further statements. -/
inductive PlainRun : Engine → Prop
  | start (baseUrl : String) : PlainRun (Engine.start .empty baseUrl)
  | step {g : Engine} (op : Operation) : PlainRun g → op.IsPlain g → PlainRun (op.run g)
  | reload {g : Engine} (baseUrl : String) : PlainRun g → PlainRun (Engine.start g.database baseUrl)

variable {g g' : Engine}

theorem PlainRun.reached (h : PlainRun g) : Reached g := by
  induction h with
  | start baseUrl => exact .start baseUrl
  | step op _ plain ih => exact .step op ih (plain.leavesDefinitions ih.inv)
  | reload baseUrl _ ih => exact .reload baseUrl ih

/-! ### Definitions keep their codes -/

namespace Store.Database

variable {db db' db'' : Database}

/-- Every definition stays, deleted or not, under its id and its code. -/
def KeepsCodes (db db' : Database) : Prop :=
  ∀ d ∈ db.entities, ∃ d' ∈ db'.entities, d'.id = d.id ∧ d'.appId = d.appId ∧ d'.code = d.code

namespace KeepsCodes

theorem of_entities (same : db'.entities = db.entities) : KeepsCodes db db' := by
  intro d hd
  rw [← same] at hd
  exact ⟨d, hd, rfl, rfl, rfl⟩

theorem trans (h₁ : KeepsCodes db db') (h₂ : KeepsCodes db' db'') : KeepsCodes db db'' := by
  intro d hd
  obtain ⟨d', hd', id, app, code⟩ := h₁ d hd
  obtain ⟨d'', hd'', id', app', code'⟩ := h₂ d' hd'
  exact ⟨d'', hd'', id'.trans id, app'.trans app, code'.trans code⟩

theorem owns (h : KeepsCodes db db') {r : Record} (owns : db.Owns r) : db'.Owns r := by
  obtain ⟨d, hd, id, app, code⟩ := owns
  obtain ⟨d', hd', id', app', code'⟩ := h d hd
  exact ⟨d', hd', id'.trans id, app'.trans app, code'.trans code⟩

theorem changeEntity {id : Int} {change : Entity → Entity}
    (mild : ∀ d ∈ db.entities, d.id = id → Mild d (change d)) :
    KeepsCodes db (db.changeEntity id change) := by
  intro d hd
  refine ⟨_, mem_changeEntity.mpr ⟨d, hd, rfl⟩, ?_⟩
  split
  · rename_i same
    have mild := mild d hd same
    exact ⟨mild.id, mild.appId, mild.code⟩
  · exact ⟨rfl, rfl, rfl⟩

theorem marked (db : Database) (id : Int) (created : Bool) :
    KeepsCodes db (db.marked id created) :=
  changeEntity fun d _ _ => mild_mark d created

end KeepsCodes

end Store.Database

/-! ### Documents in a run -/

namespace Operation.Move

variable {op : Operation}

theorem keepsCodes (move : op.Move g g') (inv : g.Inv) : g.database.KeepsCodes g'.database := by
  cases move with
  | records step => exact .of_entities step.entities
  | created _ _ c =>
    intro d hd
    exact ⟨d, by rw [Engine.register, c.entities]; exact List.mem_append_left _ hd, rfl, rfl, rfl⟩
  | @replaced id e e' database _ r =>
    have kept : g.database.KeepsCodes (g.database.changeEntity id fun _ => e') := by
      refine .changeEntity fun d hd same => ?_
      obtain ⟨he, id⟩ := inv.sound.entity?_iff.mp r.found
      rw [inv.sound.eq_of_id hd (Database.mem_live.mp he).1 (same.trans id.symm)]
      exact r.mild
    exact kept.trans (.of_entities ((r.frame True).entities trivial))
  | deleted _ _ deletes => exact .changeEntity fun d _ _ => (deletes d).2
  | @dropped e change _ _ _ deletes d =>
    have kept : g.database.KeepsCodes (g.database.changeEntity e.id change) :=
      .changeEntity fun d _ _ => (deletes d).2
    exact (kept.trans (.of_entities d.entities)).trans (.marked _ _ false)

theorem documents (move : op.Move g g') (owned : g.database.Owned) :
    g.database.DocumentMove op.Adds op.Names g'.database.documents := by
  have same : g'.database.documents = g.database.documents →
      g.database.DocumentMove op.Adds op.Names g'.database.documents := by
    intro eq
    rw [eq]
    exact .same
  cases move with
  | records step => exact step.move owned
  | created _ _ c => exact same ((c.frame True).documents trivial)
  | replaced _ r => exact same ((r.frame True).documents trivial)
  | deleted _ _ _ => exact .same
  | dropped _ _ _ d => exact same d.documents

end Operation.Move

/-- A table without further statements is made beside the documents. -/
theorem Engine.makeTable_documents (inv : g.Inv) {e : Entity} (plain : e.tableText.further = []) :
    (g.makeTable e).2.database.documents = g.database.documents ∧
      g.database.KeepsCodes (g.makeTable e).2.database := by
  rcases makeTable_cases g e with ⟨-, eq⟩ | ⟨made, created, ⟨-, eq⟩ | ⟨-, eq⟩⟩
  · rw [eq]
    exact ⟨rfl, .of_entities rfl⟩
  · obtain ⟨entities, documents, -⟩ := (Database.made_of_createTable inv.tidy created).rest plain
    rw [eq]
    exact ⟨documents, (Database.KeepsCodes.of_entities entities).trans (.marked made e.id true)⟩
  · obtain ⟨entities, documents, -⟩ := (Database.made_of_createTable inv.tidy created).rest plain
    rw [eq]
    exact ⟨documents, .of_entities entities⟩

/-- An operation without further statements keeps every document that it does not name, and every
definition's code. -/
theorem Operation.run_documents (inv : g.Inv) (owned : g.database.Owned) (op : Operation)
    (plain : op.IsPlain g) :
    g.database.DocumentMove op.Adds op.Names (op.run g).database.documents ∧
      g.database.KeepsCodes (op.run g).database := by
  rcases op.run_cases inv with ⟨-, move⟩ | ⟨e, g', makes, move, -, -, eq⟩
  · exact ⟨move.documents owned, move.keepsCodes inv⟩
  · obtain ⟨documents, codes⟩ :=
      Engine.makeTable_documents (move.inv inv) (plain e g'.database makes)
    rw [eq, documents]
    exact ⟨move.documents owned, (move.keepsCodes inv).trans codes⟩

theorem PlainRun.owned (h : PlainRun g) : g.database.Owned := by
  induction h with
  | start baseUrl => exact Database.empty_owned
  | step op run plain ih =>
    obtain ⟨documents, codes⟩ := op.run_documents run.reached.inv ih plain
    exact ih.move documents fun _ => codes.owns
  | reload baseUrl _ ih => exact ih

/-! ### What lists and queries show -/

namespace Engine

variable {e : Entity}

/-- The lists of a definition without a table are those of its documents. -/
theorem listRecords_documents (inv : g.Inv) (he : e ∈ g.database.live)
    (unmade : e.tableCreated = false) (page size : Nat) :
    (g.listRecords e.appId e.code page size).1 = (during ("list records of entity " ++ e.code)
      (g.database.listRecords e.appId e.code (max page 1) (max size 1))).map
        fun records => records.map .document := by
  simp only [listRecords, inv.resolve_live he, unmade, Bool.false_eq_true, if_false]

theorem recordByKey_document (inv : g.Inv) (he : e ∈ g.database.live)
    (unmade : e.tableCreated = false) {key : String} {r : Record}
    (found : g.database.recordByKey? e.id key = some r) :
    (g.recordByKey e.id key).1 = .ok (.document r) := by
  simp only [recordByKey, inv.resolveId_live he, unmade, Bool.false_eq_true, if_false, found]

/-- The rows of an answer are those of documents, or rows of the definition's table. -/
theorem query_rows (inv : g.Inv) (he : e ∈ g.database.live) {o : QueryOptions}
    {result : QueryResult} (h : (g.query e.appId e.code o).1 = .ok result) :
    (e.tableCreated = false ∧ ∃ page, g.database.queryRecords e o = .ok page ∧
      result.rows = page.items.map fun r => o.project (r.row e)) ∨
    (e.tableCreated = true ∧ ∃ page, g.database.queryRows e o = .ok page ∧
      result.rows = page.items.map o.project) := by
  simp only [query, inv.resolve_live he] at h
  obtain ⟨shown, found, rfl⟩ := map_ok h
  unfold foundRows at found
  cases created : e.tableCreated with
  | true =>
    rw [created, if_pos rfl] at found
    exact Or.inr ⟨rfl, shown, during_ok found, rfl⟩
  | false =>
    rw [created, if_neg Bool.false_ne_true] at found
    obtain ⟨page, queried, rfl⟩ := map_ok found
    exact Or.inl ⟨rfl, page, during_ok queried, List.map_map⟩

theorem query_documents (inv : g.Inv) (he : e ∈ g.database.live) (unmade : e.tableCreated = false)
    {o : QueryOptions} {result : QueryResult} (h : (g.query e.appId e.code o).1 = .ok result) :
    ∃ page, g.database.queryRecords e o = .ok page ∧
      result.rows = page.items.map fun r => o.project (r.row e) :=
  ((query_rows inv he h).resolve_right fun table => by simp [unmade] at table).2

theorem query_table (inv : g.Inv) (he : e ∈ g.database.live) (created : e.tableCreated = true)
    {o : QueryOptions} {result : QueryResult} (h : (g.query e.appId e.code o).1 = .ok result) :
    ∃ page, g.database.queryRows e o = .ok page ∧ result.rows = page.items.map o.project :=
  ((query_rows inv he h).resolve_left fun documents => by simp [created] at documents).2

/-- A record is a document of the definition, and its identifier finds it. -/
def FindsOwn (g : Engine) (e : Entity) (r : Record) : Prop :=
  r.entityId = e.id ∧ (g.recordByKey e.id r.recordId).1 = .ok (.document r)

/-- Whatever the lists and the queries of a definition show are documents of its own. -/
structure ListsOwn (g : Engine) (e : Entity) : Prop where
  list : ∀ page size records, (g.listRecords e.appId e.code page size).1 = .ok records →
    ∀ s ∈ records, ∃ r, s = .document r ∧ g.FindsOwn e r
  query : ∀ options result, (g.query e.appId e.code options).1 = .ok result →
    ∃ page, g.database.queryRecords e options = .ok page ∧
      result.rows = page.items.map (fun r => options.project (r.row e)) ∧
      ∀ r ∈ page.items, g.FindsOwn e r

theorem findsOwn_readBack (inv : g.Inv) (owned : g.database.Owned) (he : e ∈ g.database.live)
    (unmade : e.tableCreated = false) {r : Record} (hr : r ∈ g.database.documents)
    (own : r.entityId = e.id) : g.FindsOwn e (readBack r) := by
  refine ⟨own, recordByKey_document inv he unmade ?_⟩
  rw [readBack, owned.recordByKey?_eq hr, if_pos own]
  rfl

end Engine

/-- In every run whose statements hold no further ones, the documents of a deleted definition stay,
and a new definition that has its code without a table lists them, though they are not its own and
are not found under its id. So what a definition without a table lists is its own exactly if no
documents of a deleted one with its code are left. -/
theorem lists_own_iff (h : PlainRun g) {e : Entity} (he : e ∈ g.database.live)
    (unmade : e.tableCreated = false) : g.ListsOwn e ↔
      ∀ d ∈ g.database.entities, d.deleted = true → d.appId = e.appId → d.code = e.code →
        ∀ r ∈ g.database.documents, r.entityId ≠ d.id := by
  have inv := h.reached.inv
  have owned := h.owned
  have stored := (Database.mem_live.mp he).1
  constructor
  · intro lists d hd deleted app code r hr belongs
    -- The list as a whole shows the document.
    obtain ⟨o, ho, id, app', code'⟩ := owned.owner r hr
    rw [inv.sound.eq_of_id ho hd (id.trans belongs)] at app' code'
    obtain ⟨records, listed, whole⟩ := g.database.listRecords_whole e
      (Nat.le_max_left g.database.documents.length 1)
    have answer : (g.listRecords e.appId e.code 1 g.database.documents.length).1 =
        .ok (records.map .document) := by
      rw [Engine.listRecords_documents inv he unmade, Nat.max_self, listed]
      rfl
    have shown := whole r hr (app'.symm.trans app) (code'.symm.trans code) (owned.kept r hr)
    obtain ⟨s, same, own, -⟩ :=
      lists.list 1 _ _ answer _ (List.mem_map_of_mem shown)
    obtain rfl := StoredRecord.document.inj same
    have alive := Database.live_deleted he
    rw [← inv.sound.eq_of_id hd stored (belongs.symm.trans own), deleted] at alive
    cases alive
  · intro none
    -- A document under the code belongs to a definition with it, and that is not a deleted one.
    have finds : ∀ r ∈ g.database.documents, r.appId = e.appId → r.entityCode = e.code →
        g.FindsOwn e (readBack r) := by
      intro r hr app code
      refine Engine.findsOwn_readBack inv owned he unmade hr ?_
      obtain ⟨d, hd, id, app', code'⟩ := owned.owner r hr
      cases deleted : d.deleted with
      | true => exact absurd id.symm (none d hd deleted (app'.trans app) (code'.trans code) r hr)
      | false =>
        rw [← id, inv.sound.codes d (Database.mem_live.mpr ⟨hd, deleted⟩) e he (app'.trans app)
          (code'.trans code)]
    constructor
    · intro page size records answer s hs
      rw [Engine.listRecords_documents inv he unmade] at answer
      obtain ⟨found, listed, rfl⟩ := map_ok answer
      obtain ⟨r, hr, rfl⟩ := List.mem_map.mp hs
      obtain ⟨s, stored, rfl, app, code⟩ := Database.mem_listRecords (during_ok listed) hr
      exact ⟨_, rfl, finds s stored app code⟩
    · intro options result answer
      obtain ⟨page, queried, rows⟩ := Engine.query_documents inv he unmade answer
      refine ⟨page, queried, rows, fun r hr => ?_⟩
      obtain ⟨s, stored, rfl, app, code⟩ := Database.mem_queryRecords queried hr
      exact finds s stored app code

/-! ### A code that is used again -/

/-- Notes, whose table is not asked for. -/
def declareNote : Operation :=
  .createEntity
    { appId := 1
      name := "Note"
      table := "note"
      code := some "note"
      fields := [{ name := "body", type := .text }] }
    "a" ⟨⟨0, 0⟩, "r", "c"⟩

def storeNote : Operation := .createRecord 1 "note" [("body", .text "first")] "a" ⟨⟨0, 0⟩, "r", "c"⟩

def deleteNote : Operation := .deleteEntity 1 false "a" ⟨⟨0, 0⟩, "r", "c"⟩

/-- Notes, one of them stored, before their definition is deleted. -/
def notes : Engine := storeNote.run (declareNote.run (.start .empty ""))

/-- Notes declared anew under their code. -/
def renewedNotes : Engine := declareNote.run (deleteNote.run notes)

theorem plainRun_declaredNotes : PlainRun (declareNote.run (.start .empty "")) :=
  .step declareNote (.start "") (Operation.isPlain_of_none (by decide))

theorem plainRun_renewedNotes : PlainRun renewedNotes := by
  refine .step declareNote (.step deleteNote (.step storeNote plainRun_declaredNotes ?_) ?_) ?_
  · exact Operation.isPlain_of_none rfl
  · exact Operation.isPlain_of_none rfl
  · exact Operation.isPlain_of_none (by decide +kernel)

/-- The document of the deleted definition is still there. -/
def HasLeftDocument (db : Database) : Prop :=
  (db.entity? 2).any (fun e => !e.tableCreated && db.entities.any fun d =>
    d.deleted && d.appId == e.appId && d.code == e.code &&
      db.documents.any fun r => r.entityId == d.id) = true

instance (db : Database) : Decidable (HasLeftDocument db) := inferInstanceAs (Decidable (_ = true))

/-- The new notes list a note that is not theirs. -/
theorem renewed_lists_other : ∃ e ∈ renewedNotes.database.live, e.tableCreated = false ∧
    ¬ renewedNotes.ListsOwn e := by
  have left : HasLeftDocument renewedNotes.database := by decide +kernel
  rw [HasLeftDocument, Option.any_eq_true] at left
  obtain ⟨e, found, facts⟩ := left
  obtain ⟨unmade, facts⟩ := Bool.and_eq_true_iff.mp facts
  obtain ⟨d, hd, facts⟩ := List.any_eq_true.mp facts
  simp only [Bool.and_eq_true, beq_iff_eq, List.any_eq_true] at facts
  obtain ⟨⟨⟨deleted, app⟩, code⟩, r, hr, belongs⟩ := facts
  have he := List.mem_of_find?_eq_some found
  have unmade : e.tableCreated = false := by simpa using unmade
  refine ⟨e, he, unmade, fun lists => ?_⟩
  exact (lists_own_iff plainRun_renewedNotes he unmade).mp lists d hd deleted app code r hr belongs

end EntityEngine
