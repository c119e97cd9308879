import EntityEngine.Proofs.Engine.Coherence
import EntityEngine.Proofs.Engine.Ownership
import EntityEngine.Proofs.Store.RowSearch

/-! Records while definitions change, in runs that leave the types of columns open. A definition
that is not deleted keeps its records, whatever becomes of its fields, its table and other
definitions: its documents stay, and so does its table with every row. Which of the two it reads is
a matter of whether it has a table. -/

namespace EntityEngine

open Store

variable {g g' g'' : Engine} {made : Makings}

/-! ### What runs keep to -/

namespace Operation

variable {op : Operation}

theorem isPlain_of_leaveTypes (h : Engine.Coherent made g) (leave : LeaveTypes op.fields) :
    op.IsPlain g := by
  intro e database makes
  rcases op.run_cases h.inv with ⟨none, -⟩ | ⟨d, g', makes', move, hd, -⟩
  · rw [none] at makes
    cases makes
  · obtain ⟨rfl, -⟩ := Prod.mk.inj (Option.some.inj (makes'.symm.trans makes))
    exact Entity.further_tableText (move.derived h.inv leave h.derived d hd)

theorem Move.built (move : op.Move g g') (inv : g.Inv) (built : g.database.IsBuilt) :
    g'.database.IsBuilt := by
  cases move with
  | records step =>
    cases step with
    | none => exact built
    | rows _ _ _ _ write =>
      exact built.write inv.tidy (write built.simple)
    | documents frame _ => exact built.of_tables frame.tables
  | created _ _ c => exact built.of_tables c.tables
  | replaced _ r => exact built.of_tables r.tables
  | deleted _ _ _ => exact built
  | @dropped e change _ _ _ _ d =>
    have changed : (g.database.changeEntity e.id change).IsBuilt := built.of_tables rfl
    have now := changed.dropped (inv.tidy.of_names rfl rfl) d
    exact now.of_tables rfl

end Operation

theorem Engine.makeTable_built (inv : g.Inv) (built : g.database.IsBuilt) {e : Entity}
    (derived : e.HasDerivedTypes) : (g.makeTable e).2.database.IsBuilt := by
  rcases makeTable_cases g e with ⟨-, eq⟩ | ⟨made, created, ⟨-, eq⟩ | ⟨-, eq⟩⟩
  · rw [eq]
    exact built
  · rw [eq]
    have now := built.made derived (Database.made_of_createTable inv.tidy created)
    exact now.of_tables rfl
  · rw [eq]
    exact built.made derived (Database.made_of_createTable inv.tidy created)

theorem Run.plainRun (h : Run made g) : PlainRun g := by
  induction h with
  | start baseUrl => exact .start baseUrl
  | step op run leave ih => exact .step op ih (Operation.isPlain_of_leaveTypes run.coherent leave)
  | reload baseUrl _ ih => exact .reload baseUrl ih

theorem Run.built (h : Run made g) : g.database.IsBuilt := by
  induction h with
  | start baseUrl =>
    intro t ht
    cases ht
  | step op run leave ih =>
    have inv := run.coherent.inv
    rcases op.run_cases inv with ⟨-, move⟩ | ⟨e, g', -, move, he, -, eq⟩
    · exact move.built inv ih
    · rw [eq]
      exact Engine.makeTable_built (move.inv inv) (move.built inv ih)
        (move.derived inv leave run.coherent.derived e he)
  | reload baseUrl _ ih => exact ih

/-- The table of a definition is as a statement of its layout makes it, with orderly rows. -/
theorem Run.builtTable (h : Run made g) {e : Entity} (he : e ∈ g.database.live)
    (created : e.tableCreated = true) : ∃ t, g.database.table? e.table = some t ∧ t.IsOrderly ∧
      ∃ m, t.IsBuiltFrom m ∧ m.layout = e.layout := by
  obtain ⟨d, t, -, precedes, there, own⟩ := h.table he created
  obtain ⟨orderly, m, built⟩ := h.built t (Database.table?_some there).1
  exact ⟨t, there, orderly, m, built,
    (built.isMadeOf.layout_eq own).trans (congrArg EntityKind.layout precedes.kind)⟩

/-! ### What is left of a definition -/

/-- What becomes of a definition and its records while others are at work: it stays, under its id
and its code, its documents are all there, and so is its table with its rows, if it has one. -/
structure Engine.Keeps (g g' : Engine) (e e' : Entity) : Prop where
  live : e' ∈ g'.database.live
  id : e'.id = e.id
  appId : e'.appId = e.appId
  code : e'.code = e.code
  name : e'.table = e.table
  kind : e'.kind = e.kind
  created : e.tableCreated = true → e'.tableCreated = true
  documents : ∀ r ∈ g.database.documents, r.entityId = e.id → r ∈ g'.database.documents
  table : e.tableCreated = true → ∀ t, g.database.table? e.table = some t →
    g'.database.table? e.table = some t

/-- An operation that leaves the records of a definition alone: it writes no row in its table, and
neither changes nor removes a document of it. It may change its fields or make its table. -/
def Operation.Spares (op : Operation) (id : Int) (g : Engine) : Prop :=
  (∀ d ∈ g.database.live, op.ActsOn d → d.id ≠ id) ∧
    ∀ r ∈ g.database.documents, op.Names r → r.entityId ≠ id

namespace Engine.Keeps

variable {e e' e'' : Entity}

theorem same (he : e ∈ g'.database.live)
    (documents : ∀ r ∈ g.database.documents, r.entityId = e.id → r ∈ g'.database.documents)
    (table : ∀ t, g.database.table? e.table = some t → g'.database.table? e.table = some t) :
    Keeps g g' e e :=
  ⟨he, rfl, rfl, rfl, rfl, rfl, fun created => created, documents, fun _ => table⟩

theorem refl (he : e ∈ g.database.live) : Keeps g g e e :=
  .same he (fun _ hr _ => hr) fun _ there => there

theorem trans (h₁ : Keeps g g' e e') (h₂ : Keeps g' g'' e' e'') : Keeps g g'' e e'' where
  live := h₂.live
  id := h₂.id.trans h₁.id
  appId := h₂.appId.trans h₁.appId
  code := h₂.code.trans h₁.code
  name := h₂.name.trans h₁.name
  kind := h₂.kind.trans h₁.kind
  created := fun had => h₂.created (h₁.created had)
  documents := fun r hr own => h₂.documents r (h₁.documents r hr own) (own.trans h₁.id.symm)
  table := fun had t there => by
    have now := h₁.table had t there
    rw [← h₁.name] at now ⊢
    exact h₂.table (h₁.created had) t now

end Engine.Keeps

namespace Operation.Move

variable {op : Operation}

/-- The tables of other definitions than those that an operation acts on stay as they are. -/
theorem table?_other (move : op.Move g g') (inv : g.Inv) (simple : g.database.IsSimple)
    {name : String}
    (apart : ∀ d ∈ g.database.live, op.ActsOn d → Text.sameFold name d.table = false) :
    g'.database.table? name = g.database.table? name := by
  cases move with
  | records step =>
    cases step with
    | none => rfl
    | rows hd _ act _ write => exact (write simple).table?_other inv.tidy (apart _ hd act.actsOn)
    | documents frame _ => exact congrArg (List.find? _) frame.tables
  | created _ _ c => exact congrArg (List.find? _) c.tables
  | replaced _ r _ => exact congrArg (List.find? _) r.tables
  | deleted _ _ _ => rfl
  | dropped hd act _ d =>
    exact d.table?_other (inv.tidy.of_names rfl rfl) simple (apart _ hd act)

theorem keeps (move : op.Move g g') (inv : g.Inv) (simple : g.database.IsSimple)
    (owned : g.database.Owned) {e : Entity} (he : e ∈ g.database.live)
    (spares : op.Spares e.id g) : ∃ e', g.Keeps g' e e' := by
  have documents : ∀ r ∈ g.database.documents, r.entityId = e.id → r ∈ g'.database.documents :=
    fun r hr own => owned.mem_of_move (move.documents owned) hr fun named => spares.2 r hr named own
  have table : ∀ t, g.database.table? e.table = some t → g'.database.table? e.table = some t := by
    intro t there
    rw [move.table?_other inv simple fun d hd act => inv.sound.apart he hd (spares.1 d hd act)]
    exact there
  cases move with
  | records step =>
    have live : e ∈ g'.database.live := by
      rw [step.live]
      exact he
    exact ⟨e, .same live documents table⟩
  | created _ _ c => exact ⟨e, .same (c.mem_live.mpr (Or.inl he)) documents table⟩
  | @replaced id d d' database _ r _ =>
    obtain ⟨hd, rfl⟩ := inv.sound.entity?_iff.mp r.found
    by_cases own : e.id = d.id
    · obtain rfl := inv.sound.eq_of_id (Database.mem_live.mp he).1 (Database.mem_live.mp hd).1 own
      obtain ⟨first, audit, audit', eq⟩ := r.changed
      have live : d' ∈ database.live := (r.mem_live inv.sound).mpr (Or.inl rfl)
      rw [eq] at live
      exact ⟨_, live, rfl, rfl, rfl, rfl, rfl, fun created => created, documents, fun _ => table⟩
    · exact ⟨e, .same ((r.mem_live inv.sound).mpr (Or.inr ⟨he, own⟩)) documents table⟩
  | deleted hd act deletes =>
    have ne := spares.1 _ hd act
    have live := (inv.sound.mem_live_deleted hd (deletes _).1).mpr ⟨he, ne.symm⟩
    exact ⟨e, .same live documents table⟩
  | dropped hd act deletes d =>
    have ne := spares.1 _ hd act
    have live := (mem_live_dropped inv hd deletes d).mpr ⟨he, ne.symm⟩
    exact ⟨e, .same live documents table⟩

end Operation.Move

/-- Making a table leaves the others as they are. -/
theorem Engine.makeTable_keeps (inv : g.Inv) {d : Entity} (hd : d ∈ g.database.live)
    (derived : d.HasDerivedTypes) {e : Entity} (he : e ∈ g.database.live) :
    ∃ e', g.Keeps (g.makeTable d).2 e e' := by
  rcases makeTable_cases g d with ⟨-, eq⟩ | ⟨made, created, ⟨-, eq⟩ | ⟨gone, -⟩⟩
  · rw [eq]
    exact ⟨e, .refl he⟩
  · have m := Database.made_of_createTable inv.tidy created
    obtain ⟨entities, documents, -⟩ := m.rest (Entity.further_tableText derived)
    obtain ⟨spec, further, -, -, tables⟩ := m.tables (Entity.further_tableText derived)
    have live := Database.live_marked_congr entities d.id true
    have kept : ∀ r ∈ g.database.documents, r.entityId = e.id → r ∈ made.documents := by
      intro r hr _
      rw [documents]
      exact hr
    have table : ∀ t, g.database.table? e.table = some t → made.table? e.table = some t := by
      intro t there
      rw [Database.table?] at there ⊢
      rw [tables, List.find?_append, there]
      rfl
    rw [eq]
    by_cases own : e.id = d.id
    · obtain rfl := inv.sound.eq_of_id (Database.mem_live.mp he).1 (Database.mem_live.mp hd).1 own
      have now : { e with tableCreated := true } ∈ (made.marked e.id true).live := by
        rw [live, inv.sound.mem_live_marked he]
        exact Or.inl rfl
      exact ⟨_, now, rfl, rfl, rfl, rfl, rfl, fun _ => rfl, kept, fun _ => table⟩
    · have now : e ∈ (made.marked d.id true).live := by
        rw [live, inv.sound.mem_live_marked hd]
        exact Or.inr ⟨he, own⟩
      exact ⟨e, .same now kept table⟩
  · rw [createTable_entities inv derived created] at gone
    exact absurd rfl (gone d (Database.mem_live.mp hd).1)

/-- An operation that spares a definition keeps its records. -/
theorem Run.keeps (h : Run made g) (op : Operation) (leave : LeaveTypes op.fields) {e : Entity}
    (he : e ∈ g.database.live) (spares : op.Spares e.id g) : ∃ e', g.Keeps (op.run g) e e' := by
  have coherent := h.coherent
  have inv := coherent.inv
  rcases op.run_cases inv with ⟨-, move⟩ | ⟨d, g', -, move, hd, -, eq⟩
  · exact move.keeps inv h.built.simple h.plainRun.owned he spares
  · obtain ⟨e₁, first⟩ := move.keeps inv h.built.simple h.plainRun.owned he spares
    have derived := move.derived inv leave coherent.derived d hd
    obtain ⟨e₂, second⟩ := Engine.makeTable_keeps (move.inv inv) hd derived first.live
    rw [eq]
    exact ⟨e₂, first.trans second⟩

/-- What the services may come to from an engine while the records of a definition are spared:
operations follow, each of which may fail, and the services may be started anew. -/
inductive Later (id : Int) (g : Engine) : Engine → Prop
  | refl : Later id g g
  | step {g' : Engine} (op : Operation) : Later id g g' → LeaveTypes op.fields →
      op.Spares id g' → Later id g (op.run g')
  | reload {g' : Engine} (baseUrl : String) : Later id g g' →
      Later id g (Engine.start g'.database baseUrl)

theorem Later.keeps {e : Entity} (later : Later e.id g g') (h : Run made g)
    (he : e ∈ g.database.live) : (∃ made', Run made' g') ∧ ∃ e', g.Keeps g' e e' := by
  induction later with
  | refl => exact ⟨⟨made, h⟩, e, .refl he⟩
  | step op _ leave spares ih =>
    obtain ⟨⟨made', run⟩, e₁, first⟩ := ih
    rw [← first.id] at spares
    obtain ⟨e₂, second⟩ := run.keeps op leave first.live spares
    exact ⟨⟨_, .step op run leave⟩, e₂, first.trans second⟩
  | reload baseUrl _ ih =>
    obtain ⟨⟨made', run⟩, e₁, first⟩ := ih
    have anew : g.Keeps (Engine.start _ baseUrl) e e₁ := ⟨first.live, first.id, first.appId,
      first.code, first.name, first.kind, first.created, first.documents, first.table⟩
    exact ⟨⟨made', .reload baseUrl run⟩, e₁, anew⟩

/-! ### Stored records -/

namespace Engine

variable {e e' : Entity} {key : String} {record : Entity → StoredRecord}

/-- A record that is stored under a key of a definition, as definitions show it: a document, as long
as the definition has no table, else a row that the key names, and no other one. -/
inductive Stores (g : Engine) (e : Entity) (key : String) : (Entity → StoredRecord) → Prop
  | document {r : Record} (unmade : e.tableCreated = false) (hr : r ∈ g.database.documents)
      (own : r.entityId = e.id) (named : r.recordId = key) :
      Stores g e key fun _ => .document (readBack r)
  | row {t : Table} {row : Row} (made : e.tableCreated = true)
      (there : g.database.table? e.table = some t)
      (names : ∀ other, t.Meets e key other ↔ other = row) :
      Stores g e key fun d => .row (t.shown d row)

/-- The first page of a list shows a record, if it has room enough. -/
def Lists (g : Engine) (e : Entity) (s : StoredRecord) : Prop :=
  ∃ n, ∀ size, n ≤ size → ∃ records,
    (g.listRecords e.appId e.code 1 size).1 = .ok records ∧ s ∈ records

theorem lists_document (inv : g.Inv) (owned : g.database.Owned) (he : e ∈ g.database.live)
    (unmade : e.tableCreated = false) {r : Record} (hr : r ∈ g.database.documents)
    (own : r.entityId = e.id) : g.Lists e (.document (readBack r)) := by
  obtain ⟨d, hd, id, app, code⟩ := owned.owner r hr
  rw [inv.sound.eq_of_id hd (Database.mem_live.mp he).1 (id.trans own)] at app code
  refine ⟨g.database.documents.length, fun size large => ?_⟩
  obtain ⟨records, listed, whole⟩ :=
    g.database.listRecords_whole e (Nat.le_trans large (Nat.le_max_left size 1))
  refine ⟨records.map .document, ?_,
    List.mem_map_of_mem (whole r hr app.symm code.symm (owned.kept r hr))⟩
  rw [listRecords_documents inv he unmade, Nat.max_self, listed]
  rfl

theorem offset_pageOptions (size : Nat) : (pageOptions 1 size).offset = .ok 0 := by
  have skipped : (pageOptions 1 size).skip = 0 := by simp [pageOptions]
  rw [QueryOptions.offset, QueryOptions.page, skipped, Nat.zero_div]
  simp [Number.add32, Number.maxNat32, bind, Except.bind, pure, Except.pure]

theorem lists_row (inv : g.Inv) (he : e ∈ g.database.live) (created : e.tableCreated = true)
    {t : Table} (there : g.database.table? e.table = some t) {row : Row} (hr : row ∈ t.rows) :
    g.Lists e (.row (t.shown e row)) := by
  refine ⟨t.rows.length, fun size large => ?_⟩
  have needed := (Database.needTable_iff inv.tidy (inv.sound.named e he)).mpr there
  obtain ⟨page, queried, whole⟩ := queryRows_whole (o := pageOptions 1 (max size 1)) rfl
    (offset_pageOptions _) (Nat.le_trans large (Nat.le_max_left size 1)) needed
  refine ⟨page.items.map .row, ?_, List.mem_map_of_mem (whole row hr)⟩
  simp only [listRecords, inv.resolve_live he, created, if_true, Nat.max_self, queried]
  rfl

/-- A row that a key names alone is found by it. -/
theorem recordByKey_row (inv : g.Inv) (he : e ∈ g.database.live) (created : e.tableCreated = true)
    {t : Table} (there : g.database.table? e.table = some t) {row : Row}
    (names : ∀ other, t.Meets e key other ↔ other = row) :
    (g.recordByKey e.id key).1 = .ok (.row (t.shown e row)) := by
  have needed := (Database.needTable_iff inv.tidy (inv.sound.named e he)).mpr there
  obtain ⟨found, meets, got⟩ := Table.getRow_of_meets needed ((names row).mpr rfl)
  obtain rfl := (names found).mp meets
  simp only [recordByKey, inv.resolveId_live he, created, if_true, got]
  rfl

/-- A row of a template is stored under its record identifier. -/
theorem Stores.of_recordId (h : Run made g) (he : e ∈ g.database.live)
    (created : e.tableCreated = true) (template : e.layout = .template) {t : Table}
    (there : g.database.table? e.table = some t) {row : Row} (hr : row ∈ t.rows)
    (value : (t.reader row (.column "record_id")).value = .text key) :
    g.Stores e key fun d => .row (t.shown d row) := by
  obtain ⟨u, found, orderly, m, built, layout⟩ := h.builtTable he created
  obtain rfl : u = t := Option.some.inj (found.symm.trans there)
  exact .row created there fun _ => built.meets_iff orderly layout template hr value

/-- A record that was stored is listed, wherever records are still read from. -/
theorem Keeps.lists (keeps : g.Keeps g' e e') (h : Run made g') (stores : g.Stores e key record)
    (same : e'.tableCreated = e.tableCreated) : g'.Lists e' (record e') := by
  have inv := h.coherent.inv
  cases stores with
  | document unmade hr own named =>
    exact lists_document inv h.plainRun.owned keeps.live (same.trans unmade)
      (keeps.documents _ hr own) (own.trans keeps.id.symm)
  | row made there names =>
    have now := keeps.table made _ there
    rw [← keeps.name] at now
    exact lists_row inv keeps.live (same.trans made) now ((names _).mpr rfl).1

/-- It is found under its key, unless that is made of fields that are keys no more. -/
theorem Keeps.finds (keeps : g.Keeps g' e e') (h : Run made g') (stores : g.Stores e key record)
    (same : e'.tableCreated = e.tableCreated)
    (keys : e.tableCreated = true → e.layout = .native →
      e'.keys.map Field.name = e.keys.map Field.name) :
    (g'.recordByKey e'.id key).1 = .ok (record e') := by
  have inv := h.coherent.inv
  have layout : e'.layout = e.layout := congrArg EntityKind.layout keeps.kind
  cases stores with
  | @document r unmade hr own named =>
    refine recordByKey_document inv keeps.live (same.trans unmade) ?_
    rw [← named, h.plainRun.owned.recordByKey?_eq (keeps.documents r hr own),
      if_pos (own.trans keeps.id.symm)]
  | @row t row made there names =>
    have now := keeps.table made t there
    rw [← keeps.name] at now
    refine recordByKey_row inv keeps.live (same.trans made) now fun other => ?_
    rw [← names other]
    exact Table.meets_congr layout (keys made)

/-! ### New records -/

/-- What is reported of a new record is stored. A document is reported with its identifier. Of the
rows of a table one is reported; in a template the new row is stored under the identifier that was
made for it, and it is the row that is reported, with that identifier, where no field has taken the
name of the numbers of rows or of the identifier. -/
inductive Reports (g : Engine) (e : Entity) (ambient : Ambient) : StoredRecord → Prop
  | document {r s : Record} (data : s.data = r.data)
      (stores : g.Stores e r.recordId fun _ => .document (readBack s)) :
      Reports g e ambient (.document r)
  | row {t : Table} {new row : Row} (there : g.database.table? e.table = some t)
      (mem : new ∈ t.rows ∧ row ∈ t.rows) (plain : t.hasColumn "rowid" = false → row = new)
      (stores : e.layout = .template →
        g.Stores e ambient.recordId fun d => .row (t.shown d new))
      (shows : e.layout = .template → e.field? "record_id" = none →
        (t.shown e new).get? "record_id" = some (.text ambient.recordId)) :
      Reports g e ambient (.row (t.shown e row))

theorem createRecord_reports (h : Run made g) (he : e ∈ g.database.live) {values : ValueMap}
    {actor : String} {ambient : Ambient} {s : StoredRecord}
    (answer : (g.createRecord e.appId e.code values actor ambient).1 = .ok s) :
    (g.createRecord e.appId e.code values actor ambient).2.Reports e ambient s := by
  have inv := h.coherent.inv
  have free := inv.sound.named e he
  have run := Run.step (.createRecord e.appId e.code values actor ambient) h
    fun f hf => absurd hf List.not_mem_nil
  replace run : Run _ (g.createRecord e.appId e.code values actor ambient).2 := run
  have step : RecordStep _ _ (fun _ => False) g
      (g.createRecord e.appId e.code values actor ambient).2 := createRecord_step inv ..
  have live : e ∈ (g.createRecord e.appId e.code values actor ambient).2.database.live := by
    rw [step.live]
    exact he
  clear step
  revert answer run live
  simp only [createRecord, inv.resolve_live he]
  split
  · intro answer
    cases answer
  · rename_i data _
    split
    · rename_i created
      obtain ⟨t, there, orderly, m, built, layout⟩ := h.builtTable he created
      cases inserted : g.database.insertRow e data ambient with
      | mk result database =>
        intro answer run live
        obtain ⟨found, ok, rfl⟩ := map_ok (during_ok answer)
        obtain rfl : result = .ok found := ok
        obtain ⟨u, now, -, -, new, hn, -, row, hr, rfl, plain, value⟩ :=
          Database.insertRow_ok inv.tidy h.built free there built layout inserted
        refine .row now ⟨hn, hr⟩ plain (fun template => ?_) fun template undeclared => ?_
        · exact .of_recordId run live created template now hn (value template)
        · exact Table.get?_recordId template undeclared (value template)
    · rename_i unmade
      cases inserted : g.database.insertRecord e.id e.code e.appId data actor ambient with
      | error f =>
        intro answer
        cases answer
      | ok p =>
        obtain ⟨r, database⟩ := p
        intro answer run live
        obtain rfl : s = .document r := (Except.ok.inj answer).symm
        have ok : g.database.DocumentMove (fun _ => True) (fun _ => False) _ ∧ _ :=
          Database.insertRecord_ok (Database.mem_live.mp he).1 rfl (fun _ _ _ _ => trivial) inserted
        obtain ⟨-, d, hd, named, own, data⟩ := ok
        exact .document data (.document (by simpa using unmade) hd own named)

end Engine

/-- Goods by their number, whose table is not asked for. -/
def declareStock : Operation :=
  .createEntity
    { appId := 1
      name := "Goods"
      table := "goods"
      code := some "goods"
      kind := .static
      fields := [{ name := "sku", type := .integer, isKey := true }] }
    "a" ⟨⟨0, 0⟩, "r", "c"⟩

def storeGood : Operation := .createRecord 1 "goods" [("sku", .integer 5)] "a" ⟨⟨0, 0⟩, "r", "c"⟩

/-- A document of goods without a table. -/
def stock : Engine := storeGood.run (declareStock.run (.start .empty ""))

/-- A row of goods with a table. -/
def goods : Engine := storeGood.run (declareGoods.run (.start .empty ""))

/-- The document once the table is made. -/
def madeStock : Engine := (Operation.materialize 1).run stock

/-- The document once the key field is renamed. -/
def renamedStock : Engine := renameKey.run stock

/-- The row once the key field is renamed. -/
def renamedRow : Engine := renameKey.run goods

theorem leaveTypes_goods :
    LeaveTypes declareStock.fields ∧ LeaveTypes declareGoods.fields ∧
      LeaveTypes renameKey.fields := by
  refine ⟨?_, ?_, ?_⟩ <;> intro f hf <;> rw [List.mem_singleton.mp hf] <;> rfl

theorem run_goods : (∃ made, Run made stock) ∧ ∃ made, Run made goods := by
  obtain ⟨first, second, -⟩ := leaveTypes_goods
  have none : LeaveTypes storeGood.fields := fun f hf => absurd hf List.not_mem_nil
  exact ⟨⟨_, .step storeGood (.step declareStock (.start "") first) none⟩,
    ⟨_, .step storeGood (.step declareGoods (.start "") second) none⟩⟩

theorem later_goods : Later 1 stock madeStock ∧ Later 1 stock renamedStock ∧
    Later 1 goods renamedRow := by
  have spares : ∀ g, (Operation.materialize 1).Spares 1 g ∧ renameKey.Spares 1 g := fun g =>
    ⟨⟨fun _ _ acts => acts.elim, fun _ _ named => named.elim⟩,
      ⟨fun _ _ acts => acts.elim, fun _ _ named => named.elim⟩⟩
  have none : LeaveTypes (Operation.materialize 1).fields := fun f hf => absurd hf List.not_mem_nil
  have renamed := leaveTypes_goods.2.2
  exact ⟨.step _ .refl none (spares stock).1, .step _ .refl renamed (spares stock).2,
    .step _ .refl renamed (spares goods).2⟩

/-- A key finds a record in one engine and none in the other. -/
def LosesKey (g g' : Engine) (key : String) : Prop :=
  (g.recordByKey 1 key).1.toOption.isSome = true ∧ (g'.recordByKey 1 key).1.toOption = none

instance (g g' : Engine) (key : String) : Decidable (LosesKey g g' key) :=
  inferInstanceAs (Decidable (_ ∧ _))

/-- The definition has no table, and a document under the identifier. -/
def HoldsDocument (db : Database) (key : String) : Prop :=
  (db.entity? 1).any (fun e => !e.tableCreated && e.id == 1 &&
    db.documents.any fun r => r.entityId == e.id && r.recordId == key) = true

instance (db : Database) (key : String) : Decidable (HoldsDocument db key) :=
  inferInstanceAs (Decidable (_ = true))

end EntityEngine
