import EntityEngine.Proofs.Engine.Chronology
import EntityEngine.Proofs.Engine.Ownership
import EntityEngine.Proofs.Store.Versions

/-! Versions in a run. The version of a definition, of a document, or of a row of a template is one
more than the number of updates of it that succeeded since it was stored, whatever else happens in
between. -/

namespace EntityEngine

open Store

variable {g g' : Engine} {made : Makings} {table key : String}

/-! ### Updates that succeed -/

namespace Operation

/-- The id of the definition whose fields an operation replaces. -/
def updatedDefinition? : Operation → Engine → Option Int
  | replaceFields id fields actor ambient, g =>
    (g.replaceFields id fields actor ambient).1.toOption.map fun _ => id
  | _, _ => none

/-- The id of the document that an operation updates, by its id or under its key. -/
def updatedDocument? : Operation → Engine → Option Int
  | updateRecord id values actor ambient, g =>
    (g.updateRecord id values actor ambient).1.toOption.map fun _ => id
  | updateRecordByKey entityId key values actor ambient, g =>
    match (g.updateRecordByKey entityId key values actor ambient).1 with
    | .ok (.document r) => some r.id
    | _ => none
  | _, _ => none

/-- The operation updates the row that a key stands for in the table of a name. -/
def updatesRow (table key : String) : Operation → Engine → Bool
  | updateRecordByKey entityId asked values actor ambient, g =>
    match (g.updateRecordByKey entityId asked values actor ambient).1 with
    | .ok (.row _) => asked == key &&
      (g.database.entity? entityId).any fun e => Text.sameFold e.table table
    | _ => false
  | _, _ => false

end Operation

/-! ### Definitions -/

namespace Engine

/-- A table that holds no further statements is made beside the versions of definitions. -/
theorem makeTable_versions (tidy : g.database.Tidy) {e : Entity}
    (plain : e.tableText.further = []) :
    (g.makeTable e).2.database.definitionVersions = g.database.definitionVersions := by
  have beside : ∀ made, g.database.createTable e = .ok made →
      made.definitionVersions = g.database.definitionVersions := by
    intro made created
    have entities := ((Database.made_of_createTable tidy created).rest plain).1
    rw [Database.definitionVersions, entities, Database.definitionVersions]
  rcases makeTable_cases g e with ⟨-, eq⟩ | ⟨made, created, ⟨-, eq⟩ | ⟨-, eq⟩⟩
  · rw [eq]
  · rw [eq]
    exact (Database.definitionVersions_marked made e.id true).trans (beside made created)
  · rw [eq]
    exact beside made created

theorem deleteEntity_versions (inv : g.Inv) (id : Int) (dropTable : Bool) (actor : String)
    (ambient : Ambient) :
    (g.deleteEntity id dropTable actor ambient).2.database.definitionVersions =
      g.database.definitionVersions := by
  unfold deleteEntity
  split
  · rfl
  · rename_i e database deleted
    have versions := Database.softDelete_versions (during_ok deleted)
    obtain ⟨found, change, deletes, rfl⟩ := Database.softDelete_ok (during_ok deleted)
    obtain ⟨he, rfl⟩ := inv.sound.entity?_iff.mp found
    have present : ∃ d ∈ (g.database.changeEntity e.id change).entities, d.id = e.id :=
      ⟨change e, Database.mem_changeEntity.mpr ⟨e, (Database.mem_live.mp he).1, if_pos rfl⟩,
        (deletes e).2.id⟩
    simp only
    split
    · rcases dropTableOf_cases (deleted_inv inv he deletes) present with eq | ⟨dropped, d, eq⟩
      · rw [eq]
        exact versions
      · rw [eq]
        refine (Database.definitionVersions_marked dropped e.id false).trans ?_
        rw [Database.definitionVersions, d.entities]
        exact versions
    · exact versions

end Engine

theorem Operation.revises_definitions (inv : g.Inv) (op : Operation) (plain : op.IsPlain g) :
    Database.Revises (op.updatedDefinition? g) g.database.definitionVersions
      (op.run g).database.definitionVersions := by
  have same : ∀ {versions}, versions = g.database.definitionVersions →
      Database.Revises none g.database.definitionVersions versions := fun eq => eq ▸ .refl _
  have records : ∀ {g'} {writes adds names}, Engine.RecordStep writes adds names g g' →
      Database.Revises none g.database.definitionVersions g'.database.definitionVersions :=
    fun step => same (congrArg (List.map _) step.entities)
  cases op with
  | createEntity draft actor ambient =>
    simp only [updatedDefinition?, run, Engine.createEntity]
    cases valid : draft.validate with
    | error f => exact .refl _
    | ok _ =>
      cases created : g.database.createEntity draft actor ambient with
      | error f => exact .refl _
      | ok p =>
        obtain ⟨e, database⟩ := p
        have c := Database.created_of_createEntity created
        have revises := Database.createEntity_revises created
        simp only [during, Except.mapError]
        split
        · rename_i auto
          have text := plain e database (by simp [makes?, valid, created, auto])
          rw [Engine.makeTable_versions (Engine.created_inv inv valid c).tidy text]
          exact revises
        · exact revises
  | materialize id =>
    simp only [updatedDefinition?, run, Engine.materialize, Engine.entity]
    cases found : g.database.entity? id with
    | none => exact .refl _
    | some e =>
      simp only
      split
      · exact .refl _
      · rename_i unmade
        have text := plain e g.database (by simp [makes?, found, unmade])
        exact same (Engine.makeTable_versions inv.tidy text)
  | replaceFields id fields actor ambient =>
    simp only [updatedDefinition?, run, Engine.replaceFields, Engine.entity]
    cases found : g.database.entity? id with
    | none => exact .refl _
    | some e =>
      simp only
      split
      · exact .refl _
      · split
        · exact .refl _
        · rename_i e' database changed
          obtain ⟨d, r⟩ := Database.replaced_of_replaceFields (during_ok changed)
          exact r.revises inv.sound.toUnique
  | deleteEntity id dropTable actor ambient =>
    exact same (Engine.deleteEntity_versions inv id dropTable actor ambient)
  | createRecord appId code values actor ambient =>
    exact records (Engine.createRecord_step inv appId code values actor ambient :
      Engine.RecordStep _ _ (fun _ => True) g _)
  | recordByKey entityId key => exact same (by rw [run, Engine.recordByKey_step inv])
  | listRecords appId code page size => exact same (by rw [run, Engine.listRecords_step inv])
  | updateRecord id values actor ambient =>
    exact records (Engine.updateRecord_step inv id values actor ambient fun _ _ _ _ => trivial :
      Engine.RecordStep (fun _ _ => True) (fun _ => True) (fun _ => True) g _)
  | updateRecordByKey entityId key values actor ambient =>
    exact records (Engine.updateRecordByKey_step inv entityId key values actor ambient :
      Engine.RecordStep _ (fun _ => True) _ g _)
  | deleteRecord id =>
    exact records (Engine.deleteRecord_step g id :
      Engine.RecordStep (fun _ _ => True) (fun _ => True) _ g _)
  | deleteRecordByKey entityId key =>
    exact records (Engine.deleteRecordByKey_step inv entityId key :
      Engine.RecordStep _ (fun _ => True) _ g _)
  | query appId code options => exact same (by rw [run, Engine.query_step inv])

/-! ### Documents -/

namespace Engine

/-- A change of the store that updates no document. -/
theorem commit_revises {α : Type} {result : Except Fault (α × Database)}
    (h : ∀ v database, result = .ok (v, database) →
      Database.Revises none g.database.documentVersions database.documentVersions) :
    Database.Revises none g.database.documentVersions (g.commit result).2.database.documentVersions :=
    by
  cases result with
  | error f => exact .refl _
  | ok p => exact h p.1 p.2 rfl

theorem createRecord_revises (inv : g.Inv) (appId : Int) (code : String) (values : ValueMap)
    (actor : String) (ambient : Ambient) :
    Database.Revises none g.database.documentVersions
      (g.createRecord appId code values actor ambient).2.database.documentVersions := by
  unfold createRecord
  split
  · exact .refl _
  · rename_i e g₁ resolved
    obtain ⟨rfl, live, -⟩ := inv.resolve resolved
    split
    · exact .refl _
    · split
      · rename_i data _ _
        have same : (g₁.database.insertRow e data ambient).2.documents = g₁.database.documents :=
          (Database.insertRow_frame inv.tidy (inv.sound.named e live)).documents trivial
        show Database.Revises none _ (List.map _ _)
        rw [same]
        exact .refl _
      · refine commit_revises fun v database h => ?_
        obtain ⟨⟨r, database'⟩, inserted, h⟩ := bind_ok (during_ok h)
        obtain ⟨-, rfl⟩ := Prod.mk.inj (Except.ok.inj h)
        exact Database.insertRecord_revises inserted

theorem updateRecord_revises (inv : g.Inv) (id : Int) (values : ValueMap) (actor : String)
    (ambient : Ambient) :
    Database.Revises ((g.updateRecord id values actor ambient).1.toOption.map fun _ => id)
        g.database.documentVersions
        (g.updateRecord id values actor ambient).2.database.documentVersions ∧
      ∀ r, (g.updateRecord id values actor ambient).1 = .ok r → r.id = id := by
  unfold updateRecord
  split
  · exact ⟨.refl _, fun r h => nomatch h⟩
  · split
    · exact ⟨.refl _, fun r h => nomatch h⟩
    · rename_i e g₁ resolved
      obtain ⟨rfl, -⟩ := inv.resolveId resolved
      split
      · exact ⟨.refl _, fun r h => nomatch h⟩
      · rename_i current _ _ data _
        cases updated : g₁.database.updateRecord id data actor ambient with
        | error f => exact ⟨.refl _, fun r h => nomatch h⟩
        | ok p =>
          obtain ⟨same, revises⟩ := Database.updateRecord_revises updated
          exact ⟨revises, fun r h => by rw [← Except.ok.inj h]; exact same⟩

/-- An update under a key is one of a row, or one of a document by its id. -/
theorem updateRecordByKey_cases (inv : g.Inv) (entityId : Int) (key : String) (values : ValueMap)
    (actor : String) (ambient : Ambient) :
    (∃ e row data database, e ∈ g.database.live ∧ e.id = entityId ∧ e.tableCreated = true ∧
      g.database.updateRow e key data ambient = .ok (row, database) ∧
      g.updateRecordByKey entityId key values actor ambient =
        (.ok (.row row), { g with database })) ∨
    (∃ id, g.updateRecordByKey entityId key values actor ambient =
      ((g.updateRecord id values actor ambient).1.map .document,
        (g.updateRecord id values actor ambient).2)) ∨
    ∃ f, g.updateRecordByKey entityId key values actor ambient = (.error f, g) := by
  unfold updateRecordByKey
  split
  · exact Or.inr (Or.inr ⟨_, rfl⟩)
  · rename_i e g₁ resolved
    obtain ⟨rfl, live, meant⟩ := inv.resolveId resolved
    split
    · rename_i created
      split
      · exact Or.inr (Or.inr ⟨_, rfl⟩)
      · rename_i data _
        cases updated : g₁.database.updateRow e key data ambient with
        | error f => exact Or.inr (Or.inr ⟨_, rfl⟩)
        | ok p => exact Or.inl ⟨e, p.1, data, p.2, live, meant, created, updated, rfl⟩
    · split
      · exact Or.inr (Or.inr ⟨_, rfl⟩)
      · exact Or.inr (Or.inl ⟨_, rfl⟩)

end Engine

/-- Where nothing is added and nothing named, the documents stay. -/
theorem Store.Database.DocumentMove.eq {db : Database} {documents : List Record}
    (move : db.DocumentMove (fun _ => False) (fun _ => False) documents) :
    documents = db.documents := by
  cases move with
  | same => rfl
  | added new _ _ _ _ => exact new.elim
  | changed _ only _ => exact only.elim
  | removed only =>
    refine List.filter_eq_self.mpr fun r hr => ?_
    rw [← Bool.not_eq_false]
    exact only r hr

theorem Operation.revises_documents (inv : g.Inv) (owned : g.database.Owned) (op : Operation)
    (plain : op.IsPlain g) : Database.Revises (op.updatedDocument? g) g.database.documentVersions
      (op.run g).database.documentVersions := by
  have move := (op.run_documents inv owned plain).1
  have same : (op.run g).database.documents = g.database.documents →
      Database.Revises none g.database.documentVersions (op.run g).database.documentVersions := by
    intro eq
    rw [Database.documentVersions, Database.documentVersions, eq]
    exact .refl _
  cases op with
  | createRecord appId code values actor ambient =>
    exact Engine.createRecord_revises inv appId code values actor ambient
  | updateRecord id values actor ambient =>
    exact (Engine.updateRecord_revises inv id values actor ambient).1
  | updateRecordByKey entityId key values actor ambient =>
    simp only [updatedDocument?, run] at same ⊢
    -- An update under a key is one of a row, and leaves documents alone, or one by an id.
    rcases Engine.updateRecordByKey_cases inv entityId key values actor ambient with
      ⟨e, row, data, database, he, -, -, updated, eq⟩ | ⟨id, eq⟩ | ⟨f, eq⟩
    · have frame := Database.updateRow_frame inv.tidy (inv.sound.named e he) updated
      rw [eq] at same ⊢
      exact same (frame.documents trivial)
    · obtain ⟨revises, own⟩ := Engine.updateRecord_revises inv id values actor ambient
      rw [eq]
      cases result : (g.updateRecord id values actor ambient).1 with
      | error f =>
        rw [result] at revises
        exact revises
      | ok r =>
        rw [result] at revises
        show Database.Revises (some r.id) _ _
        rw [own r result]
        exact revises
    · rw [eq]
      exact .refl _
  | deleteRecord id =>
    refine Engine.commit_revises fun v database h => ?_
    obtain ⟨database', deleted, h⟩ := map_ok (during_ok h)
    obtain ⟨-, rfl⟩ := Prod.mk.inj h
    exact Database.deleteRecord_revises deleted
  | deleteRecordByKey entityId key =>
    simp only [updatedDocument?, run, Engine.deleteRecordByKey]
    split
    · exact .refl _
    · rename_i e g₁ resolved
      obtain ⟨rfl, live, -⟩ := inv.resolveId resolved
      refine Engine.commit_revises fun v database h => ?_
      obtain ⟨database', deleted, h⟩ := map_ok h
      obtain ⟨-, rfl⟩ := Prod.mk.inj h
      split at deleted
      · have frame := Database.deleteRow_frame inv.tidy (inv.sound.named e live) (during_ok deleted)
        rw [Database.documentVersions, Database.documentVersions, frame.documents trivial]
        exact .refl _
      · exact Database.deleteRecordByKey_revises (during_ok deleted)
  | _ => exact same move.eq

/-! ### Rows -/

/-- No two rows of a table have one number. -/
theorem Run.numbers (h : Run made g) (name : String) :
    ∀ t, g.database.table? name = some t → (t.rows.map Row.number).Nodup :=
  h.table_invariant (P := fun t => (t.rows.map Row.number).Nodup)
    (fun t empty => by simp [empty]) fun _ _ write once => write.numbers once

/-- A row of a template in the table of a name, with its identifier and its version. -/
def Store.Database.HasRow (db : Database) (table key : String) (version : Sql.Value) : Prop :=
  ∃ t m row, db.table? table = some t ∧ t.IsBuiltFrom m ∧ m.layout = .template ∧ row ∈ t.rows ∧
    t.valueOf row "record_id" = .text key ∧ t.valueOf row "version" = version

/-- Some row of the table of a name has the identifier. -/
def Store.Database.hasKey (db : Database) (table key : String) : Bool :=
  (db.table? table).any fun t => t.rows.any fun row => t.valueOf row "record_id" == .text key

theorem Store.Database.HasRow.hasKey {db : Database} {version : Sql.Value}
    (h : db.HasRow table key version) : db.hasKey table key = true := by
  obtain ⟨t, _, row, there, -, -, hr, named, -⟩ := h
  rw [Database.hasKey, there]
  exact List.any_eq_true.mpr ⟨row, hr, beq_iff_eq.mpr named⟩

/-- What an operation makes of the rows of a template: a row under a key was there with the same
version, or with the one before if it is updated, or it is new with version 1. -/
def RevisesRow (updated : Bool) (db : Database) (table key : String) (version : Sql.Value) : Prop :=
  (∃ old, db.HasRow table key old ∧ (updated = false → version = old) ∧
    (updated = true → ∀ n, old = .integer n → Number.inInt64 (n + 1) = true →
      version = .integer (n + 1))) ∨
    version = .integer 1 ∧ db.hasKey table key = false

theorem Operation.starts_of_writes {op : Operation} {e : Entity} {statement : Statement}
    (other : ∀ entityId key values actor ambient,
      op ≠ .updateRecordByKey entityId key values actor ambient)
    (act : op.Writes e statement) (layout : e.layout = .template) : Table.Starts statement := by
  cases op with
  | createRecord appId code values actor ambient =>
    obtain ⟨-, data, -, rfl⟩ := act
    exact Table.starts_newValues layout data ambient
  | updateRecordByKey entityId key values actor ambient => exact absurd rfl (other _ _ _ _ _)
  | deleteRecordByKey entityId key =>
    obtain ⟨-, rfl⟩ := act
    trivial
  | _ => exact act.elim

/-- A definition whose table is a template is one. -/
theorem Run.layout_of_table (h : Run made g) {e m : Entity} (he : e ∈ g.database.live)
    (created : e.tableCreated = true) {t : Table} (there : g.database.table? e.table = some t)
    (own : t.IsBuiltFrom m) : m.layout = e.layout := by
  obtain ⟨u, there', -, d, built, layout⟩ := h.builtTable he created
  obtain rfl := Option.some.inj (there'.symm.trans there)
  exact (own.isMadeOf.layout_eq built.isMadeOf).trans layout

theorem RevisesRow.kept {db db' : Database} {version : Sql.Value}
    (same : db'.table? table = db.table? table) (has : db'.HasRow table key version) :
    RevisesRow false db table key version := by
  obtain ⟨t, m, row, there, rest⟩ := has
  rw [same] at there
  exact Or.inl ⟨version, ⟨t, m, row, there, rest⟩, fun _ => rfl, fun updated => nomatch updated⟩

theorem Engine.updateRecord_tables (inv : g.Inv) (id : Int) (values : ValueMap) (actor : String)
    (ambient : Ambient) :
    (g.updateRecord id values actor ambient).2.database.tables = g.database.tables := by
  have step : RecordStep (fun _ _ => False) (fun _ => True) (fun _ => True) g _ :=
    updateRecord_step inv id values actor ambient fun _ _ _ _ => trivial
  generalize (g.updateRecord id values actor ambient).2 = g' at step
  cases step with
  | none => rfl
  | rows _ _ act _ _ => exact act.elim
  | documents frame _ => exact frame.tables

/-- What a row that is updated was before. -/
theorem Run.updateRow_revises (h : Run made g) {e : Entity} (he : e ∈ g.database.live)
    (created : e.tableCreated = true) {asked : String} {data row : ValueMap} {ambient : Ambient}
    {database : Database} (updated : g.database.updateRow e asked data ambient = .ok (row, database))
    {version : Sql.Value} (has : database.HasRow table key version) :
    RevisesRow (asked == key && Text.sameFold e.table table) g.database table key version := by
  have inv := h.coherent.inv
  have free := inv.sound.named e he
  have write := Database.updateRow_write inv.tidy h.built.simple free updated
  cases own : Text.sameFold e.table table with
  | false =>
    rw [Bool.and_false]
    rw [Text.sameFold_comm] at own
    exact .kept (write.table?_other inv.tidy own) has
  | true =>
    obtain ⟨u, m, next, there, built, template, hr, named, value⟩ := has
    rw [← Database.table?_congr own] at there
    have bare := write.map_bare_table? inv.tidy e.table
    rw [there] at bare
    obtain ⟨t, was, bare⟩ := Option.map_eq_some_iff.mp bare.symm
    have builtBefore : t.IsBuiltFrom m := built.of_bare bare
    have same := h.layout_of_table he created was builtBefore
    have layout := same.symm.trans template
    have orderly := (h.built t (Database.table?_some was).1).1
    obtain ⟨old, hold, meant, changed, made, eq⟩ := Database.updateRow_template inv.tidy
      h.built.simple free was orderly (h.numbers e.table t was) builtBefore same layout updated
    obtain ⟨counts, own', rows⟩ := builtBefore.storing_versions same layout (h.ownNames e he) orderly
      hold meant made
    have now := Database.table?_putTable (u := t.storing changed (some old)) was rfl
    rw [← eq, there] at now
    obtain rfl := Option.some.inj now
    have before : ∀ r ∈ t.rows, t.valueOf r "record_id" = .text key →
        g.database.HasRow table key (t.valueOf r "version") := by
      intro r hr named
      rw [Database.table?_congr own] at was
      exact ⟨t, m, r, was, builtBefore, template, hr, named, rfl⟩
    rcases rows next hr with rfl | ⟨hr, other⟩
    · obtain rfl : asked = key := Sql.Value.text.inj (own'.symm.trans named)
      rw [beq_self_eq_true, Bool.and_true]
      refine Or.inl ⟨_, before old hold meant, (fun idle => nomatch idle), fun _ n was fits => ?_⟩
      exact value.symm.trans (counts n was fits)
    · have ne : (asked == key) = false := by
        rw [beq_eq_false_iff_ne]
        rintro rfl
        exact other named
      rw [ne, Bool.false_and]
      exact Or.inl ⟨_, before next hr named, fun _ => value.symm, fun updated => nomatch updated⟩

theorem Operation.revisesRow (h : Run made g) (op : Operation) (leave : LeaveTypes op.fields)
    {version : Sql.Value} (has : (op.run g).database.HasRow table key version) :
    RevisesRow (op.updatesRow table key g) g.database table key version := by
  have inv := h.coherent.inv
  have orderly : g.database.IsOrderly := fun t ht => (h.built t ht).1
  by_cases byKey : ∀ entityId key values actor ambient,
      op ≠ .updateRecordByKey entityId key values actor ambient
  · have idle : op.updatesRow table key g = false := by
      cases op with
      | updateRecordByKey _ _ _ _ _ => exact absurd rfl (byKey _ _ _ _ _)
      | _ => rfl
    rw [idle]
    have move := h.tableMove op leave table
    obtain ⟨u, m, row, there, own, template, hr, named, value⟩ := id has
    rw [there] at move
    generalize found : some u = after at move
    cases move with
    | same => exact .kept (there.trans found) has
    | gone => cases found
    | made empty =>
      rw [Option.some.inj found, empty] at hr
      cases hr
    | @written e statement database he created sameTable act write =>
      have bare := write.map_bare_table? inv.tidy table
      rw [← found] at bare
      obtain ⟨t, was, bare⟩ := Option.map_eq_some_iff.mp bare.symm
      have ownBefore : t.IsBuiltFrom m := own.of_bare bare
      have meant : g.database.table? e.table = some t :=
        (Database.table?_congr sameTable).trans was
      have layout := (h.layout_of_table he created meant ownBefore).symm.trans template
      obtain ⟨v, now, bare', renews⟩ := write.renews orderly was ownBefore template
        (starts_of_writes byKey act layout)
      obtain rfl := Option.some.inj (now.symm.trans found.symm)
      rw [Table.valueOf_congr bare'] at named value
      rcases renews row hr with hr | ⟨first, new⟩
      · exact Or.inl ⟨version, ⟨t, m, row, was, ownBefore, template, hr, named, value⟩,
          fun _ => rfl, fun updated => nomatch updated⟩
      · refine Or.inr ⟨value.symm.trans first, ?_⟩
        rw [Database.hasKey, was]
        show t.rows.any _ = false
        exact List.any_eq_false.mpr fun s hs => by simpa using new key named s hs
  · -- Only such an operation changes a row.
    push Not at byKey
    obtain ⟨entityId, asked, values, actor, ambient, rfl⟩ := byKey
    simp only [updatesRow, run] at has ⊢
    rcases Engine.updateRecordByKey_cases inv entityId asked values actor ambient with
      ⟨e, row, data, database, he, rfl, created, updated, eq⟩ | ⟨id, eq⟩ | ⟨f, eq⟩
    · rw [eq] at has ⊢
      have found : g.database.entity? e.id = some e := inv.sound.entity?_iff.mpr ⟨he, rfl⟩
      rw [found]
      exact h.updateRow_revises he created updated has
    · rw [eq] at has ⊢
      have tables := Engine.updateRecord_tables inv id values actor ambient
      have kept := RevisesRow.kept (congrArg (List.find? _) tables) has
      cases (g.updateRecord id values actor ambient).1 <;> exact kept
    · rw [eq] at has ⊢
      exact .kept rfl has

/-! ### Counted updates -/

/-- What has a version: a definition, deleted or not, a document, or the row under an identifier in
the table of a name. -/
inductive Subject where
  | definition (id : Int)
  | document (id : Int)
  | row (table key : String)

namespace Subject

def IsRow : Subject → Prop
  | row _ _ => True
  | _ => False

/-- The subject is there, with a version. Rows have one in templates. -/
def HasVersion : Subject → Database → Sql.Value → Prop
  | definition id, db, v => ∃ n, (id, n) ∈ db.definitionVersions ∧ v = .integer n
  | document id, db, v => ∃ n, (id, n) ∈ db.documentVersions ∧ v = .integer n
  | row table key, db, v => db.HasRow table key v

def isIn : Subject → Database → Bool
  | definition id, db => db.definitionVersions.any fun x => x.1 = id
  | document id, db => db.documentVersions.any fun x => x.1 = id
  | row table key, db => db.hasKey table key

/-- The operation updates the subject with success. -/
def isUpdated : Subject → Operation → Engine → Bool
  | definition id, op, g => op.updatedDefinition? g = some id
  | document id, op, g => op.updatedDocument? g = some id
  | row table key, op, g => op.updatesRow table key g

/-- The updates since the subject was stored, once an operation follows. -/
def count (s : Subject) (n : Nat) (op : Operation) (g : Engine) : Nat :=
  if s.isIn g.database then if s.isUpdated op g then n + 1 else n else 0

/-- An operation that may happen where updates are counted: no text holds further statements, and
for rows, types of columns are left open. -/
def Suits : Subject → Operation → Engine → Prop
  | row _ _, op, _ => LeaveTypes op.fields
  | _, op, g => op.IsPlain g

end Subject

/-- The runs with the number of updates of a subject that succeeded since it was stored. -/
inductive Counted (s : Subject) : Nat → Engine → Prop
  | start (baseUrl : String) : Counted s 0 (Engine.start .empty baseUrl)
  | step {n : Nat} {g : Engine} (op : Operation) :
      Counted s n g → s.Suits op g → Counted s (s.count n op g) (op.run g)
  | reload {n : Nat} {g : Engine} (baseUrl : String) :
      Counted s n g → Counted s n (Engine.start g.database baseUrl)

namespace Counted

variable {s : Subject} {n : Nat} {id : Int}

theorem plainRun (h : Counted s n g) (other : ¬ s.IsRow) : PlainRun g := by
  induction h with
  | start baseUrl => exact .start baseUrl
  | step op _ suits ih =>
    refine .step op ih ?_
    cases s with
    | row _ _ => exact absurd trivial other
    | _ => exact suits
  | reload baseUrl _ ih => exact .reload baseUrl ih

theorem run (h : Counted (.row table key) n g) : ∃ made, Run made g := by
  induction h with
  | start baseUrl => exact ⟨_, .start baseUrl⟩
  | step op _ suits ih =>
    obtain ⟨made, run⟩ := ih
    exact ⟨_, .step op run suits⟩
  | reload baseUrl _ ih =>
    obtain ⟨made, run⟩ := ih
    exact ⟨_, .reload baseUrl run⟩

theorem definition (h : Counted (.definition id) n g) :
    ∀ v, (id, v) ∈ g.database.definitionVersions → v = 1 + n := by
  induction h with
  | start _ => exact fun v mem => nomatch mem
  | reload _ _ ih => exact ih
  | step op before suits ih =>
    intro v mem
    have inv := (before.plainRun fun isRow => isRow).reached.inv
    have counted := (op.revises_definitions inv suits).counted mem ih
    rw [counted]
    simp only [Subject.count, Subject.isIn, Subject.isUpdated, decide_eq_true_eq]

theorem document (h : Counted (.document id) n g) :
    ∀ v, (id, v) ∈ g.database.documentVersions → v = 1 + n := by
  induction h with
  | start _ => exact fun v mem => nomatch mem
  | reload _ _ ih => exact ih
  | step op before suits ih =>
    intro v mem
    have run := before.plainRun fun isRow => isRow
    have counted := (op.revises_documents run.reached.inv run.owned suits).counted mem ih
    rw [counted]
    simp only [Subject.count, Subject.isIn, Subject.isUpdated, decide_eq_true_eq]

/-- The number of updates is one more than the version, which is to be a number of 64 bits. -/
theorem row (h : Counted (.row table key) n g) (fits : (n : Int) < Number.maxInt64) :
    ∀ v, g.database.HasRow table key v → v = .integer (1 + n) := by
  induction h with
  | start _ =>
    rintro v ⟨t, -, -, there, -⟩
    cases there
  | reload _ _ ih => exact ih fits
  | @step n g op before leave ih =>
    intro v has
    -- The row was there before, and its version was counted, or it is new and counting starts.
    obtain ⟨made, run⟩ := before.run
    rcases op.revisesRow run leave has with ⟨old, was, kept, counts⟩ | ⟨first, new⟩
    · have present : (Subject.row table key).isIn g.database = true := was.hasKey
      rw [Subject.count, present, if_pos rfl] at fits ⊢
      cases updated : (Subject.row table key).isUpdated op g with
      | false =>
        rw [updated, if_neg Bool.false_ne_true] at fits
        rw [kept updated, ih fits old was, if_neg Bool.false_ne_true]
      | true =>
        rw [updated, if_pos rfl] at fits
        have earlier : (n : Int) < Number.maxInt64 := by omega
        have inRange : Number.inInt64 (1 + n + 1) = true := by
          rw [Number.maxInt64] at fits
          refine Bool.and_eq_true_iff.mpr ⟨decide_eq_true ?_, decide_eq_true ?_⟩
          · rw [Number.minInt64]; omega
          · rw [Number.maxInt64]; omega
        rw [counts updated _ (ih earlier old was) inRange, if_pos rfl]
        congr 1
    · have absent : (Subject.row table key).isIn g.database = false := new
      rw [first, Subject.count, absent, if_neg Bool.false_ne_true]
      rfl

/-- Every state that a run comes to, it comes to with the updates counted. -/
theorem of_plainRun (h : PlainRun g) (other : ¬ s.IsRow) : ∃ n, Counted s n g := by
  induction h with
  | start baseUrl => exact ⟨0, .start baseUrl⟩
  | step op _ plain ih =>
    obtain ⟨n, counted⟩ := ih
    refine ⟨_, .step op counted ?_⟩
    cases s with
    | row _ _ => exact absurd trivial other
    | _ => exact plain
  | reload baseUrl _ ih =>
    obtain ⟨n, counted⟩ := ih
    exact ⟨n, .reload baseUrl counted⟩

theorem of_run (h : Run made g) : ∃ n, Counted (.row table key) n g := by
  induction h with
  | start baseUrl => exact ⟨0, .start baseUrl⟩
  | step op _ leave ih =>
    obtain ⟨n, counted⟩ := ih
    exact ⟨_, .step op counted leave⟩
  | reload baseUrl _ ih =>
    obtain ⟨n, counted⟩ := ih
    exact ⟨n, .reload baseUrl counted⟩

theorem hasVersion (h : Counted s n g) (fits : s.IsRow → (n : Int) < Number.maxInt64) :
    ∀ v, s.HasVersion g.database v → v = .integer (1 + n) := by
  cases s with
  | definition id =>
    rintro v ⟨m, mem, rfl⟩
    rw [h.definition m mem]
  | document id =>
    rintro v ⟨m, mem, rfl⟩
    rw [h.document m mem]
  | row table key => exact h.row (fits trivial)

end Counted

theorem Subject.HasVersion.isIn {s : Subject} {db : Database} {v : Sql.Value}
    (h : s.HasVersion db v) : s.isIn db = true := by
  cases s with
  | definition id =>
    obtain ⟨n, mem, -⟩ := h
    exact List.any_eq_true.mpr ⟨_, mem, by simp⟩
  | document id =>
    obtain ⟨n, mem, -⟩ := h
    exact List.any_eq_true.mpr ⟨_, mem, by simp⟩
  | row table key => exact Database.HasRow.hasKey h

def updateNote : Operation := .updateRecord 1 [("body", .text "second")] "a" ⟨⟨0, 0⟩, "r", "c"⟩

end EntityEngine
