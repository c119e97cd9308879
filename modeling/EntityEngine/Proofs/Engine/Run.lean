import EntityEngine.Proofs.Engine.Definitions
import EntityEngine.Proofs.Engine.Records

/-! Runs of the services: an engine starts with an empty store, carries out operations one after the
other, each of which may fail, and may be started anew on its store. What its store and its registry
keep to is an invariant of every operation whose statements leave the stored definitions alone. -/

namespace EntityEngine

open Store

/-- The operations of the services. Those that only read the store are left out. -/
inductive Operation where
  | createEntity (draft : EntityDraft) (actor : String) (ambient : Ambient)
  | materialize (id : Int)
  | replaceFields (id : Int) (fields : List FieldDraft) (actor : String) (ambient : Ambient)
  | deleteEntity (id : Int) (dropTable : Bool) (actor : String) (ambient : Ambient)
  | createRecord (appId : Int) (code : String) (values : ValueMap) (actor : String)
      (ambient : Ambient)
  | recordByKey (entityId : Int) (key : String)
  | listRecords (appId : Int) (code : String) (page size : Nat)
  | updateRecord (id : Int) (values : ValueMap) (actor : String) (ambient : Ambient)
  | updateRecordByKey (entityId : Int) (key : String) (values : ValueMap) (actor : String)
      (ambient : Ambient)
  | deleteRecord (id : Int)
  | deleteRecordByKey (entityId : Int) (key : String)
  | query (appId : Int) (code : String) (options : QueryOptions)

namespace Operation

/-- The engine after an operation, whether that succeeds or fails. -/
def run : Operation → Engine → Engine
  | createEntity draft actor ambient, g => (g.createEntity draft actor ambient).2
  | materialize id, g => (g.materialize id).2
  | replaceFields id fields actor ambient, g => (g.replaceFields id fields actor ambient).2
  | deleteEntity id dropTable actor ambient, g => (g.deleteEntity id dropTable actor ambient).2
  | createRecord appId code values actor ambient, g =>
    (g.createRecord appId code values actor ambient).2
  | recordByKey entityId key, g => (g.recordByKey entityId key).2
  | listRecords appId code page size, g => (g.listRecords appId code page size).2
  | updateRecord id values actor ambient, g => (g.updateRecord id values actor ambient).2
  | updateRecordByKey entityId key values actor ambient, g =>
    (g.updateRecordByKey entityId key values actor ambient).2
  | deleteRecord id, g => (g.deleteRecord id).2
  | deleteRecordByKey entityId key, g => (g.deleteRecordByKey entityId key).2
  | query appId code options, g => (g.query appId code options).2

/-- The definition whose table an operation makes, and the store in which it does so. -/
def makes? : Operation → Engine → Option (Entity × Database)
  | createEntity draft actor ambient, g =>
    match draft.validate, g.database.createEntity draft actor ambient with
    | .ok (), .ok (e, database) => if e.autoCreate then some (e, database) else none
    | _, _ => none
  | materialize id, g =>
    match g.database.entity? id with
    | some e => if e.tableCreated then none else some (e, g.database)
    | none => none
  | _, _ => none

/-- The statements of an operation, should it make a table, leave the stored definitions as they
are. -/
def LeavesDefinitions (op : Operation) (g : Engine) : Prop :=
  ∀ e database made, op.makes? g = some (e, database) → database.createTable e = .ok made →
    made.entities = database.entities

/-- The definitions that an operation deletes, or whose rows it writes. -/
def ActsOn : Operation → Entity → Prop
  | deleteEntity id _ _ _, e => e.id = id
  | createRecord appId code _ _ _, e => e.appId = appId ∧ e.code = code
  | updateRecordByKey entityId _ _ _ _, e | deleteRecordByKey entityId _, e => e.id = entityId
  | _, _ => False

/-- The statement on the rows of a definition's table that an operation may carry out. -/
def Writes : Operation → Entity → Statement → Prop
  | createRecord appId code values _ ambient, e, statement =>
    (e.appId = appId ∧ e.code = code) ∧ ∃ data, prepareValues e values = .ok data ∧
      statement = .insert (newValues e data ambient)
  | updateRecordByKey entityId _ values _ ambient, e, statement =>
    e.id = entityId ∧ ∃ data, prepareValues e values = .ok data ∧
      statement = .update (Database.rowChanges e data ambient)
  | deleteRecordByKey entityId _, e, statement => e.id = entityId ∧ statement = .delete
  | _, _, _ => False

theorem Writes.actsOn {op : Operation} {e : Entity} {statement : Statement}
    (writes : op.Writes e statement) : op.ActsOn e := by
  cases op with
  | createRecord _ _ _ _ _ => exact writes.1
  | updateRecordByKey _ _ _ _ _ => exact writes.1
  | deleteRecordByKey _ _ => exact writes.1
  | _ => exact writes.elim

/-- The id of the definition that an operation is addressed to, which may be that of a document. -/
def target? : Operation → Engine → Option Int
  | createEntity _ _ _, _ => none
  | materialize id, _ | replaceFields id _ _ _, _ | deleteEntity id _ _ _, _ => some id
  | createRecord appId code _ _ _, g | listRecords appId code _ _, g | query appId code _, g =>
    (g.database.entityByCode? appId code).map Entity.id
  | recordByKey entityId _, _ | updateRecordByKey entityId _ _ _ _, _
  | deleteRecordByKey entityId _, _ => some entityId
  | updateRecord id _ _ _, g | deleteRecord id, g => (g.database.record? id).map Record.entityId

/-- The documents that an operation may add. -/
def Adds : Operation → Record → Prop
  | createRecord appId code _ _ ambient, r =>
    r.appId = appId ∧ r.entityCode = code ∧ r.audit.createdAt = ambient.now.toMicros
  | _, _ => False

/-- The documents that an operation changes or removes. -/
def Names : Operation → Record → Prop
  | updateRecord id _ _ _, r | deleteRecord id, r => r.id = id
  | updateRecordByKey entityId key _ _ _, r | deleteRecordByKey entityId key, r =>
    r.entityId = entityId ∧ r.recordId = key
  | _, _ => False

/-- No text of an operation, should it make a table, holds further statements. -/
def IsPlain (op : Operation) (g : Engine) : Prop :=
  ∀ e database, op.makes? g = some (e, database) → e.tableText.further = []

theorem isPlain_of_none {op : Operation} {g : Engine} (none : op.makes? g = none) :
    op.IsPlain g := by
  intro e database makes
  rw [none] at makes
  cases makes

end Operation

/-- The engines that the services come to from an empty store. -/
inductive Reached : Engine → Prop
  | start (baseUrl : String) : Reached (Engine.start .empty baseUrl)
  | step {g : Engine} (op : Operation) :
      Reached g → op.LeavesDefinitions g → Reached (op.run g)
  | reload {g : Engine} (baseUrl : String) :
      Reached g → Reached (Engine.start g.database baseUrl)

variable {g : Engine}

namespace Operation

/-- The field drafts of an operation. -/
def fields : Operation → List FieldDraft
  | createEntity draft _ _ => draft.fields
  | replaceFields _ fields _ _ => fields
  | _ => []

/-- What an operation comes to, but for a table that it makes. -/
inductive Move (op : Operation) (g : Engine) : Engine → Prop
  | records {g' : Engine} (step : Engine.RecordStep op.Writes op.Adds op.Names g g') : Move op g g'
  | created {draft : EntityDraft} {ambient : Ambient} {e : Entity} {database : Database}
      (valid : draft.validate = .ok ()) (same : draft.fields = op.fields)
      (c : g.database.Created draft ambient e database) :
      Move op g (({ g with database } : Engine).register e)
  | replaced {id : Int} {e e' : Entity} {database : Database}
      (valid : validateFields op.fields e.layout = .ok ())
      (r : g.database.Replaced id op.fields e e' database) (meant : op.target? g = some id) :
      Move op g (({ g with database } : Engine).register e')
  | deleted {e : Entity} {change : Entity → Entity} (he : e ∈ g.database.live) (act : op.ActsOn e)
      (deletes : ∀ d, (change d).deleted = true ∧ Database.Mild d (change d)) :
      Move op g ⟨g.database.changeEntity e.id change, g.registry.remove e.id, g.baseUrl⟩
  | dropped {e : Entity} {change : Entity → Entity} {dropped : Database}
      (he : e ∈ g.database.live) (act : op.ActsOn e)
      (deletes : ∀ d, (change d).deleted = true ∧ Database.Mild d (change d))
      (d : (g.database.changeEntity e.id change).Dropped e.table dropped) :
      Move op g ⟨dropped.marked e.id false, g.registry.remove e.id, g.baseUrl⟩

theorem Move.refl (op : Operation) (g : Engine) : op.Move g g := .records .none

theorem Move.inv {op : Operation} {g' : Engine} (move : op.Move g g') (inv : g.Inv) : g'.Inv := by
  cases move with
  | records step => exact step.inv inv
  | created valid _ c => exact Engine.created_inv inv valid c
  | replaced _ r => exact Engine.replaced_inv inv r
  | deleted he _ deletes => exact Engine.deleted_inv inv he deletes
  | dropped he _ deletes d => exact Engine.deleted_dropped_inv inv he deletes d

theorem replaceFields_move (id : Int) (fields : List FieldDraft) (actor : String)
    (ambient : Ambient) : (replaceFields id fields actor ambient).Move g
      (g.replaceFields id fields actor ambient).2 := by
  rcases Engine.replaceFields_cases g id fields actor ambient with
    eq | ⟨e, e', database, valid, r, eq⟩
  · rw [eq]
    exact .refl _ g
  · rw [eq]
    exact .replaced valid r rfl

theorem deleteEntity_move (inv : g.Inv) (id : Int) (dropTable : Bool) (actor : String)
    (ambient : Ambient) : (deleteEntity id dropTable actor ambient).Move g
      (g.deleteEntity id dropTable actor ambient).2 := by
  rcases Engine.deleteEntity_cases inv id dropTable actor ambient with
    eq | ⟨e, change, found, deletes, eq | ⟨dropped, d, eq⟩⟩
  · rw [eq]
    exact .refl _ g
  · obtain ⟨he, same⟩ := inv.sound.entity?_iff.mp found
    rw [eq]
    exact .deleted he same deletes
  · obtain ⟨he, same⟩ := inv.sound.entity?_iff.mp found
    rw [eq]
    exact .dropped he same deletes d

/-- An operation comes to an engine, and perhaps makes the table of a definition there, one that had
none before. -/
theorem run_cases (inv : g.Inv) (op : Operation) :
    (op.makes? g = none ∧ op.Move g (op.run g)) ∨
      ∃ (e : Entity) (g' : Engine), op.makes? g = some (e, g'.database) ∧ op.Move g g' ∧
        e ∈ g'.database.live ∧ (∀ d ∈ g.database.live, d.id = e.id → d.tableCreated = false) ∧
          op.run g = (g'.makeTable e).2 := by
  cases op with
  | createEntity draft actor ambient =>
    simp only [makes?, run, Engine.createEntity]
    cases valid : draft.validate with
    | error f => exact Or.inl ⟨rfl, .refl _ g⟩
    | ok _ =>
      cases created : g.database.createEntity draft actor ambient with
      | error f => exact Or.inl ⟨rfl, .refl _ g⟩
      | ok p =>
        obtain ⟨e, database⟩ := p
        have c := Database.created_of_createEntity created
        have now : (createEntity draft actor ambient).Move g
            (({ g with database } : Engine).register e) := .created valid rfl c
        simp only [during, Except.mapError]
        split
        · refine Or.inr ⟨e, _, rfl, now, c.mem_live.mpr (Or.inr rfl), ?_, rfl⟩
          intro d hd same
          exact absurd same (c.id_ne (Database.mem_live.mp hd).1)
        · exact Or.inl ⟨rfl, now⟩
  | materialize id =>
    simp only [makes?, run, Engine.materialize, Engine.entity]
    cases found : g.database.entity? id with
    | none => exact Or.inl ⟨rfl, .refl _ g⟩
    | some e =>
      cases made : e.tableCreated with
      | true =>
        refine Or.inl ⟨by simp [made], ?_⟩
        simp only [made, if_true]
        exact .refl _ g
      | false =>
        have he := (inv.sound.entity?_iff.mp found).1
        refine Or.inr ⟨e, g, by simp [made], .refl _ g, he, ?_, by simp [made]⟩
        intro d hd same
        rw [inv.sound.eq_of_id (Database.mem_live.mp hd).1 (Database.mem_live.mp he).1 same]
        exact made
  | replaceFields id fields actor ambient =>
    exact Or.inl ⟨rfl, replaceFields_move id fields actor ambient⟩
  | deleteEntity id dropTable actor ambient =>
    exact Or.inl ⟨rfl, deleteEntity_move inv id dropTable actor ambient⟩
  | createRecord appId code values actor ambient =>
    exact Or.inl ⟨rfl, .records (Engine.createRecord_step inv appId code values actor ambient)⟩
  | recordByKey entityId key =>
    refine Or.inl ⟨rfl, ?_⟩
    rw [run, Engine.recordByKey_step inv]
    exact .refl _ g
  | listRecords appId code page size =>
    refine Or.inl ⟨rfl, ?_⟩
    rw [run, Engine.listRecords_step inv]
    exact .refl _ g
  | updateRecord id values actor ambient =>
    exact Or.inl ⟨rfl, .records
      (Engine.updateRecord_step inv id values actor ambient fun _ _ _ same => same)⟩
  | updateRecordByKey entityId key values actor ambient =>
    exact Or.inl ⟨rfl,
      .records (Engine.updateRecordByKey_step inv entityId key values actor ambient)⟩
  | deleteRecord id => exact Or.inl ⟨rfl, .records (Engine.deleteRecord_step g id)⟩
  | deleteRecordByKey entityId key =>
    exact Or.inl ⟨rfl, .records (Engine.deleteRecordByKey_step inv entityId key)⟩
  | query appId code options =>
    refine Or.inl ⟨rfl, ?_⟩
    rw [run, Engine.query_step inv]
    exact .refl _ g

end Operation

/-- One operation keeps the invariant, if it leaves the stored definitions to their own
operations. -/
theorem Operation.run_inv (inv : g.Inv) (op : Operation) (leaves : op.LeavesDefinitions g) :
    (op.run g).Inv := by
  rcases op.run_cases inv with ⟨-, move⟩ | ⟨e, g', makes, move, he, -, eq⟩
  · exact move.inv inv
  · rw [eq]
    exact Engine.makeTable_inv (move.inv inv) he fun made created =>
      leaves e g'.database made makes created

/-- Every run keeps the invariant. -/
theorem Reached.inv (h : Reached g) : g.Inv := by
  induction h with
  | start baseUrl => exact Engine.start_inv Database.empty_sound Database.empty_tidy baseUrl
  | step op _ leaves ih => exact op.run_inv ih leaves
  | reload baseUrl _ ih => exact Engine.start_inv ih.sound ih.tidy baseUrl

end EntityEngine
