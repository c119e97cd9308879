import EntityEngine.Proofs.Engine.Ownership

/-! Operations that are refused: for what is wrong with what they are given, for a code in use, or
for a definition or a record that is not there. All but one way to be refused come before anything
is written. The one is that the text of a table holds further statements, and these remove the
definition whose table is made: it is looked for once more when its table is marked. -/

namespace EntityEngine

open Store

/-- A refusal, as opposed to a failure of the database. -/
def Fault.isRefusal : Fault → Bool
  | .invalid _ | .duplicateCode _ _ | .entityNotFound _ | .recordNotFound _ => true
  | _ => false

theorem Fault.isRefusal_within (context : String) (f : Fault) :
    (f.within context).isRefusal = f.isRefusal := by
  unfold Fault.within
  split <;> rfl

variable {α β : Type} {g : Engine}

/-- The outcome is a refusal. -/
def isRefused : Except Fault α → Bool
  | .error f => f.isRefusal
  | .ok _ => false

@[simp] theorem isRefused_during (context : String) (result : Except Fault α) :
    isRefused (during context result) = isRefused result := by
  cases result with
  | ok a => rfl
  | error f => exact f.isRefusal_within context

@[simp] theorem isRefused_map (change : α → β) (result : Except Fault α) :
    isRefused (result.map change) = isRefused result := by
  cases result <;> rfl

/-- A fault that the database tells of is no refusal. -/
theorem isRefused_mapError {told : Sql.Fault → Fault} (plain : ∀ f, (told f).isRefusal = false)
    (result : Except Sql.Fault α) : isRefused (result.mapError told) = false := by
  cases result with
  | ok a => rfl
  | error f => exact plain f

theorem isRefused_bind {result : Except Fault α} {next : α → Except Fault β}
    (first : isRefused result = false) (then_ : ∀ a, isRefused (next a) = false) :
    isRefused (result >>= next) = false := by
  cases result with
  | error f => exact first
  | ok a => exact then_ a

/-! ### Records -/

namespace Store.Database

variable {db db' : Database}

/-- A new row is not refused. -/
theorem insertRow_not_refused (db : Database) (e : Entity) (data : ValueMap) (ambient : Ambient) :
    isRefused (db.insertRow e data ambient).1 = false := by
  unfold insertRow
  simp only
  split
  · rfl
  · split
    · rfl
    · split
      · rfl
      · exact isRefused_mapError (fun _ => rfl) _

/-- An update that changes no row leaves the store as it was. -/
theorem changeNumbered_nil {context : Sql.Setting} {t : Table}
    {changes : List (String × Table.Change)} {numbers : List Int}
    (h : db.changeNumbered context t changes numbers = .ok (db', [])) : db' = db := by
  induction numbers generalizing t with
  | nil => exact (Prod.mk.inj (Except.ok.inj h)).1.symm
  | cons number numbers ih =>
    simp only [changeNumbered] at h
    split at h
    · exact ih h
    · obtain ⟨settled?, -, h⟩ := bind_ok h
      split at h
      · exact ih h
      · obtain ⟨d, -, h⟩ := bind_ok h
        obtain ⟨⟨d', others⟩, -, h⟩ := bind_ok h
        cases (Prod.mk.inj (Except.ok.inj h)).2

/-- A removal of no row leaves the store as it was. -/
theorem deleteFrom_zero {name : String} {conditions : List Sql.Condition}
    (h : db.deleteFrom name conditions = .ok (db', 0)) : db' = db := by
  rw [deleteFrom] at h
  obtain ⟨t, -, h⟩ := bind_ok h
  split at h
  · cases h
  · obtain ⟨d, removed, h⟩ := bind_ok h
    split at h
    · obtain ⟨rfl, count⟩ := Prod.mk.inj (Except.ok.inj h)
      rw [List.length_eq_zero_iff.mp count] at removed
      exact (Except.ok.inj removed).symm
    · cases h

end Store.Database

namespace Engine

/-- A change of the store that is refused is not made. -/
theorem commit_refused {result : Except Fault (α × Database)}
    (refused : isRefused (g.commit result).1 = true) : (g.commit result).2 = g := by
  cases result with
  | ok p => cases refused
  | error f => rfl

theorem createRecord_refused (inv : g.Inv) {appId : Int} {code : String} {values : ValueMap}
    {actor : String} {ambient : Ambient}
    (refused : isRefused (g.createRecord appId code values actor ambient).1 = true) :
    (g.createRecord appId code values actor ambient).2 = g := by
  unfold createRecord at refused ⊢
  split
  · rfl
  · rename_i e g₁ resolved
    obtain ⟨rfl, -⟩ := inv.resolve resolved
    simp only [resolved] at refused
    split
    · rfl
    · rename_i data prepared
      simp only [prepared] at refused
      split
      · rename_i created
        simp only [created, if_true, isRefused_during, isRefused_map,
          Database.insertRow_not_refused] at refused
        cases refused
      · rename_i unmade
        rw [if_neg unmade] at refused
        exact commit_refused refused

theorem updateRecord_refused (inv : g.Inv) {id : Int} {values : ValueMap} {actor : String}
    {ambient : Ambient} (refused : isRefused (g.updateRecord id values actor ambient).1 = true) :
    (g.updateRecord id values actor ambient).2 = g := by
  unfold updateRecord at refused ⊢
  split
  · rfl
  · rename_i current found
    simp only [found] at refused
    split
    · rfl
    · rename_i e g₁ resolved
      obtain ⟨rfl, -⟩ := inv.resolveId resolved
      simp only [resolved] at refused
      split
      · rfl
      · rename_i data prepared
        simp only [prepared] at refused
        exact commit_refused refused

theorem updateRecordByKey_refused (inv : g.Inv) {entityId : Int} {key : String} {values : ValueMap}
    {actor : String} {ambient : Ambient}
    (refused : isRefused (g.updateRecordByKey entityId key values actor ambient).1 = true) :
    (g.updateRecordByKey entityId key values actor ambient).2 = g := by
  unfold updateRecordByKey at refused ⊢
  split
  · rfl
  · rename_i e g₁ resolved
    obtain ⟨rfl, -⟩ := inv.resolveId resolved
    simp only [resolved] at refused
    split
    · rename_i created
      simp only [created, if_true] at refused
      split
      · rfl
      · rename_i data prepared
        simp only [prepared] at refused
        exact commit_refused refused
    · rename_i unmade
      rw [if_neg unmade] at refused
      split
      · rfl
      · rename_i current found
        simp only [found, isRefused_map] at refused
        exact updateRecord_refused inv refused

theorem deleteRecordByKey_refused (inv : g.Inv) {entityId : Int} {key : String}
    (refused : isRefused (g.deleteRecordByKey entityId key).1 = true) :
    (g.deleteRecordByKey entityId key).2 = g := by
  unfold deleteRecordByKey at refused ⊢
  split
  · rfl
  · rename_i e g₁ resolved
    obtain ⟨rfl, -⟩ := inv.resolveId resolved
    simp only [resolved] at refused
    exact commit_refused refused

/-! ### Definitions -/

theorem replaceFields_refused {id : Int} {fields : List FieldDraft} {actor : String}
    {ambient : Ambient} (refused : isRefused (g.replaceFields id fields actor ambient).1 = true) :
    (g.replaceFields id fields actor ambient).2 = g := by
  unfold replaceFields at refused ⊢
  split
  · rfl
  · rename_i current found
    simp only [found] at refused
    split
    · rfl
    · rename_i valid
      simp only [valid] at refused
      split
      · rfl
      · rename_i e database replaced
        simp only [replaced] at refused
        cases refused

/-- The database may fail to make a table of a free name, but does not refuse to. -/
theorem createTable_not_refused (db : Database) {e : Entity} (free : IsFree e.table) :
    isRefused (db.createTable e) = false := by
  unfold Database.createTable
  rw [free]
  exact isRefused_bind rfl fun _ => isRefused_mapError (fun _ => rfl) _

theorem dropTable_not_refused (db : Database) {name : String} (free : IsFree name) :
    isRefused (db.dropTable name) = false := by
  unfold Database.dropTable
  rw [free]
  refine isRefused_bind rfl fun _ => ?_
  split
  · rfl
  · rename_i t _
    refine isRefused_bind (isRefused_mapError (fun _ => rfl) _) fun emptied => ?_
    cases emptied.isReferredTo t <;> rfl

/-- Making a table is refused only when its definition is gone once the table is there. -/
theorem makeTable_refused {e : Entity} (free : IsFree e.table)
    (refused : isRefused (g.makeTable e).1 = true) :
    ∃ made, g.database.createTable e = .ok made ∧ ∀ d ∈ made.entities, d.id ≠ e.id := by
  unfold makeTable at refused
  cases created : g.database.createTable e with
  | error f =>
    have plain := createTable_not_refused g.database free
    rw [created] at plain refused
    exact absurd (refused.symm.trans plain) Bool.false_ne_true.symm
  | ok made =>
    refine ⟨made, rfl, fun d hd same => ?_⟩
    have set := Database.setTableCreated_of_mem hd true
    rw [same] at set
    simp only [created, set] at refused
    cases refused

theorem deleteEntity_refused (inv : g.Inv) {id : Int} {dropTable : Bool} {actor : String}
    {ambient : Ambient} (refused : isRefused (g.deleteEntity id dropTable actor ambient).1 = true) :
    (g.deleteEntity id dropTable actor ambient).2 = g := by
  unfold deleteEntity at refused ⊢
  split
  · rfl
  · rename_i e database deleted
    simp only [deleted] at refused
    -- Once the definition is deleted, nothing is refused any more.
    exfalso
    obtain ⟨found, change, deletes, rfl⟩ := Database.softDelete_ok (during_ok deleted)
    obtain ⟨he, rfl⟩ := inv.sound.entity?_iff.mp found
    split at refused
    · unfold dropTableOf at refused
      have plain := dropTable_not_refused (g.database.changeEntity e.id change)
        (inv.sound.named e he)
      cases dropped : (g.database.changeEntity e.id change).dropTable e.table with
      | error f =>
        rw [dropped] at plain refused
        exact absurd (refused.symm.trans plain) Bool.false_ne_true.symm
      | ok dropped' =>
        have now := deleted_inv inv he deletes
        have d := Database.dropped_of_dropTable now.tidy dropped
        have stored : change e ∈ dropped'.entities := by
          rw [d.entities]
          exact Database.mem_changeEntity.mpr ⟨e, (Database.mem_live.mp he).1, if_pos rfl⟩
        have set := Database.setTableCreated_of_mem stored false
        rw [(deletes e).2.id] at set
        simp only [dropped, set] at refused
        cases refused
    · cases refused

end Engine

/-! ### The operations -/

namespace Operation

/-- The operation is refused. -/
def isRefused : Operation → Engine → Bool
  | createEntity draft actor ambient, g =>
    EntityEngine.isRefused (g.createEntity draft actor ambient).1
  | materialize id, g => EntityEngine.isRefused (g.materialize id).1
  | replaceFields id fields actor ambient, g =>
    EntityEngine.isRefused (g.replaceFields id fields actor ambient).1
  | deleteEntity id dropTable actor ambient, g =>
    EntityEngine.isRefused (g.deleteEntity id dropTable actor ambient).1
  | createRecord appId code values actor ambient, g =>
    EntityEngine.isRefused (g.createRecord appId code values actor ambient).1
  | recordByKey entityId key, g => EntityEngine.isRefused (g.recordByKey entityId key).1
  | listRecords appId code page size, g =>
    EntityEngine.isRefused (g.listRecords appId code page size).1
  | updateRecord id values actor ambient, g =>
    EntityEngine.isRefused (g.updateRecord id values actor ambient).1
  | updateRecordByKey entityId key values actor ambient, g =>
    EntityEngine.isRefused (g.updateRecordByKey entityId key values actor ambient).1
  | deleteRecord id, g => EntityEngine.isRefused (g.deleteRecord id).1
  | deleteRecordByKey entityId key, g =>
    EntityEngine.isRefused (g.deleteRecordByKey entityId key).1
  | query appId code options, g => EntityEngine.isRefused (g.query appId code options).1

/-- The operation makes a table, and the text of that removes its definition. -/
def LosesDefinition (op : Operation) (g : Engine) : Prop :=
  ∃ e database made, op.makes? g = some (e, database) ∧ database.createTable e = .ok made ∧
    ∀ d ∈ made.entities, d.id ≠ e.id

/-- What is refused changes nothing, or it loses the definition whose table is made. -/
theorem run_refused (inv : g.Inv) (op : Operation) (refused : op.isRefused g = true) :
    op.run g = g ∨ op.LosesDefinition g := by
  cases op with
  | createEntity draft actor ambient =>
    simp only [isRefused, run, Engine.createEntity] at refused ⊢
    cases valid : draft.validate with
    | error f => exact Or.inl rfl
    | ok _ =>
      cases created : g.database.createEntity draft actor ambient with
      | error f => exact Or.inl rfl
      | ok p =>
        obtain ⟨e, database⟩ := p
        have c := Database.created_of_createEntity created
        have free : IsFree e.table := by
          rw [c.table]
          exact (validate_ok valid).1
        simp only [valid, created, during, Except.mapError] at refused
        split at refused
        · rename_i auto
          obtain ⟨made, table, gone⟩ := Engine.makeTable_refused free refused
          exact Or.inr ⟨e, database, made, by simp [makes?, valid, created, auto], table, gone⟩
        · cases refused
  | materialize id =>
    simp only [isRefused, run, Engine.materialize, Engine.entity] at refused ⊢
    cases found : g.database.entity? id with
    | none => exact Or.inl rfl
    | some e =>
      simp only [found] at refused ⊢
      split
      · exact Or.inl rfl
      · rename_i unmade
        rw [if_neg unmade] at refused
        obtain ⟨he, -⟩ := inv.sound.entity?_iff.mp found
        obtain ⟨made, table, gone⟩ := Engine.makeTable_refused (inv.sound.named e he) refused
        exact Or.inr ⟨e, g.database, made, by simp [makes?, found, unmade], table, gone⟩
  | replaceFields _ _ _ _ => exact Or.inl (Engine.replaceFields_refused refused)
  | deleteEntity _ _ _ _ => exact Or.inl (Engine.deleteEntity_refused inv refused)
  | createRecord _ _ _ _ _ => exact Or.inl (Engine.createRecord_refused inv refused)
  | recordByKey entityId key => exact Or.inl (Engine.recordByKey_step inv entityId key)
  | listRecords appId code page size =>
    exact Or.inl (Engine.listRecords_step inv appId code page size)
  | updateRecord _ _ _ _ => exact Or.inl (Engine.updateRecord_refused inv refused)
  | updateRecordByKey _ _ _ _ _ => exact Or.inl (Engine.updateRecordByKey_refused inv refused)
  | deleteRecord _ => exact Or.inl (Engine.commit_refused refused)
  | deleteRecordByKey _ _ => exact Or.inl (Engine.deleteRecordByKey_refused inv refused)
  | query appId code options => exact Or.inl (Engine.query_step inv appId code options)

/-- What loses a definition leaves another engine: the registry holds the definition still, or has
come to hold it. -/
theorem LosesDefinition.changes {op : Operation} (loses : op.LosesDefinition g) (inv : g.Inv) :
    op.run g ≠ g := by
  obtain ⟨e, database, made, makes, created, gone⟩ := loses
  rcases op.run_cases inv with ⟨none, -⟩ | ⟨e', g', makes', move, he, -, eq⟩
  · rw [makes] at none
    cases none
  · obtain ⟨rfl, rfl⟩ := Prod.mk.inj (Option.some.inj (makes.symm.trans makes'))
    have left : (g'.makeTable e).2 = { g' with database := made } := by
      rcases Engine.makeTable_cases g' e with ⟨⟨f, failed⟩, -⟩ | ⟨made', created', cases'⟩
      · rw [created] at failed
        cases failed
      · obtain rfl := Except.ok.inj (created.symm.trans created')
        rcases cases' with ⟨⟨d, hd, same⟩, -⟩ | ⟨-, left⟩
        · exact absurd same (gone d hd)
        · exact left
    intro unchanged
    rw [eq, left] at unchanged
    have held : g'.registry.get? e.id = some e := (move.inv inv).holds.get?_iff.mpr ⟨he, rfl⟩
    have registry : g'.registry = g.registry := by rw [← unchanged]
    have database : made = g.database := by rw [← unchanged]
    rw [registry, inv.get?_eq] at held
    obtain ⟨stored, -⟩ := inv.sound.entity?_iff.mp held
    rw [database] at gone
    exact gone e (Database.mem_live.mp stored).1 rfl

/-- A table whose text holds no further statements leaves its definition where it is. -/
theorem IsPlain.not_losesDefinition {op : Operation} (plain : op.IsPlain g) (inv : g.Inv) :
    ¬ op.LosesDefinition g := by
  rintro ⟨e, database, made, makes, created, gone⟩
  rcases op.run_cases inv with ⟨none, -⟩ | ⟨e', g', makes', move, he, -, -⟩
  · rw [makes] at none
    cases none
  · obtain ⟨rfl, rfl⟩ := Prod.mk.inj (Option.some.inj (makes.symm.trans makes'))
    rw [plain.leavesDefinitions inv e g'.database made makes created] at gone
    exact gone e (Database.mem_live.mp he).1 rfl

end Operation

end EntityEngine
