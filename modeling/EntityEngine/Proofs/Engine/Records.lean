import EntityEngine.Engine.Records
import EntityEngine.Proofs.Engine.Invariant
import EntityEngine.Proofs.Store.Documents
import EntityEngine.Proofs.Store.RowWrite

/-! Operations on records change records only: definitions, the registry, and the form of every
table stay as they are. Of all records, only those of one table or the documents that are named
change or go. -/

namespace EntityEngine.Engine

open Store

variable {g g' : Engine} {writes : Entity → Statement → Prop} {adds named : Record → Prop}

/-- What an operation on records comes to: nothing, or a statement of its own on the rows of a
definition's table, or documents of the sort that it adds stored, and only those that it names
changed or removed. -/
inductive RecordStep (writes : Entity → Statement → Prop) (adds named : Record → Prop)
    (g : Engine) : Engine → Prop
  | none : RecordStep writes adds named g g
  | rows {e : Entity} {statement : Statement} {database : Database} (he : e ∈ g.database.live)
      (created : e.tableCreated = true) (act : writes e statement)
      (frame : Database.RowFrame True g.database database)
      (write : g.database.IsSimple → g.database.RowWrite e.table statement database) :
      RecordStep writes adds named g { g with database }
  | documents {database : Database} (frame : Database.DocumentFrame g.database database)
      (move : g.database.Owned → g.database.DocumentMove adds named database.documents) :
      RecordStep writes adds named g { g with database }

namespace RecordStep

theorem registry (h : RecordStep writes adds named g g') : g'.registry = g.registry := by
  cases h <;> rfl

theorem entities (h : RecordStep writes adds named g g') :
    g'.database.entities = g.database.entities := by
  cases h with
  | none => rfl
  | rows _ _ _ frame _ => exact frame.entities trivial
  | documents frame _ => exact frame.entities

theorem live (h : RecordStep writes adds named g g') : g'.database.live = g.database.live := by
  rw [Database.live, h.entities, Database.live]

theorem entity? (h : RecordStep writes adds named g g') (id : Int) :
    g'.database.entity? id = g.database.entity? id := by
  rw [Database.entity?, h.live, Database.entity?]

theorem frame (h : RecordStep writes adds named g g') :
    Database.RowFrame False g.database g'.database := by
  cases h with
  | none => exact .refl _ _
  | rows _ _ _ frame _ => exact frame.mono fun impossible => impossible.elim
  | documents frame _ => exact frame.rows

theorem inv (h : RecordStep writes adds named g g') (inv : g.Inv) : g'.Inv := by
  refine ⟨inv.sound.of_entities h.entities, h.frame.tidy inv.tidy, ?_⟩
  rw [h.registry, h.live]
  exact inv.holds

/-- The documents after an operation on records. -/
theorem move (h : RecordStep writes adds named g g') (owned : g.database.Owned) :
    g.database.DocumentMove adds named g'.database.documents := by
  cases h with
  | none => exact .same
  | rows _ _ _ frame _ =>
    rw [frame.documents trivial]
    exact .same
  | documents _ move => exact move owned

end RecordStep

/-- A change of the store that is carried out or not. -/
theorem commit_step {α : Type} {result : Except Fault (α × Database)}
    (h : ∀ v database, result = .ok (v, database) →
      RecordStep writes adds named g { g with database }) :
    RecordStep writes adds named g (g.commit result).2 := by
  cases result with
  | error f => exact .none
  | ok p => exact h p.1 p.2 rfl

theorem createRecord_step (inv : g.Inv) (appId : Int) (code : String) (values : ValueMap)
    (actor : String) (ambient : Ambient) :
    RecordStep (fun e statement => (e.appId = appId ∧ e.code = code) ∧
        ∃ data, prepareValues e values = .ok data ∧
          statement = .insert (newValues e data ambient))
      (fun r => r.appId = appId ∧ r.entityCode = code ∧
        r.audit.createdAt = ambient.now.toMicros) named g
      (g.createRecord appId code values actor ambient).2 := by
  unfold createRecord
  split
  · exact .none
  · rename_i e g₁ resolved
    obtain ⟨rfl, live, meant⟩ := inv.resolve resolved
    have free := inv.sound.named e live
    split
    · exact .none
    · rename_i data prepared
      split
      · rename_i created
        exact .rows live created ⟨meant, data, prepared, rfl⟩
          (Database.insertRow_frame inv.tidy free) fun simple =>
            Database.insertRow_write inv.tidy simple free
      · refine commit_step fun v database h => ?_
        obtain ⟨⟨r, database'⟩, inserted, h⟩ := bind_ok (during_ok h)
        obtain ⟨-, rfl⟩ := Prod.mk.inj (Except.ok.inj h)
        exact .documents (Database.insertRecord_frame inserted) fun _ =>
          (Database.insertRecord_ok (Database.mem_live.mp live).1 meant.1
            (fun _ app own now => ⟨app, own.trans meant.2, now⟩) inserted).1

theorem recordByKey_step (inv : g.Inv) (entityId : Int) (key : String) :
    (g.recordByKey entityId key).2 = g := by
  unfold recordByKey
  split
  · rfl
  · rename_i e g₁ resolved
    obtain ⟨rfl, -⟩ := inv.resolveId resolved
    repeat' split
    all_goals rfl

theorem listRecords_step (inv : g.Inv) (appId : Int) (code : String) (page size : Nat) :
    (g.listRecords appId code page size).2 = g := by
  unfold listRecords
  split
  · rfl
  · rename_i e g₁ resolved
    obtain ⟨rfl, -⟩ := inv.resolve resolved
    simp only
    split
    · rfl
    · rfl

theorem query_step (inv : g.Inv) (appId : Int) (code : String) (options : QueryOptions) :
    (g.query appId code options).2 = g := by
  unfold query
  split
  · rfl
  · rename_i e g₁ resolved
    obtain ⟨rfl, -⟩ := inv.resolve resolved
    rfl

theorem updateRecord_step (inv : g.Inv) (id : Int) (values : ValueMap) (actor : String)
    (ambient : Ambient)
    (only : g.database.Owned → ∀ r ∈ g.database.documents, r.id = id → named r) :
    RecordStep writes adds named g (g.updateRecord id values actor ambient).2 := by
  unfold updateRecord
  split
  · exact .none
  · split
    · exact .none
    · rename_i e g₁ resolved
      obtain ⟨rfl, -⟩ := inv.resolveId resolved
      split
      · exact .none
      · exact commit_step fun v database h => .documents
          (Database.updateRecord_frame (during_ok h)) fun owned =>
            Database.updateRecord_ok (only owned) (during_ok h)

theorem updateRecordByKey_step (inv : g.Inv) (entityId : Int) (key : String) (values : ValueMap)
    (actor : String) (ambient : Ambient) :
    RecordStep (fun e statement => e.id = entityId ∧ ∃ data, prepareValues e values = .ok data ∧
        statement = .update (Database.rowChanges e data ambient)) adds
      (fun r => r.entityId = entityId ∧ r.recordId = key) g
      (g.updateRecordByKey entityId key values actor ambient).2 := by
  unfold updateRecordByKey
  split
  · exact .none
  · rename_i e g₁ resolved
    obtain ⟨rfl, live, meant⟩ := inv.resolveId resolved
    have free := inv.sound.named e live
    split
    · rename_i created
      split
      · exact .none
      · rename_i data prepared
        refine commit_step fun v database h => ?_
        obtain ⟨⟨row, database'⟩, updated, h⟩ := bind_ok (during_ok h)
        obtain ⟨-, rfl⟩ := Prod.mk.inj (Except.ok.inj h)
        exact .rows live created ⟨meant, data, prepared, rfl⟩
          (Database.updateRow_frame inv.tidy free updated) fun simple =>
            Database.updateRow_write inv.tidy simple free updated
    · split
      · exact .none
      · rename_i current found
        refine updateRecord_step inv current.id values actor ambient fun owned r hr id => ?_
        obtain ⟨s, stored, rfl⟩ := Option.map_eq_some_iff.mp found
        rw [owned.eq_of_id hr (List.mem_of_find?_eq_some stored) id]
        simpa using List.find?_some stored

theorem deleteRecord_step (g : Engine) (id : Int) :
    RecordStep writes adds (fun r => r.id = id) g (g.deleteRecord id).2 := by
  refine commit_step fun v database h => ?_
  obtain ⟨database', deleted, h⟩ := map_ok (during_ok h)
  obtain ⟨-, rfl⟩ := Prod.mk.inj h
  exact .documents (Database.deleteRecord_frame deleted) fun _ =>
    Database.deleteRecord_ok (fun _ _ same => same) deleted

theorem deleteRecordByKey_step (inv : g.Inv) (entityId : Int) (key : String) :
    RecordStep (fun e statement => e.id = entityId ∧ statement = .delete) adds
      (fun r => r.entityId = entityId ∧ r.recordId = key) g
      (g.deleteRecordByKey entityId key).2 := by
  unfold deleteRecordByKey
  split
  · exact .none
  · rename_i e g₁ resolved
    obtain ⟨rfl, live, meant⟩ := inv.resolveId resolved
    have free := inv.sound.named e live
    refine commit_step fun v database h => ?_
    obtain ⟨database', deleted, h⟩ := map_ok h
    obtain ⟨-, rfl⟩ := Prod.mk.inj h
    split at deleted
    · rename_i created
      exact .rows live created ⟨meant, rfl⟩
        (Database.deleteRow_frame inv.tidy free (during_ok deleted)) fun simple =>
          Database.deleteRow_write inv.tidy simple free (during_ok deleted)
    · exact .documents (Database.deleteRecordByKey_frame (during_ok deleted)) fun _ =>
        Database.deleteRecordByKey_ok (fun _ _ own same => ⟨own, same⟩) (during_ok deleted)

end EntityEngine.Engine
