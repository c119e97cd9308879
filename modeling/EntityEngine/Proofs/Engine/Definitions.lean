import EntityEngine.Engine.Definitions
import EntityEngine.Proofs.Engine.Invariant
import EntityEngine.Proofs.Store.Schema

/-! What each operation on definitions can come to, its failures included, and that it keeps what an
engine keeps to. -/

namespace EntityEngine.Engine

open Store

variable {g : Engine}

/-! ### Making a table -/

/-- Making a table fails and changes nothing, or the table is made, and then its definition is
marked, unless it is gone. -/
theorem makeTable_cases (g : Engine) (e : Entity) :
    ((∃ f, g.database.createTable e = .error f) ∧ (g.makeTable e).2 = g) ∨
      ∃ made, g.database.createTable e = .ok made ∧
        (((∃ d ∈ made.entities, d.id = e.id) ∧ (g.makeTable e).2 =
            { g with
              database := made.marked e.id true
              registry := g.registry.upsert { e with tableCreated := true } }) ∨
          ((∀ d ∈ made.entities, d.id ≠ e.id) ∧
            (g.makeTable e).2 = { g with database := made })) := by
  unfold makeTable
  cases created : g.database.createTable e with
  | error f => exact Or.inl ⟨⟨f, rfl⟩, rfl⟩
  | ok made =>
    refine Or.inr ⟨made, rfl, ?_⟩
    by_cases present : ∃ d ∈ made.entities, d.id = e.id
    · refine Or.inl ⟨present, ?_⟩
      obtain ⟨d, hd, same⟩ := present
      have set := Database.setTableCreated_of_mem hd true
      rw [same] at set
      simp only [set]
      rfl
    · refine Or.inr ⟨fun d hd same => present ⟨d, hd, same⟩, ?_⟩
      cases set : made.setTableCreated e.id true with
      | error f =>
        simp only [set]
        rfl
      | ok database => exact absurd (Database.setTableCreated_ok set).1 present

theorem upsert_marked_holds (inv : g.Inv) {e : Entity} (he : e ∈ g.database.live) :
    (g.registry.upsert { e with tableCreated := true }).Holds
      (g.database.marked e.id true).live := by
  have alive := Database.live_deleted he
  refine (inv.holds.upsert (e := { e with tableCreated := true }) alive ?_).congr fun x => ?_
  · intro d hd app code
    rw [inv.sound.codes d hd e he app code]
  · rw [inv.sound.mem_live_marked he, List.mem_cons, List.mem_filter]
    simp

/-- A table whose statements leave the stored definitions alone. -/
theorem makeTable_inv (inv : g.Inv) {e : Entity} (he : e ∈ g.database.live)
    (leaves : ∀ made, g.database.createTable e = .ok made →
      made.entities = g.database.entities) : (g.makeTable e).2.Inv := by
  rcases makeTable_cases g e with ⟨-, eq⟩ | ⟨made, created, ⟨-, eq⟩ | ⟨gone, -⟩⟩
  · rw [eq]
    exact inv
  · rw [eq]
    have same := leaves made created
    have marked : (made.marked e.id true).entities = (g.database.marked e.id true).entities := by
      rw [Database.marked, Database.changeEntity, same]
      rfl
    have live : (made.marked e.id true).live = (g.database.marked e.id true).live := by
      rw [Database.live, marked, Database.live]
    refine ⟨?_, ?_, ?_⟩
    · exact (inv.sound.marked (Database.mem_live.mp he).1 true).of_entities marked
    · exact (Database.made_of_createTable inv.tidy created).tidy.of_names rfl rfl
    · show Registry.Holds _ (made.marked e.id true).live
      rw [live]
      exact upsert_marked_holds inv he
  · rw [leaves made created] at gone
    exact absurd rfl (gone e (Database.mem_live.mp he).1)

/-! ### The operations -/

/-- A new definition is stored and held, before its table is made. -/
theorem created_inv (inv : g.Inv) {draft : EntityDraft} {ambient : Ambient} {e : Entity}
    {database : Database} (valid : draft.validate = .ok ())
    (c : g.database.Created draft ambient e database) :
    (({ g with database } : Engine).register e).Inv := by
  have free : IsFree e.table := by
    rw [c.table]
    exact (validate_ok valid).1
  refine ⟨c.sound inv.sound free, ?_, ?_⟩
  · exact (c.frame False).tidy (inv.tidy.of_names rfl rfl)
  · refine (inv.holds.upsert c.live ?_).congr fun x => ?_
    · intro d hd app code
      exact absurd code (c.code_ne hd app)
    · show x ∈ database.live ↔ _
      rw [c.mem_live, List.mem_cons, List.mem_filter]
      constructor
      · rintro (hx | rfl)
        · have ne := c.id_ne (Database.mem_live.mp hx).1
          exact Or.inr ⟨hx, by simpa using ne⟩
        · exact Or.inl rfl
      · rintro (rfl | ⟨hx, -⟩)
        · exact Or.inr rfl
        · exact Or.inl hx

theorem replaceFields_cases (g : Engine) (id : Int) (fields : List FieldDraft) (actor : String)
    (ambient : Ambient) :
    (g.replaceFields id fields actor ambient).2 = g ∨
      ∃ e e' database, validateFields fields e.layout = .ok () ∧
        g.database.Replaced id fields e e' database ∧
        (g.replaceFields id fields actor ambient).2 =
          ({ g with database } : Engine).register e' := by
  unfold replaceFields entity
  cases found : g.database.entity? id with
  | none => exact Or.inl rfl
  | some e =>
    simp only
    split
    · exact Or.inl rfl
    · rename_i valid
      split
      · exact Or.inl rfl
      · rename_i e' database changed
        obtain ⟨d, r⟩ := Database.replaced_of_replaceFields (during_ok changed)
        have same : d = e := Option.some.inj (r.found.symm.trans found)
        rw [same] at r
        exact Or.inr ⟨e, e', database, valid, r, rfl⟩

theorem replaced_inv (inv : g.Inv) {id : Int} {fields : List FieldDraft} {e e' : Entity}
    {database : Database} (r : g.database.Replaced id fields e e' database) :
    (({ g with database } : Engine).register e').Inv := by
  obtain ⟨he, rfl⟩ := inv.sound.entity?_iff.mp r.found
  have mild := r.mild
  have entities := (r.frame True).entities trivial
  have alive : e'.deleted = false :=
    Database.live_deleted ((r.mem_live inv.sound).mpr (Or.inl rfl))
  refine ⟨?_, ?_, ?_⟩
  · exact (inv.sound.changeEntity (Database.mem_live.mp he).1 mild).of_entities entities
  · exact (r.frame False).tidy (inv.tidy.of_names rfl rfl)
  · refine (inv.holds.upsert alive ?_).congr fun x => ?_
    · intro d hd app code
      rw [inv.sound.codes d hd e he (app.trans mild.appId) (code.trans mild.code), mild.id]
    · show x ∈ database.live ↔ _
      rw [r.mem_live inv.sound, List.mem_cons, List.mem_filter, mild.id]
      simp

/-- A definition is deleted, and taken out of the registry. -/
theorem deleted_inv (inv : g.Inv) {e : Entity} (he : e ∈ g.database.live)
    {change : Entity → Entity}
    (deletes : ∀ d, (change d).deleted = true ∧ Database.Mild d (change d)) :
    (⟨g.database.changeEntity e.id change, g.registry.remove e.id, g.baseUrl⟩ : Engine).Inv := by
  have stored := (Database.mem_live.mp he).1
  refine ⟨inv.sound.changeEntity stored (deletes e).2, inv.tidy.of_names rfl rfl, ?_⟩
  refine (inv.holds.remove e.id).congr fun x => ?_
  show x ∈ (g.database.changeEntity e.id change).live ↔ _
  rw [inv.sound.mem_live_deleted he (deletes e).1, List.mem_filter]
  simp

/-- The table of a deleted definition is dropped, and the mark of that definition taken back. -/
theorem dropTableOf_cases (inv : g.Inv) {e : Entity} (he : ∃ d ∈ g.database.entities, d.id = e.id) :
    (g.dropTableOf e).2 = g ∨ ∃ dropped, g.database.Dropped e.table dropped ∧
      (g.dropTableOf e).2 = { g with database := dropped.marked e.id false } := by
  unfold dropTableOf
  cases result : g.database.dropTable e.table with
  | error f => exact Or.inl rfl
  | ok dropped =>
    have d := Database.dropped_of_dropTable inv.tidy result
    refine Or.inr ⟨dropped, d, ?_⟩
    obtain ⟨x, hx, same⟩ := he
    rw [← d.entities] at hx
    have set := Database.setTableCreated_of_mem hx false
    rw [same] at set
    simp only [set]
    rfl

theorem live_dropped {database dropped : Database} {id : Int} {table : String}
    (d : database.Dropped table dropped) :
    (dropped.marked id false).live = (database.marked id false).live := by
  rw [Database.live, Database.marked, Database.changeEntity, d.entities]
  rfl

theorem dropped_inv (inv : g.Inv) {e : Entity} (he : e ∈ g.database.entities)
    (deleted : e.deleted = true) {table : String} {dropped : Database}
    (d : g.database.Dropped table dropped) :
    ({ g with database := dropped.marked e.id false } : Engine).Inv := by
  have marked : (dropped.marked e.id false).entities = (g.database.marked e.id false).entities := by
    rw [Database.marked, Database.changeEntity, d.entities]
    rfl
  refine ⟨?_, d.tidy.of_names rfl rfl, ?_⟩
  · exact (inv.sound.marked he false).of_entities marked
  · refine inv.holds.congr fun x => ?_
    show x ∈ (dropped.marked e.id false).live ↔ _
    rw [live_dropped d, inv.sound.mem_live_marked_deleted he deleted]

/-- Deleting fails and changes nothing; or the definition is deleted, and its table is as it was, or
dropped. -/
theorem deleteEntity_cases (inv : g.Inv) (id : Int) (dropTable : Bool) (actor : String)
    (ambient : Ambient) :
    (g.deleteEntity id dropTable actor ambient).2 = g ∨
      ∃ e change, g.database.entity? id = some e ∧
        (∀ d, (change d).deleted = true ∧ Database.Mild d (change d)) ∧
        ((g.deleteEntity id dropTable actor ambient).2 =
            ⟨g.database.changeEntity e.id change, g.registry.remove e.id, g.baseUrl⟩ ∨
          ∃ dropped, (g.database.changeEntity e.id change).Dropped e.table dropped ∧
            (g.deleteEntity id dropTable actor ambient).2 =
              ⟨dropped.marked e.id false, g.registry.remove e.id, g.baseUrl⟩) := by
  unfold deleteEntity
  split
  · exact Or.inl rfl
  · rename_i e database deleted
    obtain ⟨found, change, deletes, rfl⟩ := Database.softDelete_ok (during_ok deleted)
    obtain ⟨he, rfl⟩ := inv.sound.entity?_iff.mp found
    refine Or.inr ⟨e, change, found, deletes, ?_⟩
    have now := deleted_inv inv he deletes
    have present : ∃ d ∈ (g.database.changeEntity e.id change).entities, d.id = e.id :=
      ⟨change e, Database.mem_changeEntity.mpr ⟨e, (Database.mem_live.mp he).1, if_pos rfl⟩,
        (deletes e).2.id⟩
    simp only
    split
    · rcases dropTableOf_cases now present with same | ⟨dropped, d, eq⟩
      · exact Or.inl same
      · exact Or.inr ⟨dropped, d, eq⟩
    · exact Or.inl rfl

/-- A definition is deleted, and its table dropped. -/
theorem deleted_dropped_inv (inv : g.Inv) {e : Entity} (he : e ∈ g.database.live)
    {change : Entity → Entity}
    (deletes : ∀ d, (change d).deleted = true ∧ Database.Mild d (change d))
    {dropped : Database} (d : (g.database.changeEntity e.id change).Dropped e.table dropped) :
    (⟨dropped.marked e.id false, g.registry.remove e.id, g.baseUrl⟩ : Engine).Inv := by
  have now := deleted_inv inv he deletes
  have stored : change e ∈ (g.database.changeEntity e.id change).entities :=
    Database.mem_changeEntity.mpr ⟨e, (Database.mem_live.mp he).1, if_pos rfl⟩
  rw [← (deletes e).2.id]
  rw [← (deletes e).2.id] at now stored d
  exact dropped_inv now stored (deletes e).1 d

end EntityEngine.Engine
