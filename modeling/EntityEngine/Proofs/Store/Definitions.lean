import EntityEngine.Proofs.Registry
import EntityEngine.Proofs.Store.RowFrame
import Mathlib.Data.List.Nodup

/-! The definitions in the store: ids and live codes are used once, a table belongs to one live
definition, and its name is one that the engine leaves free. Each operation says which definitions
are live after it. -/

namespace EntityEngine.Store.Database

variable {db : Database}

/-- What holds of all definitions that the store takes. -/
structure Unique (db : Database) : Prop where
  ids : (db.entities.map Entity.id).Nodup
  codes : ∀ d ∈ db.live, ∀ e ∈ db.live, d.appId = e.appId → d.code = e.code → d = e
  tables : ∀ d ∈ db.live, ∀ e ∈ db.live, Text.sameFold d.table e.table = true → d = e

/-- What holds of the definitions that the services store. -/
structure Sound (db : Database) : Prop extends db.Unique where
  named : ∀ e ∈ db.live, IsFree e.table

theorem mem_live {e : Entity} : e ∈ db.live ↔ e ∈ db.entities ∧ e.deleted = false := by
  simp [live]

theorem live_deleted {e : Entity} (he : e ∈ db.live) : e.deleted = false := (mem_live.mp he).2

theorem mem_of_entity? {id : Int} {e : Entity} (found : db.entity? id = some e) :
    e ∈ db.live ∧ e.id = id :=
  ⟨List.mem_of_find?_eq_some found, by simpa using List.find?_some found⟩

theorem empty_sound : empty.Sound where
  ids := List.nodup_nil
  codes := by intro d hd; cases hd
  tables := by intro d hd; cases hd
  named := by intro e he; cases he

theorem live_of_entities {db' : Database} (same : db'.entities = db.entities) :
    db'.live = db.live := by
  rw [live, same, live]

/-- Uniqueness and soundness look at the definitions only. -/
theorem Unique.of_entities {db' : Database} (h : db.Unique) (same : db'.entities = db.entities) :
    db'.Unique := by
  have live := live_of_entities same
  constructor
  · rw [same]
    exact h.ids
  · rw [live]
    exact h.codes
  · rw [live]
    exact h.tables

theorem Sound.of_entities {db' : Database} (h : db.Sound) (same : db'.entities = db.entities) :
    db'.Sound := by
  refine ⟨h.toUnique.of_entities same, ?_⟩
  rw [live_of_entities same]
  exact h.named

namespace Unique

theorem eq_of_id (h : db.Unique) {d e : Entity} (hd : d ∈ db.entities) (he : e ∈ db.entities)
    (same : d.id = e.id) : d = e :=
  List.inj_on_of_nodup_map h.ids hd he same

theorem entity?_iff (h : db.Unique) {id : Int} {e : Entity} :
    db.entity? id = some e ↔ e ∈ db.live ∧ e.id = id := by
  constructor
  · exact mem_of_entity?
  · rintro ⟨he, rfl⟩
    refine find?_of_only he (by simp) fun d hd same => ?_
    exact h.eq_of_id (mem_live.mp hd).1 (mem_live.mp he).1 (by simpa using same)

/-- No two live definitions have one table. -/
theorem apart (h : db.Unique) {d e : Entity} (hd : d ∈ db.live) (he : e ∈ db.live)
    (ne : e.id ≠ d.id) : Text.sameFold d.table e.table = false := by
  rw [← Bool.not_eq_true]
  exact fun same => ne (congrArg Entity.id (h.tables d hd e he same)).symm

theorem entityByCode?_iff (h : db.Unique) {appId : Int} {code : String} {e : Entity} :
    db.entityByCode? appId code = some e ↔ e ∈ db.live ∧ e.appId = appId ∧ e.code = code := by
  constructor
  · intro found
    exact ⟨List.mem_of_find?_eq_some found, by simpa using List.find?_some found⟩
  · rintro ⟨he, rfl, rfl⟩
    refine find?_of_only he (by simp) fun d hd same => ?_
    obtain ⟨app, code⟩ : d.appId = e.appId ∧ d.code = e.code := by simpa using same
    exact h.codes d hd e he app code

theorem live_distinct (h : db.Unique) : Registry.Distinct db.live := by
  have ids : (db.live.map Entity.id).Nodup :=
    List.Nodup.sublist (List.Sublist.map _ List.filter_sublist) h.ids
  rw [List.Nodup, List.pairwise_map] at ids
  refine ids.imp_of_mem fun hd he ne => ⟨ne, fun app code => ?_⟩
  exact ne (congrArg Entity.id (h.codes _ hd _ he app code))

/-- A registry that is loaded from the store holds its live definitions. -/
theorem load_holds (h : db.Unique) : (Registry.ofList db.listAll).Holds db.live := by
  have perm : db.listAll.Perm db.live := List.mergeSort_perm _ _
  refine (Registry.ofList_holds ?_ ?_).congr fun e => perm.mem_iff.symm
  · intro e he
    exact live_deleted (perm.mem_iff.mp he)
  · refine perm.symm.pairwise h.live_distinct ?_
    intro d e apart
    exact ⟨Ne.symm apart.1, fun app code => apart.2 app.symm code.symm⟩

end Unique

/-! ### Ids -/

theorem le_foldl_max (used : Int) (ids : List Int) :
    used ≤ ids.foldl max used ∧ ∀ i ∈ ids, i ≤ ids.foldl max used := by
  induction ids generalizing used with
  | nil => simp
  | cons i rest ih =>
    obtain ⟨most, all⟩ := ih (max used i)
    rw [List.foldl_cons]
    refine ⟨by omega, ?_⟩
    intro j hj
    rcases List.mem_cons.mp hj with rfl | hj
    · omega
    · exact all j hj

/-- A next id is larger than all ids in use. -/
theorem lt_nextId {t : Sql.EngineTable} {ids : List Int} {n : Int}
    (h : db.nextId t ids = .ok n) : ∀ i ∈ ids, i < n := by
  intro i hi
  have most := (le_foldl_max (Sequence.largest db.sequences t.name) ids).2 i hi
  simp only [nextId] at h
  split at h
  · cases h
  · have eq := Except.ok.inj h
    omega

theorem useIds_frame (own : Prop) (t : Sql.EngineTable) (ids : List Int) (db : Database) :
    RowFrame own db (db.useIds t ids) := by
  induction ids generalizing db with
  | nil => exact .refl own db
  | cons id rest ih =>
    have first : RowFrame own db
        { db with sequences := Sequence.raise db.sequences t.name id, lastInsert := id } :=
      numbers_frame own db id (raise_bare _ _ _)
    exact first.trans (ih _)

theorem useIds_tables (t : Sql.EngineTable) (ids : List Int) (db : Database) :
    (db.useIds t ids).tables = db.tables := by
  induction ids generalizing db with
  | nil => rfl
  | cons id rest ih => exact ih _

/-! ### Operations -/

/-- What storing a new definition comes to. -/
structure Created (db : Database) (draft : EntityDraft) (ambient : Ambient) (e : Entity)
    (db' : Database) : Prop where
  unused : ∀ d ∈ db.entities, d.id < e.id
  table : e.table = Text.trim draft.table
  code : e.code = codeOf draft ambient
  appId : e.appId = draft.appId
  layout : e.layout = draft.layout
  autoCreate : e.autoCreate = draft.autoCreate
  live : e.deleted = false
  unmade : e.tableCreated = false
  fields : ∃ first audit, e.fields =
    sortFields (storedFields e.id first draft.layout audit draft.fields)
  codeFree : db.entityByCode? draft.appId (codeOf draft ambient) = none
  tableFree : db.owner? (Text.trim draft.table) = none
  frame : ∀ own, RowFrame own { db with entities := db.entities ++ [e] } db'
  tables : db'.tables = db.tables

theorem created_of_createEntity {draft : EntityDraft} {actor : String} {ambient : Ambient}
    {e : Entity} {db' : Database} (h : db.createEntity draft actor ambient = .ok (e, db')) :
    db.Created draft ambient e db' := by
  simp only [createEntity] at h
  obtain ⟨codeTaken, h⟩ := unless_ok h
  split at h
  · cases h
  · rename_i tableFree
    obtain ⟨id, hid, h⟩ := bind_ok h
    obtain ⟨first, -, h⟩ := bind_ok h
    obtain ⟨rfl, rfl⟩ := Prod.mk.inj (Except.ok.inj h)
    refine ⟨?_, rfl, rfl, rfl, rfl, rfl, rfl, rfl, ⟨_, _, rfl⟩, ?_, tableFree, ?_, ?_⟩
    · intro d hd
      exact lt_nextId (mapError_ok hid) d.id (List.mem_map_of_mem hd)
    · simpa using codeTaken
    · intro own
      exact (useIds_frame own _ _ _).trans (useIds_frame own _ _ _)
    · rw [useIds_tables, useIds_tables]

namespace Created

variable {draft : EntityDraft} {ambient : Ambient} {e : Entity} {db' : Database}

theorem entities (c : db.Created draft ambient e db') : db'.entities = db.entities ++ [e] :=
  (c.frame True).entities trivial

theorem mem_live (c : db.Created draft ambient e db') {d : Entity} :
    d ∈ db'.live ↔ d ∈ db.live ∨ d = e := by
  rw [Database.mem_live, Database.mem_live, c.entities, List.mem_append, List.mem_singleton]
  constructor
  · rintro ⟨hd | rfl, live⟩
    · exact Or.inl ⟨hd, live⟩
    · exact Or.inr rfl
  · rintro (⟨hd, live⟩ | rfl)
    · exact ⟨Or.inl hd, live⟩
    · exact ⟨Or.inr rfl, c.live⟩

theorem id_ne (c : db.Created draft ambient e db') {d : Entity} (hd : d ∈ db.entities) :
    d.id ≠ e.id := by
  have less := c.unused d hd
  omega

theorem code_ne (c : db.Created draft ambient e db') {d : Entity} (hd : d ∈ db.live)
    (app : d.appId = e.appId) : d.code ≠ e.code := by
  intro same
  have other := List.find?_eq_none.mp c.codeFree d hd
  rw [app, c.appId, same, c.code] at other
  simp at other

theorem table_ne (c : db.Created draft ambient e db') {d : Entity} (hd : d ∈ db.live) :
    Text.sameFold d.table e.table = false := by
  have unowned := c.tableFree
  rw [owner?, Option.map_eq_none_iff] at unowned
  rw [c.table]
  simpa using List.find?_eq_none.mp unowned d hd

theorem unique (c : db.Created draft ambient e db') (h : db.Unique) : db'.Unique := by
  constructor
  · rw [c.entities, List.map_append, List.map_singleton, List.nodup_append]
    refine ⟨h.ids, by simp, ?_⟩
    intro a ha b hb
    obtain ⟨d, hd, rfl⟩ := List.mem_map.mp ha
    rw [List.mem_singleton.mp hb]
    exact c.id_ne hd
  · intro a ha b hb app code
    rcases c.mem_live.mp ha with ha | rfl <;> rcases c.mem_live.mp hb with hb | rfl
    · exact h.codes a ha b hb app code
    · exact absurd code (c.code_ne ha app)
    · exact absurd code.symm (c.code_ne hb app.symm)
    · rfl
  · intro a ha b hb same
    rcases c.mem_live.mp ha with ha | rfl <;> rcases c.mem_live.mp hb with hb | rfl
    · exact h.tables a ha b hb same
    · rw [c.table_ne ha] at same
      cases same
    · rw [Text.sameFold_comm, c.table_ne hb] at same
      cases same
    · rfl

theorem sound (c : db.Created draft ambient e db') (h : db.Sound) (free : IsFree e.table) :
    db'.Sound := by
  refine ⟨c.unique h.toUnique, fun a ha => ?_⟩
  rcases c.mem_live.mp ha with ha | rfl
  · exact h.named a ha
  · exact free

end Created

theorem mem_changeEntity {id : Int} {change : Entity → Entity} {x : Entity} :
    x ∈ (db.changeEntity id change).entities ↔
      ∃ d ∈ db.entities, (if d.id = id then change d else d) = x := List.mem_map

/-- A change that keeps a definition's id, code and table, and does not bring it back. -/
structure Mild (e e' : Entity) : Prop where
  id : e'.id = e.id
  appId : e'.appId = e.appId
  code : e'.code = e.code
  table : e'.table = e.table
  live : e'.deleted = false → e.deleted = false

theorem Mild.refl (e : Entity) : Mild e e := ⟨rfl, rfl, rfl, rfl, fun live => live⟩

namespace Unique

/-- A change of one definition leaves the other ones. -/
theorem mem_live_changeEntity (h : db.Unique) {e : Entity} (he : e ∈ db.entities)
    {change : Entity → Entity} {x : Entity} : x ∈ (db.changeEntity e.id change).live ↔
      (x = change e ∧ x.deleted = false) ∨ (x ∈ db.live ∧ x.id ≠ e.id) := by
  rw [Database.mem_live, Database.mem_live, mem_changeEntity]
  constructor
  · rintro ⟨⟨d, hd, rfl⟩, live⟩
    by_cases same : d.id = e.id
    · rw [if_pos same] at live ⊢
      obtain rfl := h.eq_of_id hd he same
      exact Or.inl ⟨rfl, live⟩
    · rw [if_neg same] at live ⊢
      exact Or.inr ⟨⟨hd, live⟩, same⟩
  · rintro (⟨rfl, live⟩ | ⟨⟨hx, live⟩, ne⟩)
    · exact ⟨⟨e, he, if_pos rfl⟩, live⟩
    · exact ⟨⟨x, hx, if_neg ne⟩, live⟩

/-- Every definition that is live after a change stands for one that was live before. -/
theorem live_before (h : db.Unique) {e : Entity} (he : e ∈ db.entities)
    {change : Entity → Entity} (mild : Mild e (change e)) {x : Entity}
    (hx : x ∈ (db.changeEntity e.id change).live) : ∃ d ∈ db.live, Mild d x := by
  rcases (h.mem_live_changeEntity he).mp hx with ⟨rfl, live⟩ | ⟨hx, -⟩
  · exact ⟨e, mem_live.mpr ⟨he, mild.live live⟩, mild⟩
  · exact ⟨x, hx, .refl x⟩

theorem changeEntity (h : db.Unique) {e : Entity} (he : e ∈ db.entities)
    {change : Entity → Entity} (mild : Mild e (change e)) :
    (db.changeEntity e.id change).Unique := by
  have ids : (db.changeEntity e.id change).entities.map Entity.id = db.entities.map Entity.id := by
    rw [Database.changeEntity, List.map_map]
    refine List.map_congr_left fun d hd => ?_
    show (if d.id = e.id then change d else d).id = d.id
    split
    · rename_i same
      rw [h.eq_of_id hd he same, mild.id]
    · rfl
  have nodup : ((db.changeEntity e.id change).entities.map Entity.id).Nodup := by
    rw [ids]
    exact h.ids
  have only : ∀ {a b : Entity}, a ∈ (db.changeEntity e.id change).live →
      b ∈ (db.changeEntity e.id change).live → a.id = b.id → a = b := fun ha hb same =>
    List.inj_on_of_nodup_map nodup (mem_live.mp ha).1 (mem_live.mp hb).1 same
  refine ⟨nodup, fun a ha b hb app code => ?_, fun a ha b hb fold => ?_⟩
  · obtain ⟨a', ha', ma⟩ := h.live_before he mild ha
    obtain ⟨b', hb', mb⟩ := h.live_before he mild hb
    have same : a' = b' := h.codes a' ha' b' hb' (by rw [← ma.appId, app, mb.appId])
      (by rw [← ma.code, code, mb.code])
    exact only ha hb (by rw [ma.id, same, mb.id])
  · obtain ⟨a', ha', ma⟩ := h.live_before he mild ha
    obtain ⟨b', hb', mb⟩ := h.live_before he mild hb
    have same : a' = b' := h.tables a' ha' b' hb' (by rw [← ma.table, ← mb.table, fold])
    exact only ha hb (by rw [ma.id, same, mb.id])

end Unique

theorem Sound.changeEntity (h : db.Sound) {e : Entity} (he : e ∈ db.entities)
    {change : Entity → Entity} (mild : Mild e (change e)) :
    (db.changeEntity e.id change).Sound := by
  refine ⟨h.toUnique.changeEntity he mild, fun a ha => ?_⟩
  obtain ⟨d, hd, md⟩ := h.toUnique.live_before he mild ha
  rw [md.table]
  exact h.named d hd

/-! ### Changes of one definition -/

/-- The store with the table of a definition marked as made or not made. -/
def marked (db : Database) (id : Int) (created : Bool) : Database :=
  db.changeEntity id fun e => { e with tableCreated := created }

theorem live_marked_congr {db' : Database} (same : db'.entities = db.entities) (id : Int)
    (created : Bool) : (db'.marked id created).live = (db.marked id created).live := by
  rw [live, marked, changeEntity, same]
  rfl

theorem setTableCreated_ok {id : Int} {created : Bool} {db' : Database}
    (h : db.setTableCreated id created = .ok db') :
    (∃ e ∈ db.entities, e.id = id) ∧ db' = db.marked id created := by
  unfold setTableCreated at h
  split at h
  · rename_i found
    refine ⟨?_, (Except.ok.inj h).symm⟩
    simpa using found
  · cases h

theorem setTableCreated_of_mem {e : Entity} (he : e ∈ db.entities) (created : Bool) :
    db.setTableCreated e.id created = .ok (db.marked e.id created) := by
  have found : (db.entities.any fun d => d.id = e.id) = true :=
    List.any_eq_true.mpr ⟨e, he, by simp⟩
  rw [setTableCreated, found, if_pos rfl]
  rfl

/-- What replacing the fields of a definition comes to. -/
structure Replaced (db : Database) (id : Int) (fields : List FieldDraft) (e e' : Entity)
    (db' : Database) : Prop where
  found : db.entity? id = some e
  changed : ∃ first audit audit', e' = { e with
    fields := sortFields (storedFields id first e.layout audit fields)
    version := e.version + 1
    audit := audit' }
  frame : ∀ own, RowFrame own (db.changeEntity id fun _ => e') db'
  tables : db'.tables = db.tables

theorem replaced_of_replaceFields {id : Int} {fields : List FieldDraft} {actor : String}
    {ambient : Ambient} {e' : Entity} {db' : Database}
    (h : db.replaceFields id fields actor ambient = .ok (e', db')) :
    ∃ e, db.Replaced id fields e e' db' := by
  simp only [replaceFields] at h
  split at h
  · cases h
  · rename_i e found
    split at h
    · cases h
    · obtain ⟨rfl, rfl⟩ := Prod.mk.inj (Except.ok.inj h)
      exact ⟨e, found, ⟨_, _, _, rfl⟩, fun own => useIds_frame own _ _ _, useIds_tables _ _ _⟩

theorem Replaced.mild {id : Int} {fields : List FieldDraft} {e e' : Entity} {db' : Database}
    (r : db.Replaced id fields e e' db') : Mild e e' := by
  obtain ⟨first, audit, audit', rfl⟩ := r.changed
  exact ⟨rfl, rfl, rfl, rfl, fun live => live⟩

/-- Replacing the fields of a live definition changes that definition. -/
theorem Replaced.mem_live {id : Int} {fields : List FieldDraft} {e e' : Entity} {db' : Database}
    (r : db.Replaced id fields e e' db') (sound : db.Sound) {x : Entity} :
    x ∈ db'.live ↔ x = e' ∨ (x ∈ db.live ∧ x.id ≠ e.id) := by
  obtain ⟨he, rfl⟩ := sound.entity?_iff.mp r.found
  have live : db'.live = (db.changeEntity e.id fun _ => e').live := by
    rw [Database.live, (r.frame True).entities trivial, Database.live]
  have alive : e'.deleted = false := by
    have before := live_deleted he
    obtain ⟨first, audit, audit', eq⟩ := r.changed
    rw [eq]
    exact before
  rw [live, sound.mem_live_changeEntity (Database.mem_live.mp he).1]
  constructor
  · rintro (⟨rfl, -⟩ | other)
    · exact Or.inl rfl
    · exact Or.inr other
  · rintro (rfl | other)
    · exact Or.inl ⟨rfl, alive⟩
    · exact Or.inr other

theorem softDelete_ok {id : Int} {actor : String} {ambient : Ambient} {e : Entity}
    {db' : Database} (h : db.softDelete id actor ambient = .ok (e, db')) :
    db.entity? id = some e ∧ ∃ change : Entity → Entity,
      (∀ d, (change d).deleted = true ∧ Mild d (change d)) ∧
        db' = db.changeEntity id change := by
  simp only [softDelete] at h
  split at h
  · cases h
  · rename_i found
    obtain ⟨rfl, rfl⟩ := Prod.mk.inj (Except.ok.inj h)
    refine ⟨found, _, ?_, rfl⟩
    intro d
    refine ⟨rfl, rfl, rfl, rfl, rfl, ?_⟩
    intro live
    cases live

theorem mild_mark (e : Entity) (created : Bool) :
    Mild e { e with tableCreated := created } := ⟨rfl, rfl, rfl, rfl, fun live => live⟩

theorem Sound.marked (h : db.Sound) {e : Entity} (he : e ∈ db.entities) (created : Bool) :
    (db.marked e.id created).Sound :=
  h.changeEntity he (mild_mark e created)

namespace Unique

/-- Marking the table of a live definition changes that definition. -/
theorem mem_live_marked (h : db.Unique) {e : Entity} (he : e ∈ db.live) {created : Bool}
    {x : Entity} : x ∈ (db.marked e.id created).live ↔
      x = { e with tableCreated := created } ∨ (x ∈ db.live ∧ x.id ≠ e.id) := by
  have live := live_deleted he
  rw [Database.marked, h.mem_live_changeEntity (mem_live.mp he).1]
  constructor
  · rintro (⟨rfl, -⟩ | other)
    · exact Or.inl rfl
    · exact Or.inr other
  · rintro (rfl | other)
    · exact Or.inl ⟨rfl, live⟩
    · exact Or.inr other

/-- Deleting a live definition leaves the other ones. -/
theorem mem_live_deleted (h : db.Unique) {e : Entity} (he : e ∈ db.live) {change : Entity → Entity}
    (deletes : (change e).deleted = true) {x : Entity} :
    x ∈ (db.changeEntity e.id change).live ↔ x ∈ db.live ∧ x.id ≠ e.id := by
  rw [h.mem_live_changeEntity (mem_live.mp he).1]
  constructor
  · rintro (⟨rfl, alive⟩ | other)
    · rw [deletes] at alive
      cases alive
    · exact other
  · exact Or.inr

/-- A mark on a deleted definition leaves the live ones. -/
theorem mem_live_marked_deleted (h : db.Unique) {e : Entity} (he : e ∈ db.entities)
    (deleted : e.deleted = true) (created : Bool) {x : Entity} :
    x ∈ (db.marked e.id created).live ↔ x ∈ db.live := by
  rw [Database.marked, h.mem_live_changeEntity he]
  constructor
  · rintro (⟨rfl, alive⟩ | ⟨hx, -⟩)
    · rw [deleted] at alive
      cases alive
    · exact hx
  · intro hx
    refine Or.inr ⟨hx, fun same => ?_⟩
    rw [h.eq_of_id (Database.mem_live.mp hx).1 he same] at hx
    rw [Database.live_deleted hx] at deleted
    cases deleted

end Unique

end EntityEngine.Store.Database
