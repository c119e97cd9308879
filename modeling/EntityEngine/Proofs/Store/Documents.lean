import EntityEngine.Proofs.Sql.Comparison
import EntityEngine.Proofs.Store.Definitions
import EntityEngine.Store.Documents

/-! Documents in the store. Each belongs to a definition, deleted or not, whose code it carries, and
its identifiers are its own; so it is found under them as the one document that it is. -/

namespace EntityEngine

open Sql Store

/-- Ordering neither adds rows nor takes any away. -/
theorem Sql.mem_sortRows {α : Type} {order : List OrderTerm} {read : α → Reader} {rows : List α}
    {r : α} : r ∈ sortRows order read rows ↔ r ∈ rows := List.mem_mergeSort

namespace Store

variable {r : Record} {e : Entity} {db db' : Database}

/-! ### Documents in a scope -/

theorem satisfies_scope : (documentReader r).satisfiesAll (Query.scope e) = true ↔
    r.appId = e.appId ∧ r.entityCode = e.code ∧ r.deleted = false := by
  have app : ((documentReader r) (.plain "app_id")).compares .eq (.integer e.appId) = true ↔
      r.appId = e.appId := compares_integer rfl rfl
  have code : ((documentReader r) (.plain "entity_code")).compares .eq (.text e.code) = true ↔
      r.entityCode = e.code := compares_text rfl rfl rfl (Or.inr rfl)
  have kept : Condition.kept.holds (documentReader r) = true ↔ r.deleted = false := by
    have size : (documentReader r (.plain "deleted")).value.size? =
        some (Number.integerUnits (if r.deleted then 1 else 0)) := rfl
    have zero : (Value.integer 0).size? = some (Number.integerUnits 0) := rfl
    have sizes : Condition.kept.holds (documentReader r) = true ↔
        Asks .eq (Number.integerUnits (if r.deleted then 1 else 0) = Number.integerUnits 0) :=
      satisfies_sizes rfl size zero
    rw [sizes, Asks, integerUnits_inj]
    cases r.deleted <;> simp
  simp only [Reader.satisfiesAll, Query.scope, List.all_cons, List.all_nil, Bool.and_true,
    Bool.and_eq_true, kept]
  rw [← app, ← code]
  exact Iff.rfl

theorem Database.mem_selectDocuments {conditions : List Condition} {order : List OrderTerm} :
    r ∈ db.selectDocuments conditions order ↔
      r ∈ db.documents ∧ (documentReader r).satisfiesAll conditions = true := by
  rw [selectDocuments, mem_sortRows, matching, List.mem_filter]

/-- Lists show documents under a code, and every one of them on some page. -/
theorem Database.mem_listRecords {page size : Nat} {records : List Record}
    (h : db.listRecords e.appId e.code page size = .ok records) (hr : r ∈ records) :
    ∃ s ∈ db.documents, r = readBack s ∧ s.appId = e.appId ∧ s.entityCode = e.code := by
  obtain ⟨offset, -, h⟩ := bind_ok h
  rw [← Except.ok.inj h] at hr
  obtain ⟨s, hs, rfl⟩ := List.mem_map.mp hr
  obtain ⟨stored, found⟩ :=
    mem_selectDocuments.mp (List.mem_of_mem_drop (List.mem_of_mem_take hs))
  obtain ⟨app, code, -⟩ := satisfies_scope.mp found
  exact ⟨s, stored, rfl, app, code⟩

/-- So do queries. -/
theorem Database.mem_queryRecords {o : QueryOptions} {page : Page Record}
    (h : db.queryRecords e o = .ok page) (hr : r ∈ page.items) :
    ∃ s ∈ db.documents, r = readBack s ∧ s.appId = e.appId ∧ s.entityCode = e.code := by
  obtain ⟨plan, planned, h⟩ := bind_ok h
  obtain ⟨offset, -, plan_eq⟩ := bind_ok (mapError_ok planned)
  simp only at h
  split at h
  · cases h
  · rw [← Except.ok.inj h] at hr
    obtain ⟨s, hs, rfl⟩ := List.mem_map.mp hr
    obtain ⟨stored, found⟩ :=
      mem_selectDocuments.mp (List.mem_of_mem_drop (List.mem_of_mem_take hs))
    rw [← Except.ok.inj plan_eq, Reader.satisfiesAll, List.all_append, Bool.and_eq_true] at found
    obtain ⟨app, code, -⟩ := satisfies_scope.mp found.1
    exact ⟨s, stored, rfl, app, code⟩

theorem Database.listRecords_whole (db : Database) (e : Entity) {size : Nat}
    (large : db.documents.length ≤ size) :
    ∃ records, db.listRecords e.appId e.code 1 size = .ok records ∧
      ∀ r ∈ db.documents, r.appId = e.appId → r.entityCode = e.code → r.deleted = false →
        readBack r ∈ records := by
  have before : Number.multiply64 (max 1 1 - 1 : Nat) (max size 1 : Nat) = .ok 0 := by
    simp [Number.multiply64, Number.inInt64, Number.minInt64, Number.maxInt64]
  refine ⟨_, by simp only [listRecords, before]; rfl, fun r hr app code kept => ?_⟩
  refine List.mem_map_of_mem ?_
  have found : r ∈ db.selectDocuments (Query.scope e) Query.documentOrder :=
    mem_selectDocuments.mpr ⟨hr, satisfies_scope.mpr ⟨app, code, kept⟩⟩
  have few : (db.selectDocuments (Query.scope e) Query.documentOrder).length ≤ max size 1 := by
    rw [selectDocuments, sortRows, List.length_mergeSort]
    exact Nat.le_trans (List.length_filter_le _ _) (Nat.le_trans large (Nat.le_max_left _ _))
  show r ∈ slice (max size 1) 0 (db.selectDocuments (Query.scope e) Query.documentOrder)
  rw [slice, List.drop_zero, List.take_of_length_le few]
  exact found

/-! ### Where documents belong -/

namespace Database

/-- A definition, deleted or not, that a document belongs to. -/
def Owns (db : Database) (r : Record) : Prop :=
  ∃ d ∈ db.entities, d.id = r.entityId ∧ d.appId = r.appId ∧ d.code = r.entityCode

/-- What holds of the documents that the services store. -/
structure Owned (db : Database) : Prop where
  owner : ∀ r ∈ db.documents, db.Owns r
  kept : ∀ r ∈ db.documents, r.deleted = false
  ids : (db.documents.map Record.id).Nodup
  keys : (db.documents.map Record.recordId).Nodup

/-- `s` is the document `r` with other data. -/
structure Succeeds (r s : Record) : Prop where
  id : s.id = r.id
  recordId : s.recordId = r.recordId
  entityId : s.entityId = r.entityId
  entityCode : s.entityCode = r.entityCode
  appId : s.appId = r.appId
  deleted : s.deleted = r.deleted
  createdAt : s.audit.createdAt = r.audit.createdAt

/-- What a change of documents comes to: one more behind the others, other data in one, or some
less. Only documents of some sort are added, and only ones that are named change or go. -/
inductive DocumentMove (adds named : Record → Prop) (db : Database) : List Record → Prop
  | same : DocumentMove adds named db db.documents
  | added {r : Record} (new : adds r) (owner : db.Owns r) (kept : r.deleted = false)
      (last : ∀ s ∈ db.documents, s.id < r.id)
      (key : ∀ s ∈ db.documents, s.recordId ≠ r.recordId) :
      DocumentMove adds named db (db.documents ++ [r])
  | changed {r s : Record} (hr : r ∈ db.documents) (only : named r) (same : Succeeds r s) :
      DocumentMove adds named db (db.documents.map fun x => if x.id = r.id then s else x)
  | removed {kept : Record → Bool} (only : ∀ r ∈ db.documents, kept r = false → named r) :
      DocumentMove adds named db (db.documents.filter kept)

theorem empty_owned : empty.Owned where
  owner := by intro r hr; cases hr
  kept := by intro r hr; cases hr
  ids := List.nodup_nil
  keys := List.nodup_nil

namespace Owned

/-- Documents with one id are one, and so are those with one identifier. -/
theorem eq_of_id (h : db.Owned) {s : Record} (hr : r ∈ db.documents) (hs : s ∈ db.documents)
    (same : r.id = s.id) : r = s := List.inj_on_of_nodup_map h.ids hr hs same

theorem eq_of_key (h : db.Owned) {s : Record} (hr : r ∈ db.documents) (hs : s ∈ db.documents)
    (same : r.recordId = s.recordId) : r = s := List.inj_on_of_nodup_map h.keys hr hs same

/-- A document is found under the definition that it belongs to, and under no other one. -/
theorem recordByKey?_eq (h : db.Owned) (hr : r ∈ db.documents) (entityId : Int) :
    db.recordByKey? entityId r.recordId =
      if r.entityId = entityId then some (readBack r) else none := by
  unfold recordByKey?
  cases found : db.documents.find? fun s => s.entityId = entityId ∧ s.recordId = r.recordId with
  | none =>
    have apart := List.find?_eq_none.mp found r hr
    rw [if_neg (by simpa using apart)]
    rfl
  | some s =>
    obtain ⟨own, key⟩ : s.entityId = entityId ∧ s.recordId = r.recordId := by
      simpa using List.find?_some found
    obtain rfl := h.eq_of_key (List.mem_of_find?_eq_some found) hr key
    rw [if_pos own]
    rfl

/-- A change of documents, beside definitions that stay. -/
theorem move {adds named : Record → Prop} (h : db.Owned)
    (move : db.DocumentMove adds named db'.documents)
    (entities : ∀ r, db.Owns r → db'.Owns r) : db'.Owned := by
  generalize eq : db'.documents = documents at move
  have sublist : documents.Sublist db.documents → db'.Owned := by
    intro less
    rw [← eq] at less
    exact ⟨fun r hr => entities r (h.owner r (less.subset hr)),
      fun r hr => h.kept r (less.subset hr), h.ids.sublist (less.map _),
      h.keys.sublist (less.map _)⟩
  cases move with
  | same => exact sublist (List.Sublist.refl _)
  | removed _ => exact sublist List.filter_sublist
  | @added r _ owner kept last key =>
    constructor
    · rw [eq]
      intro s hs
      rcases List.mem_append.mp hs with hs | hs
      · exact entities s (h.owner s hs)
      · rw [List.mem_singleton.mp hs]
        exact entities r owner
    · rw [eq]
      intro s hs
      rcases List.mem_append.mp hs with hs | hs
      · exact h.kept s hs
      · rw [List.mem_singleton.mp hs]
        exact kept
    · rw [eq, List.map_append, List.map_singleton]
      refine List.nodup_append.mpr ⟨h.ids, List.nodup_singleton _, ?_⟩
      intro a ha b hb
      obtain ⟨s, hs, rfl⟩ := List.mem_map.mp ha
      rw [List.mem_singleton.mp hb]
      exact Int.ne_of_lt (last s hs)
    · rw [eq, List.map_append, List.map_singleton]
      refine List.nodup_append.mpr ⟨h.keys, List.nodup_singleton _, ?_⟩
      intro a ha b hb
      obtain ⟨s, hs, rfl⟩ := List.mem_map.mp ha
      rw [List.mem_singleton.mp hb]
      exact key s hs
  | @changed r s hr _ same =>
    -- Every document has an older one of the same identifiers.
    have older : ∀ x ∈ db.documents, Succeeds x (if x.id = r.id then s else x) := by
      intro x hx
      split
      · rename_i id
        rw [h.eq_of_id hx hr id]
        exact same
      · exact ⟨rfl, rfl, rfl, rfl, rfl, rfl, rfl⟩
    constructor
    · rw [eq]
      intro y hy
      obtain ⟨x, hx, rfl⟩ := List.mem_map.mp hy
      obtain ⟨d, hd, id, app, code⟩ := h.owner x hx
      have next := older x hx
      exact entities _ ⟨d, hd, id.trans next.entityId.symm, app.trans next.appId.symm,
        code.trans next.entityCode.symm⟩
    · rw [eq]
      intro y hy
      obtain ⟨x, hx, rfl⟩ := List.mem_map.mp hy
      rw [(older x hx).deleted]
      exact h.kept x hx
    · have ids : db'.documents.map Record.id = db.documents.map Record.id := by
        rw [eq, List.map_map]
        exact List.map_congr_left fun x hx => (older x hx).id
      rw [ids]
      exact h.ids
    · have keys : db'.documents.map Record.recordId = db.documents.map Record.recordId := by
        rw [eq, List.map_map]
        exact List.map_congr_left fun x hx => (older x hx).recordId
      rw [keys]
      exact h.keys

/-- A document that is not named stays. -/
theorem mem_of_move {adds named : Record → Prop} {documents : List Record} (h : db.Owned)
    (move : db.DocumentMove adds named documents) (hr : r ∈ db.documents) (other : ¬ named r) :
    r ∈ documents := by
  cases move with
  | same => exact hr
  | added _ _ _ _ _ => exact List.mem_append_left _ hr
  | @changed s s' hs only _ =>
    refine List.mem_map.mpr ⟨r, hr, if_neg fun id => ?_⟩
    rw [h.eq_of_id hr hs id] at other
    exact other only
  | removed only =>
    refine List.mem_filter.mpr ⟨hr, ?_⟩
    rw [← Bool.not_eq_false]
    exact fun gone => other (only r hr gone)

/-- The documents of a definition are the same, if none of its own is added or named. -/
theorem own_of_move {adds named : Record → Prop} {documents : List Record} (h : db.Owned)
    (move : db.DocumentMove adds named documents) {id : Int}
    (new : ∀ s, adds s → db.Owns s → s.entityId ≠ id)
    (old : ∀ s ∈ db.documents, named s → s.entityId ≠ id) :
    documents.filter (fun s => s.entityId = id) = db.documents.filter fun s => s.entityId = id := by
  cases move with
  | same => rfl
  | @added r adds owner _ _ _ =>
    rw [List.filter_append, List.filter_singleton, decide_eq_false (new r adds owner)]
    exact List.append_nil _
  | @changed r s hr only same =>
    rw [List.filter_map]
    have keeps : ∀ x ∈ db.documents, x.id = r.id → x.entityId ≠ id := by
      intro x hx own
      rw [h.eq_of_id hx hr own]
      exact old r hr only
    have alike : db.documents.filter ((fun x => decide (x.entityId = id)) ∘ fun x =>
        if x.id = r.id then s else x) = db.documents.filter fun x => x.entityId = id := by
      refine List.filter_congr fun x hx => ?_
      show decide ((if x.id = r.id then s else x).entityId = id) = _
      split
      · rename_i own
        rw [h.eq_of_id hx hr own, same.entityId]
      · rfl
    rw [alike]
    refine (List.map_congr_left fun x hx => if_neg fun own => ?_).trans (List.map_id _)
    obtain ⟨stored, meant⟩ := List.mem_filter.mp hx
    exact keeps x stored own (by simpa using meant)
  | @removed kept only =>
    rw [List.filter_filter]
    refine List.filter_congr fun x hx => ?_
    cases stays : kept x with
    | true => exact Bool.and_true _
    | false => rw [Bool.and_false, decide_eq_false (old x hx (only x hx stays))]

end Owned

/-! ### Operations -/

theorem useIds_documents (db : Database) (t : EngineTable) (ids : List Int) :
    (db.useIds t ids).documents = db.documents :=
  (useIds_frame True t ids db).documents trivial

/-- A new document has the largest id. -/
theorem lt_insertRecord {entityId appId : Int} {code : String} {data : ValueMap} {actor : String}
    {ambient : Ambient} (h : db.insertRecord entityId code appId data actor ambient = .ok (r, db')) :
    ∀ s ∈ db.documents, s.id < r.id := by
  obtain ⟨id, next, h⟩ := bind_ok h
  obtain ⟨-, h⟩ := unless_ok h
  obtain ⟨-, h⟩ := unless_ok h
  obtain ⟨rfl, -⟩ := Prod.mk.inj (Except.ok.inj h)
  intro s hs
  exact lt_nextId (mapError_ok next) s.id (List.mem_map_of_mem hs)

/-- A new document of a definition. -/
theorem insertRecord_ok {adds named : Record → Prop} {appId : Int} {data : ValueMap}
    {actor : String} {ambient : Ambient} (he : e ∈ db.entities) (app : e.appId = appId)
    (new : ∀ s : Record, s.appId = appId → s.entityCode = e.code →
      s.audit.createdAt = ambient.now.toMicros → adds s)
    (h : db.insertRecord e.id e.code appId data actor ambient = .ok (r, db')) :
    db.DocumentMove adds named db'.documents ∧
      ∃ s ∈ db'.documents, s.recordId = r.recordId ∧ s.entityId = e.id ∧ s.data = r.data := by
  have last := lt_insertRecord h
  obtain ⟨id, -, h⟩ := bind_ok h
  obtain ⟨newKey, h⟩ := unless_ok h
  obtain ⟨-, h⟩ := unless_ok h
  obtain ⟨rfl, rfl⟩ := Prod.mk.inj (Except.ok.inj h)
  rw [useIds_documents]
  refine ⟨.added (new _ rfl rfl rfl) ⟨e, he, rfl, app, rfl⟩ rfl last ?_, _,
    List.mem_append_right _ (List.mem_singleton_self _), rfl, rfl, rfl⟩
  intro s hs same
  have other := List.any_eq_false.mp newKey s hs
  exact other (by simpa using same)

theorem updateRecord_ok {adds named : Record → Prop} {id : Int} {data : ValueMap} {actor : String}
    {ambient : Ambient} (only : ∀ s ∈ db.documents, s.id = id → named s)
    (h : db.updateRecord id data actor ambient = .ok (r, db')) :
    db.DocumentMove adds named db'.documents := by
  unfold updateRecord at h
  split at h
  · cases h
  · rename_i s found
    obtain ⟨-, rfl⟩ := Prod.mk.inj (Except.ok.inj h)
    have hs := List.mem_of_find?_eq_some found
    have id : s.id = id := by simpa using List.find?_some found
    subst id
    exact .changed hs (only s hs rfl) ⟨rfl, rfl, rfl, rfl, rfl, rfl, rfl⟩

theorem deleteRecord_ok {adds named : Record → Prop} {id : Int}
    (only : ∀ s ∈ db.documents, s.id = id → named s) (h : db.deleteRecord id = .ok db') :
    db.DocumentMove adds named db'.documents := by
  unfold deleteRecord at h
  split at h
  · rw [← Except.ok.inj h]
    exact .removed fun s hs gone => only s hs (by simpa using gone)
  · cases h

theorem deleteRecordByKey_ok {adds named : Record → Prop} {entityId : Int} {key : String}
    (only : ∀ s ∈ db.documents, s.entityId = entityId → s.recordId = key → named s)
    (h : db.deleteRecordByKey entityId key = .ok db') :
    db.DocumentMove adds named db'.documents := by
  simp only [deleteRecordByKey] at h
  split at h
  · rw [← Except.ok.inj h]
    refine .removed fun s hs gone => ?_
    have meant : s.entityId = entityId ∧ s.recordId = key := by simpa using gone
    exact only s hs meant.1 meant.2
  · cases h

end Database

end Store

end EntityEngine
