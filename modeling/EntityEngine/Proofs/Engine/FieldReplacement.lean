import EntityEngine.Proofs.Engine.Ownership
import EntityEngine.Proofs.Engine.ReadBack

/-! Replacing the fields of a definition. The new fields are what a definition made of their drafts
would have, whatever fields there were before; beside them only the version of the definition and
the mark of its last change are new, and every other definition stays as it is. -/

namespace EntityEngine

open Store

variable {db : Database} {e e' : Entity} {id : Int} {fields : List FieldDraft}

/-! ### What drafts of fields come to -/

/-- A field but for its ids and for who made it. -/
def Field.content (f : Field) : Field :=
  { f with id := 0, entityId := 0, audit := .fresh "" ⟨0, 0⟩ }

/-- What drafts come to depends on the layout alone, but for ids and for who made the fields. -/
theorem content_sortFields_storedFields {id first id' first' : Int} {layout : Layout}
    {audit audit' : Audit} (fields : List FieldDraft) :
    (sortFields (storedFields id first layout audit fields)).map Field.content =
      (sortFields (storedFields id' first' layout audit' fields)).map Field.content := by
  rw [sortFields_storedFields, sortFields_storedFields, List.map_map, List.map_map]
  rfl

theorem mem_sortFields_storedFields {first : Int} {layout : Layout} {audit : Audit} {f : Field}
    (hf : f ∈ sortFields (storedFields id first layout audit fields)) :
    f.entityId = id ∧ f.audit = audit := by
  rw [sortFields_storedFields] at hf
  obtain ⟨p, -, rfl⟩ := List.mem_map.mp hf
  exact ⟨rfl, rfl⟩

/-- `e'` is `e` with what some drafts declare in place of its fields. -/
structure Entity.Redefines (e : Entity) (fields : List FieldDraft) (actor : String)
    (ambient : Ambient) (e' : Entity) : Prop where
  rest : e' = { e with
    fields := e'.fields
    version := e.version + 1
    audit := { e.audit with updatedBy := actor, updatedAt := ambient.now.toMicros } }
  own : ∀ f ∈ e'.fields, f.entityId = e.id ∧ f.audit = .fresh actor ambient.now.toMicros
  /-- A draft with these fields can be stored, if there are ids for so many. -/
  storable : (fields.length : Int) ≤ Number.maxInt64 → ∀ (draft : EntityDraft) (maker : String)
    (moment : Ambient), draft.fields = fields →
      ∃ made other, Database.empty.createEntity draft maker moment = .ok (made, other)
  /-- Any definition that is made of such a draft has the same fields, where its kind is the same. -/
  forgets : ∀ (other : Database) (draft : EntityDraft) (maker : String) (moment : Ambient)
    (made : Entity) (other' : Database),
    other.createEntity draft maker moment = .ok (made, other') →
      draft.kind = e.kind → draft.fields = fields →
        e'.fields.map Field.content = made.fields.map Field.content

namespace Store.Database

/-! ### Ids of fields -/

/-- Some next ids are given out together, past the largest one that was used, or none is. -/
theorem nextIds_eq (db : Database) (t : Sql.EngineTable) (ids : List Int) {count : Nat}
    (some : 0 < count) :
    db.nextIds t ids count =
      if Number.maxInt64 < ids.foldl max (Sequence.largest db.sequences t.name) + count then
        .error (.other "database or disk is full")
      else .ok (ids.foldl max (Sequence.largest db.sequences t.name) + 1) := by
  unfold nextIds nextId
  generalize ids.foldl max (Sequence.largest db.sequences t.name) = used
  by_cases full : used = Number.maxInt64
  · rw [if_pos full, if_pos (by omega)]
    rfl
  · rw [if_neg full]
    show (if Number.maxInt64 < used + 1 + (count - 1 : Nat) then _ else _) = _
    by_cases beyond : Number.maxInt64 < used + count
    · rw [if_pos (by omega), if_pos beyond]
      rfl
    · rw [if_neg (by omega), if_neg beyond]
      rfl

/-- The largest id that is known of a field, those of one definition left aside. -/
def lastFieldId (db : Database) (id : Int) : Int :=
  (db.entities.flatMap fun e => if e.id = id then [] else e.fields.map Field.id).foldl max
    (Sequence.largest db.sequences Sql.EngineTable.fields.name)

/-- Without the fields of one definition, new ones have ids past the last of the other ones. -/
theorem nextFieldId_emptied (db : Database) (id : Int) (some : fields ≠ []) :
    (db.changeEntity id fun e => { e with fields := [] }).nextFieldId fields =
      if Number.maxInt64 < db.lastFieldId id + fields.length then
        .error (.database (.other "database or disk is full"))
      else .ok (db.lastFieldId id + 1) := by
  have ids : ((db.changeEntity id fun e => { e with fields := [] }).entities.flatMap fun e =>
      e.fields.map Field.id) =
        db.entities.flatMap fun e => if e.id = id then [] else e.fields.map Field.id := by
    rw [changeEntity, List.flatMap_map]
    refine List.flatMap_congr fun e _ => ?_
    split <;> rfl
  rw [nextFieldId, if_neg (by simpa using some), ids,
    nextIds_eq _ _ _ (List.length_pos_iff.mpr some)]
  show (if Number.maxInt64 < db.lastFieldId id + fields.length then _ else _ : Except _ _).mapError _
    = _
  split <;> rfl

/-- An empty store takes every draft, if there are ids for its fields. -/
theorem createEntity_empty {draft : EntityDraft} (maker : String) (moment : Ambient)
    (few : (draft.fields.length : Int) ≤ Number.maxInt64) :
    ∃ made other, empty.createEntity draft maker moment = .ok (made, other) := by
  obtain ⟨first, next⟩ : ∃ first, empty.nextFieldId draft.fields = .ok first := by
    by_cases none : draft.fields = []
    · exact ⟨1, by rw [nextFieldId, none]; rfl⟩
    · rw [nextFieldId, if_neg (by simpa using none),
        nextIds_eq _ _ _ (List.length_pos_iff.mpr none), if_neg]
      · exact ⟨_, rfl⟩
      · show ¬ Number.maxInt64 < 0 + (draft.fields.length : Int)
        omega
  rw [createEntity]
  simp only [next]
  exact ⟨_, _, rfl⟩

/-! ### Replacing fields -/

/-- `db'` is `db` with a definition in place of the one of its id, but for ids that were used. -/
structure Redefined (db : Database) (e' : Entity) (db' : Database) : Prop where
  entities : db'.entities = db.entities.map fun e => if e.id = e'.id then e' else e
  found : db'.entity? e'.id = some e'
  documents : db'.documents = db.documents
  tables : db'.tables = db.tables
  oddRows : db'.oddRows = db.oddRows

/-- A live definition in place of one of its id is found. -/
theorem redefined_useIds (found : db.entity? id = some e) (same : e'.id = id)
    (live : e'.deleted = false) (t : Sql.EngineTable) (ids : List Int) :
    db.Redefined e' ((db.changeEntity id fun _ => e').useIds t ids) := by
  subst same
  obtain ⟨he, own⟩ := mem_of_entity? found
  have frame := useIds_frame True t ids (db.changeEntity e'.id fun _ => e')
  refine ⟨frame.entities trivial, ?_, frame.documents trivial, useIds_tables _ _ _,
    frame.oddRows trivial⟩
  rw [entity?, live_of_entities (frame.entities trivial)]
  refine find?_of_only (mem_live.mpr ⟨?_, live⟩) (decide_eq_true rfl) fun d hd same => ?_
  · exact mem_changeEntity.mpr ⟨e, (mem_live.mp he).1, if_pos own⟩
  · obtain ⟨x, -, rfl⟩ := mem_changeEntity.mp (mem_live.mp hd).1
    by_cases meant : x.id = e'.id
    · exact if_pos meant
    · rw [if_neg meant] at same
      exact absurd (of_decide_eq_true same) meant

/-- The fields of a live definition are replaced, if there are ids for all new ones. -/
theorem replaceFields_eq (found : db.entity? id = some e) (some : fields ≠ []) (actor : String)
    (ambient : Ambient) :
    if Number.maxInt64 < db.lastFieldId id + fields.length then
      db.replaceFields id fields actor ambient =
        .error (.database (.other "database or disk is full"))
    else ∃ e' db', db.replaceFields id fields actor ambient = .ok (e', db') ∧
      e.Redefines fields actor ambient e' ∧ db.Redefined e' db' := by
  obtain ⟨he, own⟩ := mem_of_entity? found
  have live := live_deleted he
  have next := nextFieldId_emptied db id some
  split
  · rename_i full
    rw [if_pos full] at next
    simp only [replaceFields, found, next]
  · rename_i room
    rw [if_neg room] at next
    simp only [replaceFields, found, next]
    refine ⟨_, _, rfl, ⟨rfl, ?_, ?_, ?_⟩, ?_⟩
    · rw [own]
      exact fun f hf => mem_sortFields_storedFields hf
    · rintro few draft maker moment rfl
      exact createEntity_empty maker moment few
    · intro other draft maker moment made other' created kind same
      obtain ⟨first, audit, eq⟩ := (created_of_createEntity created).fields
      have layout : draft.layout = e.layout := congrArg EntityKind.layout kind
      rw [eq, layout, same]
      exact content_sortFields_storedFields fields
    · refine redefined_useIds found ?_ ?_ _ _
      · exact own
      · exact live

end Store.Database

def titleFields : List FieldDraft := [{ name := " title", type := .string, length := some 80 }]

/-- The first notes are deleted, and the second ones, which have a body, may have a title. -/
def TakesTitles (g : Engine) : Prop :=
  (g.database.entities.all fun e => e.id != 1 || e.deleted) = true ∧
    g.database.lastFieldId 2 = 2 ∧
      (g.database.entity? 2).any (fun e => e.version == 1 && e.fields.map Field.name == ["body"] &&
        (validateFields titleFields e.layout).isOk) = true

instance (g : Engine) : Decidable (TakesTitles g) := inferInstanceAs (Decidable (_ ∧ _ ∧ _))

end EntityEngine
